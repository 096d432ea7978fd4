import Workspaces.Files.Access
import Workspaces.Host
import Workspaces.Table

/-!
# A machine

A machine is a value that holds all that the program can see and change: files,
the environment, the clock and what was printed.  The program runs on it as a
state transformer, so a run is a function from machines to machines.

Its files belong to the user: none is kept from being read or written, a file that
was made can be written, and nothing else runs on the machine.
-/

namespace Workspaces

/-- What the program did that is no change of a file. -/
inductive Event where
  | printed (channel : Channel) (text : String)
  | logged (entry : LogEntry)
  /-- The program handed over to the shell that stands at `program`. -/
  | handedOver (invocation : Invocation) (program : Location)
deriving DecidableEq, Repr

structure Machine where
  files : Files
  /-- Where relative paths begin. -/
  directory : Location
  env : Table String
  /-- The home directory on record for the user's account. -/
  accountHome : Option String
  /-- Whether a terminal shows what is written to a channel. -/
  isTerminal : Channel → Bool
  /-- What the clock says at each reading. -/
  clock : Nat → Instant
  readings : Nat
  /-- The number that the next script is named by. -/
  nextScript : Nat
  /-- The events, the last one first. -/
  events : List Event

namespace Machine

def record (machine : Machine) (event : Event) : Machine :=
  { machine with events := event :: machine.events }

def directoryPath (machine : Machine) : Path := .ofNames true machine.directory

/-- The name of a script, with six digits in it. -/
def scriptName (number : Nat) : Path :=
  let digits := Nat.toDigits 10 (number % 1000000)
  let zeros := List.replicate (6 - digits.length) '0'
  .ofText ("desktop" ++ String.ofList (zeros ++ digits) ++ ".sh")

/-- Makes a script under the first free name, trying so many names. -/
def createScript (directory : Path) (text : String) :
    Nat → Machine → Except ScriptFault Path × Machine
  | 0, machine => (.error (.notCreated directory .alreadyExists), machine)
  | tries + 1, machine =>
    let path := directory.join (scriptName machine.nextScript)
    let next := { machine with nextScript := machine.nextScript + 1 }
    let node := Node.file (TextUnit.ofText text) false
    match machine.files.create machine.directory path node with
    | .ok files => (.ok path, { next with files := files })
    | .error .alreadyExists => createScript directory text tries next
    | .error fault => (.error (.notCreated path fault), next)

/-- The place of the program that an invocation starts. -/
def startPlace (machine : Machine) (invocation : Invocation) : Except Fault Location :=
  if invocation.hasNul then .error .nulInCommand
  else
    match machine.files.inspect machine.directory invocation.directory with
    | .error fault => .error fault
    | .ok (place, .directory) =>
      let searchPath := (machine.env.get? "PATH").getD Files.defaultSearchPath
      machine.files.findProgram place searchPath invocation.program
    | .ok _ => .error .notADirectory

end Machine

instance : Host (StateM Machine) where
  lookup name := fun machine => (machine.env.get? name, machine)
  accountHome := fun machine => (machine.accountHome, machine)
  currentDirectory := fun machine =>
    match machine.files.get? machine.directory with
    | some .directory => (.ok machine.directoryPath, machine)
    | _ => (.error .notFound, machine)
  now := fun machine =>
    (machine.clock machine.readings, { machine with readings := machine.readings + 1 })
  contains path := fun machine => (machine.files.contains machine.directory path, machine)
  isFile path := fun machine =>
    match machine.files.inspect machine.directory path with
    | .error fault => (.error fault, machine)
    | .ok (_, .file _ _) => (.ok true, machine)
    | .ok _ => (.ok false, machine)
  readText path := fun machine => (machine.files.readText machine.directory path, machine)
  writeText path text := fun machine =>
    match machine.files.writeText machine.directory path text with
    | .error fault => (.error fault, machine)
    | .ok files => (.ok (), { machine with files := files })
  makeDirectories path := fun machine =>
    let (result, files) := machine.files.makeDirectories machine.directory path
    (result, { machine with files := files })
  createScript directory text := fun machine =>
    let base := if directory.isAbsolute then directory else machine.directoryPath.join directory
    Machine.createScript base text (machine.files.entries.length + 1) machine
  isTerminal channel := fun machine => (machine.isTerminal channel, machine)
  print channel text := fun machine => ((), machine.record (.printed channel text))
  log entry := fun machine => ((), machine.record (.logged entry))
  handOver invocation := fun machine =>
    match machine.startPlace invocation with
    | .error fault => (.error fault, machine)
    | .ok place => (.ok (), machine.record (.handedOver invocation place))

end Workspaces
