import Workspaces.Files.Walk

/-!
# Reading and writing files

Every operation takes the directory from which relative paths are walked.
An operation that fails changes nothing, except that a tree of directories may
be made in part.
-/

namespace Workspaces.Files

/-- What a path leads to, links followed. -/
def inspect (files : Files) (location : Location) (path : Path) : Except Fault (Location × Node) :=
  match files.find .inspect location path with
  | .error fault => .error fault
  | .ok (.vacant _) => .error .notFound
  | .ok (.occupied place node) => .ok (place, node)

def contains (files : Files) (location : Location) (path : Path) : Bool :=
  match files.inspect location path with
  | .ok _ => true
  | .error _ => false

def isDirectory (files : Files) (location : Location) (path : Path) : Bool :=
  match files.inspect location path with
  | .ok (_, .directory) => true
  | _ => false

def readText (files : Files) (location : Location) (path : Path) : Except Fault String :=
  match files.inspect location path with
  | .error fault => .error fault
  | .ok (_, .file contents _) =>
    match TextUnit.text? contents with
    | none => .error .notText
    | some text => .ok text
  | .ok (_, .directory) => .error .isADirectory
  | .ok (_, .link _) => .error .tooManyLinks

/-- Gives a file new contents.  The file is made if it is missing. -/
def write (files : Files) (location : Location) (path : Path) (contents : List TextUnit) :
    Except Fault Files :=
  match files.find .write location path with
  | .error fault => .error fault
  | .ok (.vacant place) => .ok (files.set place (.file contents false))
  | .ok (.occupied place (.file _ executable)) =>
    .ok (files.set place (.file contents executable))
  | .ok (.occupied _ _) => .error .isADirectory

def writeText (files : Files) (location : Location) (path : Path) (text : String) :
    Except Fault Files :=
  files.write location path (TextUnit.ofText text)

/-- Puts a node where there is nothing yet. -/
def create (files : Files) (location : Location) (path : Path) (node : Node) :
    Except Fault Files :=
  match files.find .entry location path with
  | .error fault => .error fault
  | .ok (.vacant place) => .ok (files.set place node)
  | .ok (.occupied _ _) => .error .alreadyExists

/-- Makes the directory that the names lead to, and those on the way that are missing. -/
def makeTree (files : Files) (location : Location) (absolute : Bool) (names : List Path.Name) :
    Except Fault Unit × Files :=
  if names = [] ∧ !absolute then (.ok (), files)
  else
    let path := Path.ofNames absolute names
    match files.create location path .directory with
    | .ok made => (.ok (), made)
    | .error .notFound =>
      match names with
      | [] => (.error .noTree, files)
      | first :: others =>
        match makeTree files location absolute (first :: others).dropLast with
        | (.error fault, made) => (.error fault, made)
        | (.ok (), made) =>
          match made.create location path .directory with
          | .ok done => (.ok (), done)
          | .error fault =>
            if made.isDirectory location path then (.ok (), made) else (.error fault, made)
    | .error fault =>
      if files.isDirectory location path then (.ok (), files) else (.error fault, files)
termination_by names.length
decreasing_by
  simp only [List.length_dropLast, List.length_cons]
  omega

/-- Makes a directory and those on the way to it. -/
def makeDirectories (files : Files) (location : Location) (path : Path) :
    Except Fault Unit × Files :=
  makeTree files location path.isAbsolute path.names

/-- Where the program that a path leads to stands. -/
def programAt (files : Files) (location : Location) (path : Path) : Except Fault Location :=
  match files.inspect location path with
  | .error fault => .error fault
  | .ok (place, .file _ true) => .ok place
  | .ok _ => .error .permissionDenied

/-- Looks for a program in directories, one after the other.  A program that
was found but may not run is what is complained about; else it is the fault met last. -/
def searchProgram (files : Files) (location : Location) (program : Path) (fault : Fault) :
    List Path → Except Fault Location
  | [] => .error fault
  | directory :: directories =>
    let candidate := if directory.isEmpty then program else directory.join program
    match files.programAt location candidate with
    | .ok place => .ok place
    | .error .permissionDenied =>
      searchProgram files location program .permissionDenied directories
    | .error next =>
      if next = .notFound ∨ next = .notADirectory then
        searchProgram files location program
          (if fault = .permissionDenied then fault else next) directories
      else .error next

/-- The directories where programs are looked for if none are given. -/
def defaultSearchPath : String := "/bin:/usr/bin"

/-- The beginning of a name, which is too long for a name if the whole is. -/
def cutName (program : Path) : Path := ⟨program.units.take (maxNameBytes + 1)⟩

/-- Where the named program stands.  A name without a slash is looked for along `searchPath`. -/
def findProgram (files : Files) (location : Location) (searchPath : String) (program : Path) :
    Except Fault Location :=
  if program.isEmpty then .error .notFound
  else if program.units.contains Path.slash then files.programAt location program
  else
    let directories := (splitOn ':' searchPath.toList).map fun chars =>
      Path.ofText (String.ofList chars)
    searchProgram files location (cutName program) .notFound directories

end Workspaces.Files
