import Workspaces.Command
import Workspaces.Command.Piece

/-!
# Command lines

A command line names a command, after which come the words and the options of
that command.  It is read from left to right, and the first thing that is wrong
with it, or the first call for help, decides what becomes of it.
-/

namespace Workspaces

structure CommandLine where
  /-- Whether the log is to tell more. -/
  verbose : Bool
  command : Command
deriving DecidableEq, Repr

/-- Why a command line asks for no command. -/
inductive UsageError where
  | help
  | version
  | invalid
deriving DecidableEq, Repr

/-- What a command is given. -/
structure Operands where
  verbose : Bool
  words : List String
  tag : Option String
  workspace : Option String
deriving DecidableEq, Repr

namespace Operands

def empty : Operands := ⟨false, [], none, none⟩

/-- Adds a value for an option, which may be given once only. -/
def withValue? (given : Operands) (name : OptionName) (value : String) : Option Operands :=
  match name with
  | .tag => if given.tag.isSome then none else some { given with tag := some value }
  | .workspace =>
    if given.workspace.isSome then none else some { given with workspace := some value }
  | _ => none

end Operands

namespace CommandLine

/-- The names of the commands, at the top and among those on tags. -/
def names : List String := ["new", "list", "go", "script", "check", "tags", "help"]

def tagNames : List String := ["new", "list", "add", "show", "help"]

/-- Reads what a command is given: so many words, and the options that pick
what is shown if it takes them. -/
def readOperands (limit : Nat) (takesTargets : Bool) (given : Operands) :
    List Piece → Except UsageError Operands
  | [] => .ok given
  | .wordsOnly :: pieces => readOperands limit takesTargets given pieces
  | .word word :: pieces =>
    if given.words.length < limit then
      readOperands limit takesTargets { given with words := given.words ++ [word] } pieces
    else .error .invalid
  | .option .help none :: _ => .error .help
  | .option .verbose none :: pieces =>
    if given.verbose then .error .invalid
    else readOperands limit takesTargets { given with verbose := true } pieces
  | .option name (some value) :: pieces =>
    match takesTargets, given.withValue? name value with
    | true, some given => readOperands limit takesTargets given pieces
    | _, _ => .error .invalid
  | .option name none :: .word value :: pieces =>
    match takesTargets, given.withValue? name value with
    | true, some given => readOperands limit takesTargets given pieces
    | _, _ => .error .invalid
  | _ => .error .invalid

/-- Reads the options in front of a command's name, and the name.  The version can be
asked for only at the top. -/
def readName (top verbose : Bool) : List Piece → Except UsageError (Bool × String × List Piece)
  | .word name :: pieces => .ok (verbose, name, pieces)
  | .option .help none :: _ => .error .help
  | .option .version none :: _ => .error (if top then .version else .invalid)
  | .option .verbose none :: pieces =>
    if verbose then .error .invalid else readName top true pieces
  | _ => .error .invalid

/-- What becomes of a call for help with the command that the pieces name, given the
names that may come first. -/
def helpOn (names : List String) : List Piece → UsageError
  | [] => .help
  | [.word name] => if name ∈ names then .help else .invalid
  | [.word "tags", .word name] =>
    if "tags" ∈ names ∧ name ∈ tagNames then .help else .invalid
  | _ => .invalid

/-- Reads a command to its end. -/
def finish (verbose : Bool) (limit : Nat) (takesTargets : Bool) (pieces : List Piece)
    (command? : Operands → Option Command) : Except UsageError CommandLine :=
  match readOperands limit takesTargets .empty pieces with
  | .error error => .error error
  | .ok given =>
    match command? given with
    | none => .error .invalid
    | some command => .ok ⟨verbose || given.verbose, command⟩

def ofTagPieces (verbose : Bool) (pieces : List Piece) : Except UsageError CommandLine :=
  match readName false false pieces with
  | .error error => .error error
  | .ok (also, name, pieces) =>
    let verbose := verbose || also
    match name with
    | "new" => finish verbose 1 false pieces fun given =>
      match given.words with
      | [name] => some (.tags (.new name))
      | _ => none
    | "list" => finish verbose 0 false pieces fun _ => some (.tags .list)
    | "add" => finish verbose 2 false pieces fun given =>
      match given.words with
      | [workspace, tag] => some (.tags (.add workspace tag))
      | _ => none
    | "show" => finish verbose 0 true pieces fun given =>
      if given.tag.isSome = given.workspace.isSome then none
      else some (.tags (.display given.tag given.workspace))
    | "help" => .error (helpOn tagNames pieces)
    | _ => .error .invalid

def ofPieces (pieces : List Piece) : Except UsageError CommandLine :=
  match readName true false pieces with
  | .error error => .error error
  | .ok (verbose, name, pieces) =>
    match name with
    | "new" => finish verbose 2 false pieces fun given =>
      match given.words with
      | [name, description] => some (.new name description)
      | _ => none
    | "list" => finish verbose 0 false pieces fun _ => some .list
    | "go" => finish verbose 2 false pieces fun given =>
      match given.words with
      | workspace :: variant => some (.go workspace variant.head?)
      | [] => none
    | "script" => finish verbose 2 false pieces fun given =>
      match given.words with
      | workspace :: variant => some (.script workspace variant.head?)
      | [] => none
    | "check" => finish verbose 1 false pieces fun given =>
      match given.words with
      | [workspace] => some (.check workspace)
      | _ => none
    | "tags" => ofTagPieces verbose pieces
    | "help" => .error (helpOn names pieces)
    | _ => .error .invalid

/-- The command line that the words are, the name of the program left out. -/
def ofWords (words : List String) : Except UsageError CommandLine := ofPieces (Piece.ofWords words)

end CommandLine

end Workspaces
