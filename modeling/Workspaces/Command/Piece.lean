import Workspaces.Text.Split

/-!
# The pieces of a command line

A command line is a list of words, some of which hold options.  A word that
begins with two dashes is one long option, and one that begins with a single
dash holds an option for each of its letters.  An option that takes a value
takes all that follows its letter, or what stands after an equals sign.  A lone
dash is an ordinary word, and after two dashes that stand alone all words are.
-/

namespace Workspaces

inductive OptionName where
  | verbose
  | help
  | version
  | tag
  | workspace
deriving DecidableEq, Repr

namespace OptionName

def ofLetter? : Char → Option OptionName
  | 'v' => some verbose
  | 'h' => some help
  | 'V' => some version
  | 't' => some tag
  | 'w' => some workspace
  | _ => none

def ofLongName? : String → Option OptionName
  | "verbose" => some verbose
  | "help" => some help
  | "version" => some version
  | "tag" => some tag
  | "workspace" => some workspace
  | _ => none

def takesValue : OptionName → Bool
  | tag => true
  | workspace => true
  | _ => false

end OptionName

inductive Piece where
  | word (text : String)
  /-- An option with the value that is attached to it, if one is. -/
  | option (name : OptionName) (value : Option String)
  /-- Two dashes that stand alone. -/
  | wordsOnly
  /-- An option that no command knows. -/
  | unknown
deriving DecidableEq, Repr

namespace Piece

/-- The value that is attached to the letter of an option. -/
def attachedValue : List Char → Option String
  | [] => none
  | '=' :: value => some (String.ofList value)
  | value => some (String.ofList value)

/-- The options in the letters after a single dash.  Nothing is read after a letter that
stands for no option. -/
def ofLetters : List Char → List Piece
  | [] => []
  | letter :: letters =>
    match OptionName.ofLetter? letter with
    | none => [unknown]
    | some name =>
      if name.takesValue then [option name (attachedValue letters)]
      else option name none :: ofLetters letters

/-- The option that is written after two dashes. -/
def ofLong (text : List Char) : Piece :=
  match OptionName.ofLongName? (String.ofList (text.takeWhile (· ≠ '='))) with
  | none => unknown
  | some name =>
    match text.dropWhile (· ≠ '=') with
    | [] => option name none
    | _ :: value => option name (some (String.ofList value))

/-- The pieces of the words of a command line. -/
def ofWords : List String → List Piece
  | [] => []
  | first :: others =>
    match first.toList with
    | ['-', '-'] => wordsOnly :: others.map word
    | '-' :: '-' :: text => ofLong text :: ofWords others
    | '-' :: letter :: letters => ofLetters (letter :: letters) ++ ofWords others
    | _ => word first :: ofWords others

end Piece

end Workspaces
