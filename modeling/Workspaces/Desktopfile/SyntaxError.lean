import Workspaces.Desktopfile.Token
import Workspaces.Text.Escaped

/-!
# Errors in a Desktopfile

An error is a cause at a position.  The wording of every cause is given once,
by `Cause.message`.
-/

namespace Workspaces.Desktopfile

/-- How a block is opened, and so how it must be closed. -/
inductive Delimiter where
  | doEnd
  | braces
deriving DecidableEq, Repr

def Delimiter.closer : Delimiter → Token
  | doEnd => .word "end"
  | braces => .closeBrace

/-- What a reader wanted to see. -/
inductive Expected where
  | configuration
  | value
  | closeParen
  | blockOpener
  | endOfStatement
deriving DecidableEq, Repr

def Expected.shown : Expected → String
  | configuration => "`configuration`"
  | value => "a string or symbol"
  | closeParen => "`)`"
  | blockOpener => "`do` or `\x7b`"
  | endOfStatement => "end of statement"

inductive Cause where
  | missingSymbolName
  | unexpectedCharacter (c : Char)
  | unterminatedString
  | interpolation
  | outsideConfiguration (word : String)
  /-- `found` is `none` at the end of the source. -/
  | unexpected (expected : Expected) (found : Option Token)
  | argumentCount (keyword : String) (expected given : Nat)
  | unclosedBlock (delimiter : Delimiter)
  | notAStatement (found : Token)
  | missingTag
  | nestedConfiguration
  | unknownStatement (word : String)
  | invalidVariableName (name : String)
  | invalidAliasName (name : String)
deriving DecidableEq, Repr

def Cause.message : Cause → String
  | missingSymbolName => "expected a symbol name after `:`"
  | unexpectedCharacter c => "unexpected character " ++ quotedChar c
  | unterminatedString => "unterminated string"
  | interpolation => "string interpolation is not supported"
  | outsideConfiguration word => "`" ++ word ++ "` must appear inside a configuration block"
  | unexpected expected found =>
    "expected " ++ expected.shown ++ ", found " ++ (found.map Token.shown).getD shownEnd
  | argumentCount keyword expected given =>
    "`" ++ keyword ++ "` takes " ++ toString expected ++ " argument(s), " ++ toString given ++
      " given"
  | unclosedBlock delimiter => "block is never closed, expected " ++ delimiter.closer.shown
  | notAStatement found => "expected a statement, found " ++ found.shown
  | missingTag => "`os` needs at least one operating system tag"
  | nestedConfiguration => "configuration blocks cannot be nested"
  | unknownStatement word => "unknown statement `" ++ word ++ "`"
  | invalidVariableName name => "invalid environment variable name " ++ quotedText name
  | invalidAliasName name => "invalid alias name " ++ quotedText name

structure SyntaxError where
  position : Position
  cause : Cause
deriving DecidableEq, Repr

/-- An error with the name of the source it is in, usually a path. -/
structure SourceError where
  origin : String
  position : Position
  cause : Cause
deriving DecidableEq, Repr

def SyntaxError.inSource (error : SyntaxError) (origin : String) : SourceError :=
  ⟨origin, error.position, error.cause⟩

def SourceError.message (error : SourceError) : String :=
  error.origin ++ ":" ++ error.position.text ++ ": " ++ error.cause.message

end Workspaces.Desktopfile
