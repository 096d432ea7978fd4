import Workspaces.Desktopfile.Position

/-!
# Tokens of a Desktopfile

A source is read as a sequence of tokens.  The sequence carries the position of
the end of the source, so that a reader can name it when tokens run out.
-/

namespace Workspaces.Desktopfile

inductive Token where
  /-- A bare word: the name of a statement, `do` or `end`. -/
  | word (text : String)
  | symbol (name : String)
  /-- A quoted text with its escapes resolved. -/
  | string (value : String)
  | comma
  | openParen
  | closeParen
  | openBrace
  | closeBrace
  | semicolon
  | newline
deriving DecidableEq, Repr

/-- How a message names a token. -/
def Token.shown : Token → String
  | word text => "`" ++ text ++ "`"
  | symbol name => "symbol `:" ++ name ++ "`"
  | string _ => "string"
  | comma => "`,`"
  | openParen => "`(`"
  | closeParen => "`)`"
  | openBrace => "`\x7b`"
  | closeBrace => "`\x7d`"
  | semicolon => "`;`"
  | newline => "end of line"

/-- How a message names the end of a source. -/
def shownEnd : String := "end of file"

structure TokenStream where
  tokens : List (Located Token)
  /-- The position after the last character of the source. -/
  stop : Position
deriving DecidableEq, Repr

end Workspaces.Desktopfile
