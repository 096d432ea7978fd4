import Workspaces.Proofs.Flattening

/-!
# Lexemes and gaps

The lexical grammar of a Desktopfile is written down here without the reader.  A
source is cut into pieces, each a gap and the lexeme after it, and a last gap.  A
lexeme stands for a token.  The position of the token is told from the text before
the lexeme alone: the line ends in it and the characters after the last of them.
-/

namespace Workspaces

namespace Position

/-- The position behind a text that begins a source. -/
def reached (before : List Char) : Position :=
  ⟨1 + before.count '\n', 1 + (before.reverse.takeWhile fun c => c ≠ '\n').length⟩

theorem advance_reached (before : List Char) (c : Char) :
    (reached before).advance c = reached (before ++ [c]) := by
  by_cases hc : c = '\n'
  · simp [reached, advance, hc, Nat.add_assoc]
  · simp [reached, advance, hc, Nat.add_assoc]

theorem after_reached (before text : List Char) :
    (reached before).after text = reached (before ++ text) := by
  induction text generalizing before with
  | nil =>
      rw [after_nil, List.append_nil]
  | cons c text ih =>
      rw [after_cons, advance_reached, ih, List.append_assoc]
      rfl

end Position

namespace Desktopfile

namespace Lexical

/-! ## Gaps -/

def IsBlank (c : Char) : Prop :=
  c = ' ' ∨ c = '\t' ∨ c = '\r'

/-- Blanks and comments in front of what is left.  A comment goes on to the end of its
line, so nothing comes after it in its gap. -/
inductive Gap : List Char → List Char → Prop
  | nil {rest : List Char} : Gap [] rest
  | blank {c : Char} {gap rest : List Char} : IsBlank c → Gap gap rest → Gap (c :: gap) rest
  | comment {text rest : List Char} :
      '\n' ∉ text → (∀ c ∈ rest.head?, c = '\n') → Gap ('#' :: text) rest

/-! ## Lexemes -/

def marks : List (Char × Token) :=
  [('\n', .newline), (',', .comma), ('(', .openParen), (')', .closeParen),
    ('\x7b', .openBrace), ('\x7d', .closeBrace), (';', .semicolon)]

/-- A text between single quotes with the closing quote, and what it says. -/
inductive SingleQuoted : List Char → List Char → Prop
  | close : SingleQuoted ['\''] []
  | escape {c : Char} {text value : List Char} :
      c = '\'' ∨ c = '\\' → SingleQuoted text value → SingleQuoted ('\\' :: c :: text) (c :: value)
  | kept {text value : List Char} :
      text.head? ≠ some '\'' → text.head? ≠ some '\\' → SingleQuoted text value →
        SingleQuoted ('\\' :: text) ('\\' :: value)
  | plain {c : Char} {text value : List Char} :
      c ≠ '\'' → c ≠ '\\' → SingleQuoted text value → SingleQuoted (c :: text) (c :: value)

/-- The characters that may follow a backslash between double quotes, each with the
character that the two stand for. -/
def escapes : List (Char × Char) :=
  [('n', '\n'), ('t', '\t'), ('r', '\r'), ('0', '\x00'), ('e', '\x1b'), ('"', '"'),
    ('\\', '\\'), ('$', '$'), ('#', '#')]

/-- What a backslash and a character say between double quotes. -/
inductive Escaped : Char → List Char → Prop
  | known {c meaning : Char} : (c, meaning) ∈ escapes → Escaped c [meaning]
  | kept {c : Char} : c ∉ escapes.map Prod.fst → Escaped c ['\\', c]

/-- A text between double quotes with the closing quote, and what it says. -/
inductive DoubleQuoted : List Char → List Char → Prop
  | close : DoubleQuoted ['"'] []
  | escape {c : Char} {meaning text value : List Char} :
      Escaped c meaning → DoubleQuoted text value →
        DoubleQuoted ('\\' :: c :: text) (meaning ++ value)
  | plain {c : Char} {text value : List Char} :
      c ≠ '"' → c ≠ '\\' → ¬ (c = '#' ∧ text.head? = some '\x7b') → DoubleQuoted text value →
        DoubleQuoted (c :: text) (c :: value)

/-- A lexeme and the token that it stands for.  A word has the form of the name of a
variable. -/
inductive Lexeme : List Char → Token → Prop
  | mark {c : Char} {token : Token} : (c, token) ∈ marks → Lexeme [c] token
  | word {name : String} : VariableName name → Lexeme name.toList (.word name)
  | symbol {name : String} : VariableName name → Lexeme (':' :: name.toList) (.symbol name)
  | single {text : List Char} {value : String} :
      SingleQuoted text value.toList → Lexeme ('\'' :: text) (.string value)
  | double {text : List Char} {value : String} :
      DoubleQuoted text value.toList → Lexeme ('"' :: text) (.string value)

def IsWordPart (c : Char) : Prop :=
  IsLetterOrUnderscore c ∨ IsDigit c

/-- What is left after a lexeme does not prolong it: words are as long as can be. -/
def IsWhole : Token → List Char → Prop
  | .word _, rest => ∀ c ∈ rest.head?, ¬ IsWordPart c
  | .symbol _, rest => ∀ c ∈ rest.head?, ¬ IsWordPart c
  | _, _ => True

/-! ## Splits -/

/-- A gap and the lexeme after it, with the token that the lexeme stands for. -/
structure Piece where
  gap : List Char
  lexeme : List Char
  token : Token

def Piece.text (piece : Piece) : List Char := piece.gap ++ piece.lexeme

/-- A text is cut into pieces and a last gap. -/
inductive Splits : List Char → List Piece → List Char → Prop
  | last {gap : List Char} : Gap gap [] → Splits gap [] gap
  | piece {gap lexeme rest last : List Char} {token : Token} {pieces : List Piece} :
      Gap gap (lexeme ++ rest) → Lexeme lexeme token → IsWhole token rest →
        Splits rest pieces last →
          Splits (gap ++ lexeme ++ rest) (⟨gap, lexeme, token⟩ :: pieces) last

/-- The tokens of some pieces, each at the position of its lexeme.  The text before the
first piece is given. -/
def locate (before : List Char) : List Piece → List (Located Token)
  | [] => []
  | piece :: pieces =>
      ⟨piece.token, .reached (before ++ piece.gap)⟩ :: locate (before ++ piece.text) pieces

/-- Nothing of a text is lost when it is split. -/
theorem Splits.text_eq {text last : List Char} {pieces : List Piece}
    (h : Splits text pieces last) : pieces.flatMap Piece.text ++ last = text := by
  induction h with
  | last hgap =>
      rfl
  | piece hgap hlexeme hwhole hrest ih =>
      rw [List.flatMap_cons, List.append_assoc, ih]
      rfl

theorem map_value_locate (before : List Char) (pieces : List Piece) :
    (locate before pieces).map Located.value = pieces.map Piece.token := by
  induction pieces generalizing before with
  | nil =>
      rfl
  | cons piece pieces ih =>
      rw [locate, List.map_cons, List.map_cons, ih]

end Lexical

end Desktopfile

end Workspaces
