/-!
# Quoting for the shell

A text becomes one word of a shell command in two ways.  `quote` makes a word
that stands for exactly the text.  `quoteExpanding` makes a word in which
references to variables still expand, while the characters that would end the
word or start a command substitution are escaped.
-/

namespace Workspaces.Shell

/-- A character inside single quotes; the quote itself is written outside them. -/
def quotedChar (c : Char) : List Char :=
  if c = '\'' then ['\'', '\\', '\'', '\''] else [c]

/-- A text as one word in single quotes. -/
def quoteChars (text : List Char) : List Char :=
  '\'' :: text.flatMap quotedChar ++ ['\'']

def quote (text : String) : String :=
  String.ofList (quoteChars text.toList)

/-- Whether a character, followed by `rest`, would act on the word it stands in. -/
def isActive (c : Char) (rest : List Char) : Bool :=
  c = '"' || c = '\\' || c = '`' || (c = '$' && rest.head? = some '(')

def escapeActive : List Char → List Char
  | [] => []
  | c :: rest =>
    if isActive c rest then '\\' :: c :: escapeActive rest else c :: escapeActive rest

theorem isActive_iff {c : Char} {rest : List Char} :
    isActive c rest = true ↔
      c = '"' ∨ c = '\\' ∨ c = '`' ∨ c = '$' ∧ rest.head? = some '(' := by
  simp [isActive, or_assoc]

theorem escapeActive_of_active {c : Char} {rest : List Char} (h : isActive c rest = true) :
    escapeActive (c :: rest) = '\\' :: c :: escapeActive rest :=
  if_pos h

theorem escapeActive_of_not_active {c : Char} {rest : List Char}
    (h : ¬ isActive c rest = true) : escapeActive (c :: rest) = c :: escapeActive rest :=
  if_neg h

/-- A text as one word in double quotes. -/
def quoteExpandingChars (text : List Char) : List Char :=
  '"' :: escapeActive text ++ ['"']

def quoteExpanding (text : String) : String :=
  String.ofList (quoteExpandingChars text.toList)

theorem toList_quoteExpanding (value : String) :
    (quoteExpanding value).toList = '"' :: (escapeActive value.toList ++ ['"']) := by
  simp [quoteExpanding, quoteExpandingChars]

end Workspaces.Shell
