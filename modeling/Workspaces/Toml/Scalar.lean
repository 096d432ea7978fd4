import Workspaces.Instant.Date
import Workspaces.Text.Split
import Workspaces.Toml.Value

/-!
# Reading plain values of TOML

A value without quotes or brackets is a truth value, a number, or a date, a
time or both.  It is read as a word first, which goes on up to a blank, a line
end or a mark that stands between values.  Between a date and a time a single
blank may stand in the word.

An integer is told from other values by how it begins and by where underscores
stand in it.  What goes wrong further on makes it illegible, which matters only
to who looks at it.
-/

namespace Workspaces.Toml

/-- The characters that end a value without quotes. -/
def wordEnds : List Char := ['=', ',', '[', ']', '\x7b', '\x7d', ' ', '\t', '#', '\r', '\n']

def isWordChar (c : Char) : Bool := !wordEnds.contains c

/-! ## Numbers -/

/-- The digits of a number in which underscores may stand between digits. -/
def digits? (isDigit : Char → Bool) (word : List Char) : Option (List Char) :=
  let groups := splitOn '_' word
  if groups.all fun group => !group.isEmpty && group.all isDigit then some groups.flatten else none

def digitValue (c : Char) : Nat :=
  if c.isDigit then c.toNat - '0'.toNat
  else if c.isUpper then c.toNat - 'A'.toNat + 10
  else c.toNat - 'a'.toNat + 10

/-- The number that digits in a base spell. -/
def ofDigits (base : Nat) (digits : List Char) : Nat :=
  digits.foldl (fun value digit => value * base + digitValue digit) 0

def isHexDigit (c : Char) : Bool :=
  c.isDigit || ('a' ≤ c && c ≤ 'f') || ('A' ≤ c && c ≤ 'F')

def isOctalDigit (c : Char) : Bool := '0' ≤ c && c ≤ '7'

def isBinaryDigit (c : Char) : Bool := c = '0' || c = '1'

inductive Sign where
  | plus
  | minus
deriving DecidableEq, Repr

/-- Splits a sign off a word. -/
def splitSign : List Char → Option Sign × List Char
  | '-' :: word => (some .minus, word)
  | '+' :: word => (some .plus, word)
  | word => (none, word)

/-- The number of the given size. -/
def withSign (sign : Option Sign) (size : Nat) : Int :=
  if sign = some .minus then -(size : Int) else size

/-- The digits of a whole number in base ten.  It has no needless zero in front;
but between a sign and the digits an underscore may stand, and then zeros too. -/
def wholeDigits? (sign : Option Sign) (word : List Char) : Option (List Char) :=
  match sign, word with
  | some _, '_' :: word => digits? Char.isDigit word
  | _, word =>
    match digits? Char.isDigit word with
    | some ('0' :: _ :: _) => none
    | result => result

/-- The greatest integers that are told apart have 128 bits, with or without a sign. -/
def isInRange (value : Int) : Bool :=
  -((1 <<< 127 : Nat) : Int) ≤ value && value < ((1 <<< 128 : Nat) : Int)

def integer? (word : List Char) : Option Int :=
  match word with
  | '0' :: 'x' :: digits => (digits? isHexDigit digits).map fun digits => ofDigits 16 digits
  | '0' :: 'o' :: digits => (digits? isOctalDigit digits).map fun digits => ofDigits 8 digits
  | '0' :: 'b' :: digits => (digits? isBinaryDigit digits).map fun digits => ofDigits 2 digits
  | word =>
    let (sign, digits) := splitSign word
    (wholeDigits? sign digits).map fun digits => withSign sign (ofDigits 10 digits)

/-- Whether the groups between underscores look like those of an integer.  The first
consists of digits without a zero in front, and may be empty after a sign.  Each of the
others begins with a digit of base sixteen, and each of them but the last ends with one. -/
def hasIntegerGroups (sign : Option Sign) (body : List Char) : Bool :=
  match splitOn '_' body with
  | first :: second :: others =>
    (sign.isSome || !first.isEmpty) && first.all Char.isDigit && first.head? ≠ some '0' &&
      (second :: others).all (fun group => group.head?.any isHexDigit) &&
      (second :: others).dropLast.all fun group => group.getLast?.any isHexDigit
  | _ => false

/-- Whether a word that is no integer is taken for one: it marks a base and has no digits,
or its groups look like those of an integer and it has no mark of other numbers. -/
def isTakenForInteger (word : List Char) : Bool :=
  let (sign, body) := splitSign word
  word = ['0', 'x'] || word = ['0', 'o'] || word = ['0', 'b'] ||
    !body.any (fun c => c = '.' || c = 'e' || c = 'E') && hasIntegerGroups sign body

/-- The parts of a word before and after the first character of the given kind. -/
def splitAtFirst (isMark : Char → Bool) (word : List Char) : List Char × Option (List Char) :=
  match word.dropWhile fun c => !isMark c with
  | [] => (word, none)
  | _ :: rest => (word.takeWhile fun c => !isMark c, some rest)

/-- Whether digits times a power of ten exceed what double precision can hold. -/
def overflows (digits : List Char) (exponent : Int) : Bool :=
  let significant := digits.dropWhile (· = '0')
  let magnitude : Int := significant.length + exponent
  if significant.isEmpty ∨ magnitude ≤ 308 then false
  else if magnitude > 309 then true
  else
    let value := ofDigits 10 significant
    let bound : Nat := (1 <<< 1024) - (1 <<< 970)
    if 0 ≤ exponent then bound ≤ value * Nat.pow 10 exponent.toNat
    else bound * Nat.pow 10 (-exponent).toNat ≤ value

/-- The digits before and after the point and the exponent of a number that is no integer. -/
def floatParts? (sign : Option Sign) (word : List Char) : Option (List Char × List Char × Int) :=
  let (mantissa, exponent) := splitAtFirst (fun c => c = 'e' ∨ c = 'E') word
  let (whole, fraction) := splitAtFirst (· = '.') mantissa
  if fraction.isNone ∧ exponent.isNone then none
  else
    match wholeDigits? sign whole, fraction.mapM (digits? Char.isDigit) with
    | some whole, some fraction =>
      match exponent with
      | none => some (whole, fraction.getD [], 0)
      | some exponent =>
        let (sign, digits) := splitSign exponent
        (digits? Char.isDigit digits).map fun digits =>
          (whole, fraction.getD [], withSign sign (ofDigits 10 digits))
    | _, _ => none

/-- The value of a word that is an integer or is taken for one. -/
def ofInteger? (word : List Char) : Option Value :=
  match integer? word with
  | some value =>
    some (if isInRange value then .integer value else .illegible (String.ofList word))
  | none => if isTakenForInteger word then some (.illegible (String.ofList word)) else none

/-- The value of a word that is a number, but no integer. -/
def ofFloat? (word : List Char) : Option Value :=
  let (sign, body) := splitSign word
  if body = ['i', 'n', 'f'] ∨ body = ['n', 'a', 'n'] then some (.float (String.ofList word))
  else
    (floatParts? sign body).map fun (whole, fraction, exponent) =>
      if overflows (whole ++ fraction) (exponent - fraction.length) then
        .illegible (String.ofList word)
      else .float (String.ofList word)

/-! ## Dates and times -/

/-- A number of two digits not above a limit. -/
def readTwoDigits (limit : Nat) : List Char → Option (Nat × List Char)
  | a :: b :: rest =>
    if a.isDigit ∧ b.isDigit ∧ ofDigits 10 [a, b] ≤ limit then some (ofDigits 10 [a, b], rest)
    else none
  | _ => none

/-- The text after a date. -/
def skipDate? : List Char → Option (List Char)
  | a :: b :: c :: d :: '-' :: rest =>
    if [a, b, c, d].all Char.isDigit then
      match readTwoDigits 12 rest with
      | some (month, '-' :: rest) =>
        match readTwoDigits 31 rest with
        | some (day, rest) =>
          if (Date.mk (ofDigits 10 [a, b, c, d]) month day).isValid then some rest else none
        | none => none
      | _ => none
    else none
  | _ => none

/-- The text after the seconds of a time and a fraction. -/
def skipSeconds? (word : List Char) : Option (List Char) :=
  match readTwoDigits 60 word with
  | some (_, '.' :: rest) =>
    if (rest.head?.map Char.isDigit).getD false then some (rest.dropWhile Char.isDigit) else none
  | some (_, rest) => some rest
  | none => none

/-- The text after the hours and minutes of a time, and after its seconds if it has any. -/
def skipTime? (word : List Char) : Option (List Char) :=
  match readTwoDigits 23 word with
  | some (_, ':' :: rest) =>
    match readTwoDigits 59 rest with
    | some (_, ':' :: rest) => skipSeconds? rest
    | some (_, rest) => some rest
    | none => none
  | _ => none

/-- Whether a word is the distance of a time from universal time, or nothing. -/
def isOffset (word : List Char) : Bool :=
  match word with
  | [] => true
  | ['Z'] => true
  | ['z'] => true
  | sign :: rest =>
    if sign = '+' ∨ sign = '-' then
      match readTwoDigits 23 rest with
      | some (_, ':' :: rest) =>
        match readTwoDigits 59 rest with
        | some (_, []) => true
        | _ => false
      | _ => false
    else false

def isDateTime (word : List Char) : Bool :=
  match skipDate? word with
  | none => skipTime? word = some []
  | some [] => true
  | some (mark :: rest) =>
    if mark = 'T' ∨ mark = 't' ∨ mark = ' ' then
      match skipTime? rest with
      | some offset => isOffset offset
      | none => false
    else false

/-! ## Words -/

/-- The word at the beginning of a text and the text after it. -/
def readWord (text : List Char) : List Char × List Char :=
  match text.dropWhile isWordChar with
  | ' ' :: time =>
    if skipDate? (text.takeWhile isWordChar) = some [] ∧
        (time.head?.map Char.isDigit).getD false then
      (text.takeWhile isWordChar ++ ' ' :: time.takeWhile isWordChar, time.dropWhile isWordChar)
    else (text.takeWhile isWordChar, ' ' :: time)
  | rest => (text.takeWhile isWordChar, rest)

theorem append_readWord (text : List Char) : (readWord text).1 ++ (readWord text).2 = text := by
  have happend := List.takeWhile_append_dropWhile (p := isWordChar) (l := text)
  unfold readWord
  split
  · rename_i time hrest
    have htime := List.takeWhile_append_dropWhile (p := isWordChar) (l := time)
    rw [hrest] at happend
    split
    · simp [htime, happend]
    · exact happend
  · exact happend

/-- The value that a word is. -/
def ofWord? (word : List Char) : Option Value :=
  if word = ['t', 'r', 'u', 'e'] then some (.boolean true)
  else if word = ['f', 'a', 'l', 's', 'e'] then some (.boolean false)
  else
    match ofInteger? word with
    | some value => some value
    | none =>
      match ofFloat? word with
      | some value => some value
      | none => if isDateTime word then some (.dateTime (String.ofList word)) else none

end Workspaces.Toml
