import Workspaces.Text.Escaped

/-!
# Text that may be broken

Bytes are read as UTF-8.  Where they spell no character, as many of them as
begin a character are kept together, and one replacement sign is shown for
them.  A text that is not broken is the list of its characters.
-/

namespace Workspaces

/-- A character, or bytes that are none. -/
inductive TextUnit where
  | char (c : Char)
  | broken (bytes : List UInt8)
deriving DecidableEq, Repr

namespace TextUnit

def char? : TextUnit → Option Char
  | char c => some c
  | broken _ => none

/-- The number of bytes of the unit. -/
def byteCount : TextUnit → Nat
  | char c => c.utf8Size
  | broken bytes => bytes.length

/-- The number of bytes of units. -/
def byteCountOf (units : List TextUnit) : Nat :=
  units.foldr (fun unit count => unit.byteCount + count) 0

/-- The character that is shown for the unit. -/
def shown : TextUnit → Char
  | char c => c
  | broken _ => '\ufffd'

/-- The ranges in which the bytes after a first byte must lie; none after a
byte that begins no character. -/
def followers? (first : UInt8) : Option (List (UInt8 × UInt8)) :=
  if first ≤ 0x7f then some []
  else if 0xc2 ≤ first ∧ first ≤ 0xdf then some [(0x80, 0xbf)]
  else if first = 0xe0 then some [(0xa0, 0xbf), (0x80, 0xbf)]
  else if first = 0xed then some [(0x80, 0x9f), (0x80, 0xbf)]
  else if 0xe1 ≤ first ∧ first ≤ 0xef then some [(0x80, 0xbf), (0x80, 0xbf)]
  else if first = 0xf0 then some [(0x90, 0xbf), (0x80, 0xbf), (0x80, 0xbf)]
  else if 0xf1 ≤ first ∧ first ≤ 0xf3 then some [(0x80, 0xbf), (0x80, 0xbf), (0x80, 0xbf)]
  else if first = 0xf4 then some [(0x80, 0x8f), (0x80, 0xbf), (0x80, 0xbf)]
  else none

/-- How many bytes lie in the ranges, one after the other. -/
def countWithin : List (UInt8 × UInt8) → List UInt8 → Nat
  | range :: ranges, byte :: bytes =>
    if range.1 ≤ byte ∧ byte ≤ range.2 then countWithin ranges bytes + 1 else 0
  | _, _ => 0

/-- The bits that a first byte with so many followers gives to its character. -/
def firstBits (first : UInt8) (followers : Nat) : Nat :=
  match followers with
  | 0 => first.toNat
  | 1 => first.toNat % 32
  | 2 => first.toNat % 16
  | _ => first.toNat % 8

/-- The character that a first byte and its followers spell. -/
def compose (first : UInt8) (followers : List UInt8) : Char :=
  Char.ofNat (followers.foldl (fun bits byte => bits * 64 + byte.toNat % 64)
    (firstBits first followers.length))

/-- The unit that begins with `first`, and how many of the bytes after it belong to it. -/
def decodeAt (first : UInt8) (bytes : List UInt8) : TextUnit × Nat :=
  match followers? first with
  | none => (broken [first], 0)
  | some ranges =>
    let count := countWithin ranges bytes
    if count = ranges.length then (char (compose first (bytes.take count)), count)
    else (broken (first :: bytes.take count), count)

/-- The units that the bytes spell. -/
def decode (bytes : List UInt8) : List TextUnit :=
  match bytes with
  | [] => []
  | first :: rest =>
    let (unit, count) := decodeAt first rest
    unit :: decode (rest.drop count)
termination_by bytes.length
decreasing_by
  simp only [List.length_drop, List.length_cons]
  omega

def ofText (text : String) : List TextUnit := text.toList.map char

/-- The text, if it is not broken. -/
def text? (units : List TextUnit) : Option String :=
  (units.mapM char?).map String.ofList

theorem mapM_char?_map_char (chars : List Char) :
    (chars.map char).mapM char? = some chars := by
  induction chars with
  | nil => rfl
  | cons c chars ih =>
    rw [List.map_cons, List.mapM_cons, ih]
    rfl

@[simp] theorem text?_ofText (text : String) : text? (ofText text) = some text := by
  rw [text?, ofText, mapM_char?_map_char]
  simp

/-- The text with a replacement sign wherever it is broken. -/
def shownText (units : List TextUnit) : String :=
  String.ofList (units.map shown)

/-- How a message writes the unit inside double quotes. -/
def escaped : TextUnit → List Char
  | char c => escapedChar '"' c
  | broken bytes => bytes.flatMap fun byte =>
      ['\\', 'x'] ++ ((hexDigits (byte.toNat / 16)) ++ hexDigits (byte.toNat % 16)).map Char.toUpper

end TextUnit

end Workspaces
