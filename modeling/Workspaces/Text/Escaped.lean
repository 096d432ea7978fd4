import Workspaces.Text.Combining
import Workspaces.Text.Hidden

/-!
# Quoted text in messages

A message quotes a text or a character so that what cannot be seen is still
told apart: the enclosing quote, the backslash and the usual controls have
short escapes, and every character that cannot be shown, or that would join
the character before it, is written by its number.
-/

namespace Workspaces

/-- The digits of a number in base sixteen, in small letters. -/
def hexDigits (n : Nat) : List Char := Nat.toDigits 16 n

/-- How a character is written between two `quote` characters. -/
def escapedChar (quote c : Char) : List Char :=
  if c = '\x00' then ['\\', '0']
  else if c = '\t' then ['\\', 't']
  else if c = '\r' then ['\\', 'r']
  else if c = '\n' then ['\\', 'n']
  else if c = '\\' ∨ c = quote then ['\\', c]
  else if isCombining c ∨ isHidden c then
    ['\\', 'u', '\x7b'] ++ hexDigits c.toNat ++ ['\x7d']
  else [c]

/-- A text between double quotes. -/
def quotedText (text : String) : String :=
  String.ofList ('"' :: text.toList.flatMap (escapedChar '"') ++ ['"'])

/-- A character between single quotes. -/
def quotedChar (c : Char) : String :=
  String.ofList ('\'' :: escapedChar '\'' c ++ ['\''])

end Workspaces
