import Workspaces.Toml.Quoted

/-!
# Writing strings of TOML

A string is written in the first form that holds it without escapes, a tab
apart.  Only if there is none, it is escaped.
-/

namespace Workspaces.Toml

/-- How long the longest run of a character is, after a run of `current`. -/
def longestRun (c : Char) (current : Nat) : List Char → Nat
  | [] => current
  | d :: text =>
    if d = c then longestRun c (current + 1) text else max current (longestRun c 0 text)

/-- Whether a text holds a control character other than tabs and line feeds. -/
def hasControl (text : List Char) : Bool := text.any fun c => isControl c && c ≠ '\n'

def fitsBasic (text : List Char) : Bool :=
  !text.any fun c => isControl c || c = '"' || c = '\\'

def fitsLiteral (text : List Char) : Bool :=
  !text.any fun c => isControl c || c = '\''

def fitsMultilineBasic (text : List Char) : Bool :=
  !hasControl text && !text.contains '\\' && longestRun '"' 0 text < 3

def fitsMultilineLiteral (text : List Char) : Bool :=
  !hasControl text && longestRun '\'' 0 text < 3

def upperHexDigit (n : Nat) : Char := (Nat.digitChar n).toUpper

/-- How a character other than a quote or a line feed is written between double quotes. -/
def escapedBasic (c : Char) : List Char :=
  if c = '\x08' then ['\\', 'b']
  else if c = '\t' then ['\\', 't']
  else if c = '\x0c' then ['\\', 'f']
  else if c = '\r' then ['\\', 'r']
  else if c = '\\' then ['\\', '\\']
  else if isControl c then
    ['\\', 'u', '0', '0', upperHexDigit (c.toNat / 16), upperHexDigit (c.toNat % 16)]
  else [c]

/-- A text between double quotes on one line. -/
def escapeLine : List Char → List Char
  | [] => []
  | c :: text =>
    if c = '"' then '\\' :: '"' :: escapeLine text
    else if c = '\n' then '\\' :: 'n' :: escapeLine text
    else escapedBasic c ++ escapeLine text

/-- A text between three double quotes, after so many quotes in a row.  The third
quote of a row is escaped. -/
def escapeLines (quotes : Nat) : List Char → List Char
  | [] => []
  | c :: text =>
    if c = '"' then
      if quotes = 2 then '\\' :: '"' :: escapeLines 0 text
      else '"' :: escapeLines (quotes + 1) text
    else if c = '\n' then '\n' :: escapeLines 0 text
    else escapedBasic c ++ escapeLines 0 text

/-- What stands before a text of several lines, so that its first line is a line too. -/
def firstLineEnd (text : List Char) : List Char := if text.contains '\n' then ['\n'] else []

def basic (text : List Char) : List Char := '"' :: escapeLine text ++ ['"']

def literal (text : List Char) : List Char := '\'' :: text ++ ['\'']

def multilineBasic (text : List Char) : List Char :=
  ['"', '"', '"'] ++ firstLineEnd text ++ escapeLines 0 text ++ ['"', '"', '"']

def multilineLiteral (text : List Char) : List Char :=
  ['\'', '\'', '\''] ++ firstLineEnd text ++ text ++ ['\'', '\'', '\'']

/-- A string with its quotes. -/
def quoted (text : List Char) : List Char :=
  if fitsBasic text then basic text
  else if fitsLiteral text then literal text
  else if fitsMultilineBasic text then multilineBasic text
  else if fitsMultilineLiteral text then multilineLiteral text
  else if text.contains '\n' then multilineBasic text
  else basic text

/-- An array of strings, each on a line of its own if there are several. -/
def stringArray : List (List Char) → List Char
  | [] => ['[', ']']
  | [item] => '[' :: quoted item ++ [']']
  | items =>
    ['[', '\n'] ++
      items.flatMap (fun item => [' ', ' ', ' ', ' '] ++ quoted item ++ [',', '\n']) ++ [']']

/-- A line with a key and its value. -/
def pairLine (key : String) (value : List Char) : List Char :=
  key.toList ++ [' ', '=', ' '] ++ value ++ ['\n']

end Workspaces.Toml
