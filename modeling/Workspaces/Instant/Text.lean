import Workspaces.Instant
import Workspaces.Text.Blank

/-!
# Instants as text

An instant is written in universal time, as `2024-02-29T12:00:00.500Z`, with as
few groups of three digits after the point as hold its nanoseconds.  A leap
second is written as second 60.  Reading is lenient: zeros in front of a number
may be missing, blanks may stand before it, and the time may be told with its
distance from universal time.
-/

namespace Workspaces

/-- A number in base ten with zeros in front up to the width. -/
def paddedDecimal (width n : Nat) : List Char :=
  let digits := Nat.toDigits 10 n
  List.replicate (width - digits.length) '0' ++ digits

namespace Instant

/-! ## Writing -/

/-- A year has four digits; one that needs more, or is negative, has a sign. -/
def yearText (year : Int) : List Char :=
  if 0 ≤ year ∧ year ≤ 9999 then paddedDecimal 4 year.toNat
  else if year < 0 then '-' :: paddedDecimal 4 year.natAbs
  else '+' :: paddedDecimal 4 year.natAbs

def fractionText (nanos : Nat) : List Char :=
  if nanos = 0 then []
  else if nanos % 1000000 = 0 then '.' :: paddedDecimal 3 (nanos / 1000000)
  else if nanos % 1000 = 0 then '.' :: paddedDecimal 6 (nanos / 1000)
  else '.' :: paddedDecimal 9 nanos

def chars (instant : Instant) : List Char :=
  let date := Date.ofDays (instant.seconds / 86400)
  let time := instant.secondOfDay.toNat
  let second := time % 60 + instant.nanos / nanosPerSecond
  yearText date.year ++ '-' :: paddedDecimal 2 date.month ++ '-' :: paddedDecimal 2 date.day ++
    'T' :: paddedDecimal 2 (time / 3600) ++ ':' :: paddedDecimal 2 (time / 60 % 60) ++
    ':' :: paddedDecimal 2 second ++ fractionText (instant.nanos % nanosPerSecond) ++ ['Z']

def text (instant : Instant) : String := String.ofList instant.chars

/-! ## Reading -/

def skipBlanks (text : List Char) : List Char := text.dropWhile isBlank

def ofDecimal (digits : List Char) : Nat :=
  digits.foldl (fun value digit => value * 10 + (digit.toNat - '0'.toNat)) 0

/-- A number of at least one digit and at most so many. -/
def readDigits (most : Nat) (text : List Char) : Option (Nat × List Char) :=
  let digits := (text.takeWhile Char.isDigit).take most
  if digits = [] then none else some (ofDecimal digits, text.drop digits.length)

/-- A number of one or two digits after blanks. -/
def readNumber (text : List Char) : Option (Nat × List Char) :=
  readDigits 2 (skipBlanks text)

/-- A year of up to four digits, or of any number of digits after a sign. -/
def readYear (text : List Char) : Option (Int × List Char) :=
  match skipBlanks text with
  | '-' :: digits =>
    (readDigits digits.length digits).map fun (year, rest) => (-(year : Int), rest)
  | '+' :: digits =>
    (readDigits digits.length digits).map fun (year, rest) => ((year : Int), rest)
  | digits => (readDigits 4 digits).map fun (year, rest) => ((year : Int), rest)

/-- The text after a mark, before which blanks may stand. -/
def skipMark (mark : Char) (text : List Char) : Option (List Char) :=
  match skipBlanks text with
  | [] => none
  | c :: rest => if c = mark then some rest else none

def readDate (text : List Char) : Option (Date × List Char) := do
  let (year, text) ← readYear text
  let text ← skipMark '-' text
  let (month, text) ← readNumber text
  let text ← skipMark '-' text
  let (day, text) ← readNumber text
  return (⟨year, month, day⟩, text)

/-- The nanoseconds that digits after a point tell; those after the ninth do not count. -/
def ofFraction (digits : List Char) : Nat :=
  ofDecimal ((digits ++ List.replicate 9 '0').take 9)

/-- The nanoseconds after a point, or none if there is no point. -/
def readFraction (text : List Char) : Option (Nat × List Char) :=
  match text with
  | '.' :: rest =>
    let digits := rest.takeWhile Char.isDigit
    if digits = [] then none else some (ofFraction digits, rest.drop digits.length)
  | text => some (0, text)

/-- A time of day: hour, minute, second and nanoseconds. -/
structure TimeOfDay where
  hour : Nat
  minute : Nat
  second : Nat
  nanos : Nat

def readTime (text : List Char) : Option (TimeOfDay × List Char) := do
  let (hour, text) ← readNumber text
  let text ← skipMark ':' text
  let (minute, text) ← readNumber text
  let text ← skipMark ':' text
  let (second, text) ← readNumber text
  let (nanos, text) ← readFraction text
  return (⟨hour, minute, second, nanos⟩, text)

/-- Two digits, as a number up to a limit. -/
def readPair (limit : Nat) : List Char → Option (Nat × List Char)
  | a :: b :: rest =>
    if a.isDigit ∧ b.isDigit ∧ ofDecimal [a, b] ≤ limit then some (ofDecimal [a, b], rest)
    else none
  | _ => none

/-- The distance from universal time in seconds: hours and minutes, with or without
a colon between them. -/
def readDistance (text : List Char) : Option (Nat × List Char) := do
  let (hours, text) ← readPair 23 text
  let (minutes, text) ← readPair 59 (text.dropWhile fun c => c = ':' || isBlank c)
  return (hours * 3600 + minutes * 60, text)

/-- A zone, as its seconds ahead of universal time. -/
def readZone (text : List Char) : Option (Int × List Char) :=
  match skipBlanks text with
  | [] => none
  | sign :: rest =>
    if sign = 'Z' ∨ sign = 'z' then some (0, rest)
    else if (text.dropWhile isBlank |>.take 3).map Char.toUpper = ['U', 'T', 'C'] then
      some (0, rest.drop 2)
    else if sign = '+' then
      (readDistance rest).map fun (distance, rest) => ((distance : Int), rest)
    else if sign = '-' ∨ sign = '−' then
      (readDistance rest).map fun (distance, rest) => (-(distance : Int), rest)
    else none

/-- The instant at a date and time of day in a zone.  Both the local and the universal
time must be in the range of instants. -/
def ofLocal? (date : Date) (time : TimeOfDay) (zone : Int) : Option Instant :=
  if date.isValid ∧ time.hour ≤ 23 ∧ time.minute ≤ 59 ∧ time.second ≤ 60 then
    let second := min time.second 59
    let nanos := time.nanos + (time.second - second) * nanosPerSecond
    let seconds := date.toDays * 86400 + (time.hour * 3600 + time.minute * 60 + second : Nat)
    match ofUnix? seconds nanos with
    | none => none
    | some _ => ofUnix? (seconds - zone) nanos
  else none

/-- The instant that a text tells. -/
def ofChars? (text : List Char) : Option Instant := do
  let (date, text) ← readDate text
  match text with
  | [] => none
  | mark :: text =>
    if mark = 'T' ∨ mark = 't' ∨ mark = ' ' then
      let (time, text) ← readTime text
      let (zone, text) ← readZone text
      if skipBlanks text = [] then ofLocal? date time zone else none
    else none

def ofText? (text : String) : Option Instant := ofChars? text.toList

end Instant

end Workspaces
