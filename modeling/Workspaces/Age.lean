import Workspaces.Instant

/-!
# Ages

How long ago something was, in coarse words: a count of the largest unit that
the time fills at least once.  A time under a minute, or one still to come, is
"just now".
-/

namespace Workspaces

inductive AgeUnit where
  | minute
  | hour
  | day
  | month
  | year
deriving DecidableEq, Repr

namespace AgeUnit

def name : AgeUnit → String
  | minute => "minute"
  | hour => "hour"
  | day => "day"
  | month => "month"
  | year => "year"

/-- The length of the unit.  A month has thirty days and a year 365. -/
def seconds : AgeUnit → Nat
  | minute => 60
  | hour => 3600
  | day => 86400
  | month => 2592000
  | year => 31536000

/-- The largest unit that fits into a time, which is at least a minute. -/
def fitting (seconds : Nat) : AgeUnit :=
  if seconds < 3600 then minute
  else if seconds < 86400 then hour
  else if seconds < 2592000 then day
  else if seconds < 31536000 then month
  else year

end AgeUnit

inductive Age where
  | justNow
  | past (count : Nat) (unit : AgeUnit)
deriving DecidableEq, Repr

namespace Age

def ofSeconds (seconds : Int) : Age :=
  if seconds < 60 then justNow
  else
    let unit := AgeUnit.fitting seconds.toNat
    past (seconds.toNat / unit.seconds) unit

def between (earlier later : Instant) : Age :=
  ofSeconds (Instant.secondsBetween earlier later)

/-- The time that the age names. -/
def seconds : Age → Nat
  | justNow => 0
  | past count unit => count * unit.seconds

def text : Age → String
  | justNow => "just now"
  | past count unit =>
    if count = 1 then "1 " ++ unit.name ++ " ago"
    else toString count ++ " " ++ unit.name ++ "s ago"

end Age

end Workspaces
