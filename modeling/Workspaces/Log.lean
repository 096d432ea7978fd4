/-!
# The log

The program can tell what it is doing, for those who look for a mistake.  An
entry names the part of the program that it comes from.  A filter says for each
part, and for the parts within it, from which level on entries are kept.
-/

namespace Workspaces

/-- The gravest level comes first. -/
inductive LogLevel where
  | error
  | warn
  | info
  | debug
  | trace
deriving DecidableEq, Repr

namespace LogLevel

def name : LogLevel → String
  | error => "ERROR"
  | warn => "WARN"
  | info => "INFO"
  | debug => "DEBUG"
  | trace => "TRACE"

/-- How much is told with the level: the graver, the less. -/
def verbosity : LogLevel → Nat
  | error => 1
  | warn => 2
  | info => 3
  | debug => 4
  | trace => 5

end LogLevel

structure LogEntry where
  level : LogLevel
  /-- The part of the program that the entry comes from. -/
  target : String
  message : String
  fields : List (String × String)
deriving DecidableEq, Repr

namespace LogEntry

/-- A character of a message; one that steers a terminal is written as an escape. -/
def messageChar (c : Char) : List Char :=
  let code := c.toNat
  if code = 0x07 then "\\x07".toList
  else if code = 0x08 then "\\x08".toList
  else if code = 0x0c then "\\x0c".toList
  else if code = 0x1b then "\\x1b".toList
  else if code = 0x7f then "\\x7f".toList
  else if 0x80 ≤ code ∧ code ≤ 0x9f then
    "\\u\x7b".toList ++ Nat.toDigits 16 code ++ ['\x7d']
  else [c]

def shownMessage (entry : LogEntry) : String :=
  String.ofList (entry.message.toList.flatMap messageChar)

/-- The line of an entry that was made at the given time. -/
def line (entry : LogEntry) (time : String) : String :=
  let level := entry.level.name
  let margin := String.ofList (List.replicate (5 - level.length) ' ')
  let fields := entry.fields.map fun field => " " ++ field.1 ++ "=" ++ field.2
  time ++ " " ++ margin ++ level ++ " " ++ entry.target ++ ": " ++ entry.shownMessage ++
    String.join fields

end LogEntry

end Workspaces
