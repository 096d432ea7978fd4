import Workspaces.Log
import Workspaces.Text.Alphanumeric
import Workspaces.Text.Blank

/-!
# Rules on what the log keeps

A rule gives a level for the parts of the program whose names begin in a certain
way: `part=level`, a level for all of them: `level`, or all levels for a part:
`part`.  Brackets after the part narrow it down: to entries that have a field,
`part[{field}]`, to entries within a span, `part[span]`, or to a field with a
certain value within a span, `part[{field=value}]`.

Blanks belong to the name or the level that they stand by, and after brackets
they count for nothing.
-/

namespace Workspaces

/-- Which entries of a part a rule is for. -/
inductive LogScope where
  | all
  /-- Those that have a field. -/
  | field (name : List Char)
  /-- Those that are made within a span.  The program has no spans, so there are none. -/
  | span
deriving DecidableEq, Repr

namespace LogScope

def has (scope : LogScope) (entry : LogEntry) : Bool :=
  match scope with
  | all => true
  | field name => "message".toList = name || entry.fields.any fun field => field.1.toList = name
  | span => false

/-- The name of the field that an entry must have, empty if it need not have any. -/
def fieldName : LogScope → List Char
  | field name => name
  | all | span => []

/-- The scope between brackets at the beginning of a text, and the text after them. -/
def read? (text : List Char) : Option (LogScope × List Char) :=
  match text.span fun c => c ≠ ']' ∧ c ≠ '\x7b' with
  | (_, ']' :: rest) => some (.span, rest)
  | (name, '\x7b' :: rest) =>
    match rest.span (· ≠ '\x7d') with
    | ([], _) => none
    | (wanted, '\x7d' :: ']' :: rest) =>
      some (if name.isEmpty ∧ '=' ∉ wanted then .field wanted else .span, rest)
    | _ => none
  | _ => none

end LogScope

structure LogRule where
  /-- How the names of the parts begin. -/
  target : List Char
  scope : LogScope
  /-- The greatest verbosity that is kept, zero for none. -/
  limit : Nat
deriving DecidableEq, Repr

namespace LogRule

/-! ## Levels -/

/-- The limit that a number stands for; a plus sign and zeros may stand in front. -/
def ofNumber? (text : List Char) : Option Nat :=
  let digits := if text.head? = some '+' then text.tail else text
  if digits.isEmpty || !digits.all Char.isDigit then none
  else
    match digits.dropWhile (· = '0') with
    | [] => some 0
    | [digit] => if digit ≤ '5' then some (digit.toNat - '0'.toNat) else none
    | _ => none

/-- The limit that the name of a level stands for, in capitals or not. -/
def ofName? (text : List Char) : Option Nat :=
  match String.ofList (text.map Char.toLower) with
  | "off" => some 0
  | "error" => some LogLevel.error.verbosity
  | "warn" => some LogLevel.warn.verbosity
  | "info" => some LogLevel.info.verbosity
  | "debug" => some LogLevel.debug.verbosity
  | "trace" => some LogLevel.trace.verbosity
  | _ => none

def limit? (text : List Char) : Option Nat := (ofNumber? text).or (ofName? text)

/-- A rule without a level keeps all levels. -/
def everything : Nat := LogLevel.trace.verbosity

/-! ## Reading rules -/

/-- What a rule is written with. -/
structure Parts where
  target : List Char
  scope : LogScope
  /-- What stands after the equals sign, if there is one. -/
  level : Option (List Char)
deriving DecidableEq, Repr

/-- Whether a rule can begin with a character that is no bracket. -/
def isTargetStart (c : Char) : Bool := c = '-' || c = ':' || c = '_' || isAlphanumeric c

/-- The scope and the level of a rule, from what stands after its opening bracket. -/
def Parts.ofBrackets? (target text : List Char) : Option Parts :=
  match LogScope.read? text with
  | none => none
  | some (scope, '=' :: level) => some ⟨target, scope, some level⟩
  | some (scope, rest) => if rest.all isBlank then some ⟨target, scope, none⟩ else none

def Parts.ofChars? (text : List Char) : Option Parts :=
  if text.head?.any fun c => c = '[' || isTargetStart c then
    match text.span fun c => c ≠ '=' ∧ c ≠ '[' with
    | (target, '[' :: rest) => ofBrackets? target rest
    | (target, '=' :: level) => some ⟨target, .all, some level⟩
    | (target, _) => some ⟨target, .all, none⟩
  else none

/-- A name that stands alone may be that of a level. -/
def Parts.rule? (parts : Parts) : Option LogRule :=
  match parts.scope, parts.level with
  | .all, none =>
    match limit? parts.target with
    | some limit => some ⟨[], .all, limit⟩
    | none => some ⟨parts.target, .all, everything⟩
  | scope, none => some ⟨parts.target, scope, everything⟩
  | scope, some [] => some ⟨parts.target, scope, everything⟩
  | scope, some level => (limit? level).map (⟨parts.target, scope, ·⟩)

/-- The rule that a text is.  With blanks in front it is a rule for parts whose names begin
with them, and it can have no level. -/
def ofChars? (text : List Char) : Option LogRule :=
  match Parts.ofChars? (text.dropWhile isBlank) with
  | none => none
  | some parts =>
    if !text.head?.any isBlank then parts.rule?
    else if parts.level.isSome then none
    else some ⟨text, .all, everything⟩

/-! ## Applying rules -/

def appliesTo (rule : LogRule) (entry : LogEntry) : Bool :=
  rule.target.isPrefixOf entry.target.toList && rule.scope.has entry

/-- Of two rules for an entry the one that decides: the one for the longer name, else the one
for the field whose name is later in the alphabet, else the later rule. -/
def stronger (first second : LogRule) : LogRule :=
  if second.target.length < first.target.length ∨
      second.target.length = first.target.length ∧
        second.scope.fieldName < first.scope.fieldName then first
  else second

end LogRule

end Workspaces
