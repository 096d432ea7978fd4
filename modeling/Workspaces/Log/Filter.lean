import Workspaces.Log.Rule
import Workspaces.Text.Split

/-!
# Filters of the log

A filter is a list of rules, written between commas.  Of the rules that apply to
an entry one decides, and without one an entry is not kept.
-/

namespace Workspaces

structure LogFilter where
  rules : List LogRule
deriving DecidableEq, Repr

namespace LogFilter

/-- The greatest verbosity with which an entry like the given one is kept. -/
def limit (filter : LogFilter) (entry : LogEntry) : Nat :=
  match filter.rules.filter fun rule => rule.appliesTo entry with
  | [] => 0
  | first :: others => (others.foldl LogRule.stronger first).limit

def keeps (filter : LogFilter) (entry : LogEntry) : Bool :=
  entry.level.verbosity ≤ filter.limit entry

def ofText? (text : String) : Option LogFilter :=
  match (splitOn ',' text.toList).filter (· ≠ []) with
  | [] => some ⟨[⟨[], .all, LogLevel.error.verbosity⟩]⟩
  | rules => (rules.mapM LogRule.ofChars?).map (⟨·⟩)

/-- The filter where none is asked for: warnings, or with `verbose` what helps to find a mistake. -/
def usual (verbose : Bool) : LogFilter :=
  let level : LogLevel := if verbose then .debug else .warn
  ⟨[⟨"desktop".toList, .all, level.verbosity⟩]⟩

/-- The filter that a text asks for; one that is no filter counts for nothing. -/
def chosen (verbose : Bool) (asked : Option String) : LogFilter :=
  (asked.bind ofText?).getD (usual verbose)

end LogFilter

end Workspaces
