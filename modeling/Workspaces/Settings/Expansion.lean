import Workspaces.Host
import Workspaces.Text.Alphanumeric

/-!
# Expanding a path

A path in the settings may refer to environment variables, as `$NAME`, as
`${NAME}` or, with a text for a variable that is not set, as
`${NAME:-text}`.  A tilde in front of it stands for the home directory.
What a variable holds is not expanded again.
-/

namespace Workspaces

/-- A part of a text with references. -/
inductive Fragment where
  | literal (text : List Char)
  /-- A variable, and what stands for it if it is not set. -/
  | reference (name : List Char) (fallback : Option (List Char))
deriving DecidableEq, Repr

namespace Fragment

def isNameChar (c : Char) : Bool := isAlphanumeric c || c = '_'

/-- The texts before and after the first `:-`. -/
def splitAtDash : List Char → Option (List Char × List Char)
  | [] => none
  | ':' :: '-' :: rest => some ([], rest)
  | c :: rest => (splitAtDash rest).map fun (name, fallback) => (c :: name, fallback)

/-- The reference that is written with the given text between braces. -/
def ofBraced (text : List Char) : Fragment :=
  match splitAtDash text with
  | some (first :: name, fallback) => reference (first :: name) (some fallback)
  | _ => reference text none

/-- The fragments of a text. -/
def ofChars (text : List Char) : List Fragment :=
  match text with
  | [] => []
  | '$' :: '$' :: rest => literal ['$'] :: ofChars rest
  | '$' :: '\x7b' :: rest =>
    match rest.dropWhile (· ≠ '\x7d') with
    | [] => literal ['$', '\x7b'] :: ofChars rest
    | _ :: _ =>
      ofBraced (rest.takeWhile (· ≠ '\x7d')) :: ofChars (rest.dropWhile (· ≠ '\x7d')).tail
  | '$' :: rest =>
    match rest.takeWhile isNameChar with
    | [] => literal ['$'] :: ofChars rest
    | first :: name =>
      reference (first :: name) none :: ofChars (rest.dropWhile isNameChar)
  | c :: rest => literal [c] :: ofChars rest
termination_by text.length
decreasing_by
  all_goals simp only [List.length_cons, List.length_tail]
  all_goals first
    | omega
    | exact Nat.lt_succ_of_le (List.dropWhile_sublist _).length_le
    | exact Nat.lt_of_le_of_lt
        (Nat.le_trans (Nat.sub_le _ _) (List.dropWhile_sublist _).length_le) (by omega)

/-- What a fragment stands for; an unset variable without a fallback is the error. -/
def expand [Monad m] [Host m] : Fragment → ExceptT String m (List Char)
  | literal text => return text
  | reference name fallback => do
    match ← Host.lookup (String.ofList name), fallback with
    | some value, _ => return value.toList
    | none, some text => return text
    | none, none => throw (String.ofList name)

end Fragment

/-- The home directory that the environment names, or else that of the user's account. -/
def homeDirectory? [Monad m] [Host m] : m (Option String) := do
  match ← Host.lookup "HOME" with
  | none => Host.accountHome
  | some "" => Host.accountHome
  | some home => return some home

/-- A text with the home directory for a tilde in front of it. -/
def expandTilde (home : Option String) (text : List Char) : List Char :=
  match home, text with
  | some home, ['~'] => home.toList
  | some home, '~' :: '/' :: rest => home.toList ++ '/' :: rest
  | _, text => text

/-- Expands variables and then a tilde, if the text itself begins with one.  The error
is the name of a variable that is not set. -/
def expandPath [Monad m] [Host m] (text : String) : ExceptT String m String := do
  let expanded := (← (Fragment.ofChars text.toList).mapM Fragment.expand).flatten
  if text.toList.head? = some '~' then
    return String.ofList (expandTilde (← homeDirectory?) expanded)
  else return String.ofList expanded

end Workspaces
