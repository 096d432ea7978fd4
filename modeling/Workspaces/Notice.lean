import Workspaces.Text.Split

/-!
# Notices

What the program tells its user is a label, right-aligned in a column of twelve
characters, and a message beside it.  The further lines of a message stand
under its first one.
-/

namespace Workspaces

/-- Where a process writes. -/
inductive Channel where
  | output
  | error
deriving DecidableEq, Repr

inductive NoticeKind where
  | listing
  | success
  | info
  | warning
deriving DecidableEq, Repr

namespace NoticeKind

/-- Warnings go to the error channel, all else to the output. -/
def channel : NoticeKind → Channel
  | warning => .error
  | _ => .output

/-- The number of the colour that a terminal shows a label in. -/
def color : NoticeKind → Nat
  | listing => 36
  | success => 32
  | info => 34
  | warning => 33

/-- What a terminal is sent before a label: bold, then the colour. -/
def mark (kind : NoticeKind) : String :=
  "\x1b[1m\x1b[" ++ toString kind.color ++ "m"

end NoticeKind

/-- What a terminal is sent after a label. -/
def unmark : String := "\x1b[0m"

structure Notice where
  kind : NoticeKind
  label : String
  message : String
deriving DecidableEq, Repr

namespace Notice

/-- A row of a listing. -/
def listing (label message : String) : Notice := ⟨.listing, label, message⟩

def success (label message : String) : Notice := ⟨.success, label, message⟩

def info (message : String) : Notice := ⟨.info, "Info", message⟩

def warning (message : String) : Notice := ⟨.warning, "Warning", message⟩

def labelWidth : Nat := 12

/-- Blanks before a text up to the given width. -/
def padLeft (width : Nat) (text : List Char) : List Char :=
  List.replicate (width - text.length) ' ' ++ text

/-- The lines of a notice, with `mark` and `unmark` around the label. -/
def lines (notice : Notice) (mark unmark : List Char) : List (List Char) :=
  match splitOn '\n' notice.message.toList with
  | [] => []
  | first :: others =>
    (mark ++ padLeft labelWidth notice.label.toList ++ unmark ++ ' ' :: first) ::
      others.map fun line => padLeft labelWidth [] ++ ' ' :: line

def textWith (notice : Notice) (mark unmark : String) : String :=
  String.ofList ((notice.lines mark.toList unmark.toList).flatMap (· ++ ['\n']))

/-- The notice as it is written, with a coloured label or a plain one. -/
def textIn (notice : Notice) (colored : Bool) : String :=
  if colored then notice.textWith notice.kind.mark unmark else notice.textWith "" ""

end Notice

end Workspaces
