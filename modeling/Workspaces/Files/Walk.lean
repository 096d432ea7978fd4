import Workspaces.Files

/-!
# Walking along a path

A path is walked one piece at a time from a directory.  Dots and empty pieces
stay, two dots go up, a name goes down, and a link goes on along its target.
At most forty links are taken on one walk.
-/

namespace Workspaces

/-- What a walk is for, which decides how its last piece is treated. -/
inductive Purpose where
  /-- To look at what is there; a link is followed. -/
  | inspect
  /-- To make or to take away an entry; a link at the end is the entry itself. -/
  | entry
  /-- To write a file; a link is followed, also to a file that is yet to be made. -/
  | write
deriving DecidableEq, Repr

/-- Where a walk ends. -/
inductive Spot where
  | occupied (location : Location) (node : Node)
  /-- Only the last name leads to nothing. -/
  | vacant (location : Location)
deriving DecidableEq, Repr

namespace Files

def maxLinks : Nat := 40

def maxNameBytes : Nat := 255

def maxPathBytes : Nat := 4095

def nameBytes (name : Path.Name) : Nat := TextUnit.byteCountOf name

/-- Walks along `pieces` from `location`, taking at most `links` links. -/
def walk (files : Files) (purpose : Purpose) (links : Nat) (location : Location)
    (pieces : List Path.Name) : Except Fault Spot :=
  match pieces with
  | [] =>
    match files.get? location with
    | none => .error .notFound
    | some node => .ok (.occupied location node)
  | piece :: rest =>
    match files.get? location with
    | none => .error .notFound
    | some .directory =>
      if piece = [] ∨ piece = Path.here then walk files purpose links location rest
      else if piece = Path.above then walk files purpose links location.dropLast rest
      else if purpose = .write ∧ rest ≠ [] ∧ rest.all List.isEmpty then .error .isADirectory
      else if maxNameBytes < nameBytes piece then .error .nameTooLong
      else
        match files.get? (location ++ [piece]) with
        | none => if rest = [] then .ok (.vacant (location ++ [piece])) else .error .notFound
        | some (.link target) =>
          if rest = [] ∧ purpose = .entry then
            .ok (.occupied (location ++ [piece]) (.link target))
          else
            match links with
            | 0 => .error .tooManyLinks
            | links + 1 =>
              walk files purpose links (if target.isAbsolute then [] else location)
                (target.pieces ++ rest)
        | some _ => walk files purpose links (location ++ [piece]) rest
    | some _ => .error .notADirectory
termination_by (links, pieces.length)

/-- Walks along a path from the directory at `location`. -/
def find (files : Files) (purpose : Purpose) (location : Location) (path : Path) :
    Except Fault Spot :=
  if path.hasNul then .error .nulInPath
  else if path.isEmpty then .error .notFound
  else if maxPathBytes < path.byteCount then .error .nameTooLong
  else walk files purpose maxLinks (if path.isAbsolute then [] else location) path.pieces

end Files

end Workspaces
