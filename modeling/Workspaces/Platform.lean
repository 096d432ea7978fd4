/-!
# Platforms

The operating systems that a block of a Desktopfile can be written for.
-/

namespace Workspaces

inductive Platform where
  | linux
  | macos
  | windows
  | other
deriving DecidableEq, Repr

namespace Platform

/-- The platform that the program itself runs on. -/
def host : Platform := .linux

def name : Platform → String
  | linux => "linux"
  | macos => "macos"
  | windows => "windows"
  | other => "other"

/-- The tag that names the platform in a Desktopfile.  The unlisted platforms have none. -/
def tag? : Platform → Option String
  | other => none
  | platform => some platform.name

def isNamedBy (platform : Platform) (tag : String) : Bool :=
  platform.tag? == some tag

end Platform

end Workspaces
