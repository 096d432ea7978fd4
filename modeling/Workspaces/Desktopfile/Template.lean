/-!
# The starter Desktopfile

A new workspace gets this Desktopfile when it has none.  It tells the reader
what may be written and declares a default variant.
-/

namespace Workspaces.Desktopfile

def templateLines : List String :=
  ["# Desktopfile - evaluated by `desktop go` when this workspace is activated.",
   "#",
   "# Each `configuration` block is a variant; `desktop go <workspace> <variant>`",
   "# picks one, and `default` is used when none is given.",
   "#",
   "#   env 'NAME', 'value'         export an environment variable",
   "#   alias_cmd 'name', 'command' define a shell alias",
   "#   echo 'text'                 print text when the shell starts",
   "#   cmd 'command'               run a command when the shell starts",
   "#   os :linux, :macos do ... end",
   "#                               only apply the enclosed lines on these systems",
   "",
   "configuration :default do",
   "  env 'IN_BASIC', '1'",
   "end"]

def template : String := String.join (templateLines.map (· ++ "\n"))

end Workspaces.Desktopfile
