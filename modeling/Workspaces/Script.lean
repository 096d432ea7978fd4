import Workspaces.Configuration

/-!
# Init scripts

The shell of an activated workspace starts from a script, one statement a
line.  The script reads the user's own startup files first, because it stands
in their place.  Then come the names of the workspace and the variant, a prompt
that shows them, the variables and aliases in the order of their names, and the
commands as they were declared.
-/

namespace Workspaces

structure Script where
  lines : List String
deriving DecidableEq, Repr

namespace Script

/-- The files that an interactive login shell reads. -/
def startupFiles : List String :=
  ["/etc/profile", "~/.bash_profile", "~/.bash_login", "~/.profile", "~/.bashrc"]

def sourceLine (file : String) : String :=
  "if [ -f " ++ file ++ " ]; then . " ++ file ++ "; fi"

/-- The variable that holds the name of the workspace in its shell. -/
def workspaceVariable : String := "DESKTOP_WORKSPACE"

/-- The variable that holds the name of the variant in its shell. -/
def variantVariable : String := "DESKTOP_CONFIGURATION"

/-- The prompt reads the names from their variables, so that the shell does not
decode them as part of the prompt. -/
def promptLine : String :=
  "export PS1='(\\[\\e[31m\\]$\x7b" ++ workspaceVariable ++ "\x7d\\[\\e[m\\]/\\[\\e[34m\\]$\x7b" ++
    variantVariable ++ "\x7d\\[\\e[m\\]) '\"$PS1\""

def nameLine (key name : String) : String :=
  "export " ++ key ++ "=" ++ Shell.quote name

/-- The line that sets a variable; references in the value expand. -/
def variableLine (entry : String × String) : String :=
  "export " ++ entry.1 ++ "=" ++ Shell.quoteExpanding entry.2

def aliasLine (entry : String × String) : String :=
  "alias " ++ entry.1 ++ "=" ++ Shell.quote entry.2

def render (configuration : Configuration) (workspace variant : String) : Script :=
  ⟨startupFiles.map sourceLine ++
    [nameLine workspaceVariable workspace, nameLine variantVariable variant, promptLine] ++
    configuration.exports.toList.map variableLine ++
    configuration.aliases.toList.map aliasLine ++
    configuration.commands⟩

def text (script : Script) : String := String.join (script.lines.map (· ++ "\n"))

end Script

end Workspaces
