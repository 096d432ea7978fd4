import Workspaces.Desktopfile.Document
import Workspaces.Platform
import Workspaces.Shell.Quoting
import Workspaces.Table

/-!
# Configurations

A configuration is what one variant of a Desktopfile sets up on one platform:
variables and aliases, each with its last value, and the commands to run, in
their order.  Statements are applied one after the other; a block for other
platforms is passed over, whatever it holds.
-/

namespace Workspaces

open Desktopfile

/-- A letter or underscore, then letters, digits and underscores. -/
def isVariableName (name : String) : Bool :=
  match name.toList with
  | [] => false
  | first :: others => isWordStart first && others.all isWordChar

def isAliasStart (c : Char) : Bool :=
  isWordChar c || c = '.' || c = ':' || c = '+' || c = '@' || c = '%' || c = ','

/-- A name of letters, digits and a few marks; a dash may not come first. -/
def isAliasName (name : String) : Bool :=
  match name.toList with
  | [] => false
  | first :: others => isAliasStart first && others.all fun c => isAliasStart c || c = '-'

structure Configuration where
  exports : Table String
  aliases : Table String
  commands : List String
deriving DecidableEq

namespace Configuration

def empty : Configuration := ⟨.empty, .empty, []⟩

instance : Inhabited Configuration := ⟨empty⟩

def isEmpty (configuration : Configuration) : Bool :=
  configuration.exports.isEmpty && configuration.aliases.isEmpty &&
    configuration.commands.isEmpty

def setVariable (configuration : Configuration) (name value : String) : Configuration :=
  { configuration with exports := configuration.exports.insert name value }

def setAlias (configuration : Configuration) (name expansion : String) : Configuration :=
  { configuration with aliases := configuration.aliases.insert name expansion }

def addCommand (configuration : Configuration) (command : String) : Configuration :=
  { configuration with commands := configuration.commands ++ [command] }

/-- The shell command that prints a text. -/
def echoCommand (text : String) : String := "echo " ++ Shell.quote text

mutual

/-- The configuration after one more statement. -/
def apply (platform : Platform) (configuration : Configuration) :
    Statement → Except SyntaxError Configuration
  | .setVariable position name value =>
    if isVariableName name then .ok (configuration.setVariable name value)
    else .error ⟨position, .invalidVariableName name⟩
  | .setAlias position name expansion =>
    if isAliasName name then .ok (configuration.setAlias name expansion)
    else .error ⟨position, .invalidAliasName name⟩
  | .echo _ text => .ok (configuration.addCommand (echoCommand text))
  | .command _ text => .ok (configuration.addCommand text)
  | .onSystems _ tags body =>
    if tags.any platform.isNamedBy then applyAll platform configuration body
    else .ok configuration

/-- The configuration after the statements of a body. -/
def applyAll (platform : Platform) (configuration : Configuration) :
    List Statement → Except SyntaxError Configuration
  | [] => .ok configuration
  | statement :: statements =>
    match apply platform configuration statement with
    | .error error => .error error
    | .ok next => applyAll platform next statements

end

/-- The configuration that a body sets up on its own. -/
def ofBody (platform : Platform) (body : List Statement) : Except SyntaxError Configuration :=
  applyAll platform empty body

end Configuration

end Workspaces
