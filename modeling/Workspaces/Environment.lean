import Workspaces.Configuration

/-!
# Environments

The environment of a Desktopfile maps the names of its variants to their
configurations.  A variant that is declared twice keeps its last declaration
alone.  Every declaration is evaluated, so an error in an earlier one counts.
-/

namespace Workspaces

open Desktopfile

/-- The configurations of a Desktopfile by the names of their variants. -/
abbrev Environment := Table Configuration

namespace Environment

/-- Adds variants to an environment in their order. -/
def declareAll (platform : Platform) (environment : Environment) :
    List Variant → Except SyntaxError Environment
  | [] => .ok environment
  | variant :: variants =>
    match Configuration.ofBody platform variant.body with
    | .error error => .error error
    | .ok configuration =>
      declareAll platform (environment.insert variant.name configuration) variants

def ofDocument (platform : Platform) (document : Document) : Except SyntaxError Environment :=
  declareAll platform .empty document.variants

/-- The environment of a source that errors call `origin`. -/
def evaluate (platform : Platform) (origin source : String) : Except SourceError Environment :=
  match Document.parse origin source with
  | .error error => .error error
  | .ok document =>
    match ofDocument platform document with
    | .error error => .error (error.inSource origin)
    | .ok environment => .ok environment

end Environment

/-- What is worth noting about an evaluation. -/
inductive Remark where
  | skippedBlock (tags : List String)
  | redeclaredVariant (name : String)
deriving DecidableEq, Repr

namespace Remark

mutual

/-- The blocks that a statement passes over, and whether its names are valid. -/
def ofStatement (platform : Platform) : Statement → List Remark × Bool
  | .setVariable _ name _ => ([], isVariableName name)
  | .setAlias _ name _ => ([], isAliasName name)
  | .echo _ _ => ([], true)
  | .command _ _ => ([], true)
  | .onSystems _ tags body =>
    if tags.any platform.isNamedBy then ofBody platform body else ([skippedBlock tags], true)

/-- The remarks on a body up to its first invalid name. -/
def ofBody (platform : Platform) : List Statement → List Remark × Bool
  | [] => ([], true)
  | statement :: statements =>
    match ofStatement platform statement with
    | (remarks, false) => (remarks, false)
    | (remarks, true) =>
      let (others, valid) := ofBody platform statements
      (remarks ++ others, valid)

end

/-- The remarks on variants after those with the given names. -/
def ofVariants (platform : Platform) (declared : List String) : List Variant → List Remark
  | [] => []
  | variant :: variants =>
    match ofBody platform variant.body with
    | (remarks, false) => remarks
    | (remarks, true) =>
      let again := if variant.name ∈ declared then [redeclaredVariant variant.name] else []
      remarks ++ again ++ ofVariants platform (variant.name :: declared) variants

/-- The remarks on the evaluation of a source, none if it cannot be parsed. -/
def ofSource (platform : Platform) (source : String) : List Remark :=
  match Document.ofSource source with
  | .error _ => []
  | .ok document => ofVariants platform [] document.variants

end Remark

end Workspaces
