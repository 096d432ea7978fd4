import Workspaces.Environment
import Workspaces.Proofs.SourceOrder

/-!
# Evaluation by flattening

A body is flattened for a platform: a block that names the platform is replaced
by what its body flattens to, any other block by nothing.  What is left are
statements that act by themselves, and a configuration can be read off them
directly.  Evaluation is shown to agree with this reading: it fails at the first
invalid name that flattening leaves in any variant, and otherwise maps the name
of each variant to what its last declaration flattens to.
-/

namespace Workspaces

open Desktopfile

/-! ## Names -/

def IsLetterOrUnderscore (c : Char) : Prop :=
  ('A' ≤ c ∧ c ≤ 'Z') ∨ ('a' ≤ c ∧ c ≤ 'z') ∨ c = '_'

def IsDigit (c : Char) : Prop :=
  '0' ≤ c ∧ c ≤ '9'

def IsAliasMark (c : Char) : Prop :=
  c = '.' ∨ c = ':' ∨ c = '+' ∨ c = '@' ∨ c = '%' ∨ c = ','

/-- One character of the first kind, then any number of the second kind. -/
def Matches (First Other : Char → Prop) (name : String) : Prop :=
  match name.toList with
  | [] => False
  | first :: others => First first ∧ ∀ c ∈ others, Other c

def VariableName : String → Prop :=
  Matches IsLetterOrUnderscore fun c => IsLetterOrUnderscore c ∨ IsDigit c

def AliasName : String → Prop :=
  Matches (fun c => IsLetterOrUnderscore c ∨ IsDigit c ∨ IsAliasMark c)
    fun c => IsLetterOrUnderscore c ∨ IsDigit c ∨ IsAliasMark c ∨ c = '-'

theorem isWordStart_iff {c : Char} : isWordStart c = true ↔ IsLetterOrUnderscore c := by
  have halpha : c.isAlpha = true ↔ c.isUpper = true ∨ c.isLower = true :=
    Bool.or_eq_true_iff
  have hupper : c.isUpper = true ↔ 'A' ≤ c ∧ c ≤ 'Z' :=
    decide_eq_true_iff
  have hlower : c.isLower = true ↔ 'a' ≤ c ∧ c ≤ 'z' :=
    Bool.and_eq_true_iff.trans (and_congr decide_eq_true_iff decide_eq_true_iff)
  have hstart : isWordStart c = true ↔ c.isAlpha = true ∨ c = '_' := by
    simp [isWordStart]
  rw [hstart, halpha, hupper, hlower, or_assoc]
  rfl

theorem isWordChar_iff {c : Char} :
    isWordChar c = true ↔ IsLetterOrUnderscore c ∨ IsDigit c := by
  have hchar : isWordChar c = true ↔ isWordStart c = true ∨ c.isDigit = true := by
    simp [isWordChar, isWordStart, Char.isAlphanum, or_right_comm]
  have hdigit : c.isDigit = true ↔ IsDigit c := by
    simp [Char.isDigit, IsDigit, Char.le_def]
  rw [hchar, isWordStart_iff, hdigit]

theorem isAliasStart_iff {c : Char} :
    isAliasStart c = true ↔ IsLetterOrUnderscore c ∨ IsDigit c ∨ IsAliasMark c := by
  have hstart : isAliasStart c = true ↔ isWordChar c = true ∨ IsAliasMark c := by
    simp [isAliasStart, IsAliasMark, or_assoc]
  rw [hstart, isWordChar_iff, or_assoc]

theorem isVariableName_iff {name : String} :
    isVariableName name = true ↔ VariableName name := by
  unfold isVariableName VariableName Matches
  cases name.toList with
  | nil =>
      simp
  | cons first others =>
      simp [isWordStart_iff, isWordChar_iff]

theorem isAliasName_iff {name : String} : isAliasName name = true ↔ AliasName name := by
  unfold isAliasName AliasName Matches
  cases name.toList with
  | nil =>
      simp
  | cons first others =>
      simp [isAliasStart_iff, or_assoc]

/-! ## Flattening -/

mutual

/-- The statements that take effect on a platform in place of a statement. -/
def Desktopfile.Statement.flatten (platform : Platform) : Statement → List Statement
  | .setVariable position name value => [.setVariable position name value]
  | .setAlias position name expansion => [.setAlias position name expansion]
  | .echo position text => [.echo position text]
  | .command position text => [.command position text]
  | .onSystems _ tags body =>
      if ∃ tag ∈ tags, platform.tag? = some tag then flattenBody platform body else []

def flattenBody (platform : Platform) : List Statement → List Statement
  | [] => []
  | statement :: statements => statement.flatten platform ++ flattenBody platform statements

end

def Desktopfile.Document.flatten (platform : Platform) (document : Document) :
    List Statement :=
  document.variants.flatMap fun variant => flattenBody platform variant.body

/-- A statement gives a value to no valid name; the cause says which. -/
inductive Misnamed : Statement → Cause → Prop
  | ofVariable {position : Position} {name value : String} (h : ¬ VariableName name) :
      Misnamed (.setVariable position name value) (.invalidVariableName name)
  | ofAlias {position : Position} {name expansion : String} (h : ¬ AliasName name) :
      Misnamed (.setAlias position name expansion) (.invalidAliasName name)

def Desktopfile.Statement.variable? : Statement → Option (String × String)
  | .setVariable _ name value => some (name, value)
  | _ => none

def Desktopfile.Statement.alias? : Statement → Option (String × String)
  | .setAlias _ name expansion => some (name, expansion)
  | _ => none

def Desktopfile.Statement.command? : Statement → Option String
  | .command _ text => some text
  | .echo _ text => some ("echo " ++ Shell.quote text)
  | _ => none

/-- The last value that a list of entries gives to a name. -/
def lastValue? (entries : List (String × String)) (name : String) : Option String :=
  entries.reverse.lookup name

/-- A configuration is what some flattened statements say, no more and no less. -/
structure Describes (statements : List Statement) (configuration : Configuration) : Prop where
  exports : ∀ name, configuration.exports.get? name =
    lastValue? (statements.filterMap Statement.variable?) name
  aliases : ∀ name, configuration.aliases.get? name =
    lastValue? (statements.filterMap Statement.alias?) name
  commands : configuration.commands = statements.filterMap Statement.command?

/-! ## A body evaluates as it flattens -/

namespace Configuration

variable {platform : Platform} {configuration : Configuration}

theorem applyAll_append (first second : List Statement) :
    applyAll platform configuration (first ++ second) =
      (applyAll platform configuration first).bind
        fun next => applyAll platform next second := by
  induction first generalizing configuration with
  | nil =>
      rfl
  | cons statement first ih =>
      simp only [List.cons_append, applyAll]
      cases happly : apply platform configuration statement with
      | error error =>
          rfl
      | ok next =>
          exact ih

theorem applyAll_singleton (statement : Statement) :
    applyAll platform configuration [statement] = apply platform configuration statement := by
  simp only [applyAll]
  cases apply platform configuration statement <;> rfl

theorem applyAll_cons (platform : Platform) (configuration : Configuration)
    (statement : Statement) (body : List Statement) :
    configuration.applyAll platform (statement :: body) =
      (configuration.apply platform statement).bind fun next => next.applyAll platform body := by
  rw [← applyAll_singleton statement, ← applyAll_append]
  rfl

theorem any_isNamedBy_iff (tags : List String) :
    tags.any platform.isNamedBy = true ↔ ∃ tag ∈ tags, platform.tag? = some tag := by
  simp [Platform.isNamedBy]

mutual

theorem apply_eq_applyAll_flatten (configuration : Configuration) :
    (statement : Statement) → apply platform configuration statement =
      applyAll platform configuration (statement.flatten platform)
  | .setVariable _ _ _ => (applyAll_singleton _).symm
  | .setAlias _ _ _ => (applyAll_singleton _).symm
  | .echo _ _ => (applyAll_singleton _).symm
  | .command _ _ => (applyAll_singleton _).symm
  | .onSystems position tags body => by
      rw [apply, Statement.flatten]
      by_cases htags : ∃ tag ∈ tags, platform.tag? = some tag
      · rw [if_pos htags, if_pos ((any_isNamedBy_iff tags).mpr htags)]
        exact applyAll_eq_applyAll_flattenBody configuration body
      · rw [if_neg htags, if_neg (mt (any_isNamedBy_iff tags).mp htags)]
        rfl

theorem applyAll_eq_applyAll_flattenBody (configuration : Configuration) :
    (statements : List Statement) → applyAll platform configuration statements =
      applyAll platform configuration (flattenBody platform statements)
  | [] => rfl
  | statement :: statements => by
      rw [applyAll, flattenBody, applyAll_append,
        ← apply_eq_applyAll_flatten configuration statement]
      cases apply platform configuration statement with
      | error error =>
          rfl
      | ok next =>
          exact applyAll_eq_applyAll_flattenBody next statements

end

/-! ## A flattened body evaluates statement by statement -/

def IsPlain : Statement → Prop
  | .onSystems _ _ _ => False
  | _ => True

mutual

theorem isPlain_of_mem_flatten : (statement : Statement) →
    ∀ plain ∈ statement.flatten platform, IsPlain plain
  | .setVariable _ _ _ => by simp [Statement.flatten, IsPlain]
  | .setAlias _ _ _ => by simp [Statement.flatten, IsPlain]
  | .echo _ _ => by simp [Statement.flatten, IsPlain]
  | .command _ _ => by simp [Statement.flatten, IsPlain]
  | .onSystems _ _ body => by
      rw [Statement.flatten]
      split
      · exact isPlain_of_mem_flattenBody body
      · simp

theorem isPlain_of_mem_flattenBody : (statements : List Statement) →
    ∀ plain ∈ flattenBody platform statements, IsPlain plain
  | [] => by simp [flattenBody]
  | statement :: statements => by
      intro plain hplain
      rw [flattenBody, List.mem_append] at hplain
      rcases hplain with hplain | hplain
      · exact isPlain_of_mem_flatten statement plain hplain
      · exact isPlain_of_mem_flattenBody statements plain hplain

end

def complaint? : Statement → Option SyntaxError
  | .setVariable position name _ =>
      if isVariableName name then none else some ⟨position, .invalidVariableName name⟩
  | .setAlias position name _ =>
      if isAliasName name then none else some ⟨position, .invalidAliasName name⟩
  | _ => none

def extend (configuration : Configuration) : Statement → Configuration
  | .setVariable _ name value => configuration.setVariable name value
  | .setAlias _ name expansion => configuration.setAlias name expansion
  | .echo _ text => configuration.addCommand (echoCommand text)
  | .command _ text => configuration.addCommand text
  | .onSystems _ _ _ => configuration

theorem complaint?_eq_some_iff {statement : Statement} {error : SyntaxError} :
    complaint? statement = some error ↔
      Misnamed statement error.cause ∧ error.position = statement.position := by
  obtain ⟨position, cause⟩ := error
  constructor
  · intro h
    cases statement with
    | setVariable at_ name value =>
        by_cases hname : isVariableName name = true
        · simp [complaint?, hname] at h
        · simp only [complaint?, hname] at h
          cases h
          exact ⟨.ofVariable (mt isVariableName_iff.mpr hname), rfl⟩
    | setAlias at_ name expansion =>
        by_cases hname : isAliasName name = true
        · simp [complaint?, hname] at h
        · simp only [complaint?, hname] at h
          cases h
          exact ⟨.ofAlias (mt isAliasName_iff.mpr hname), rfl⟩
    | _ =>
        cases h
  · rintro ⟨hmisnamed, hposition⟩
    dsimp only at hmisnamed hposition
    subst hposition
    cases hmisnamed with
    | ofVariable hname =>
        simp [complaint?, mt isVariableName_iff.mp hname, Statement.position]
    | ofAlias hname =>
        simp [complaint?, mt isAliasName_iff.mp hname, Statement.position]

theorem apply_of_isPlain {statement : Statement} (h : IsPlain statement) :
    apply platform configuration statement =
      match complaint? statement with
      | some error => .error error
      | none => .ok (configuration.extend statement) := by
  cases statement with
  | setVariable position name value =>
      by_cases hname : isVariableName name = true <;> simp [apply, complaint?, extend, hname]
  | setAlias position name expansion =>
      by_cases hname : isAliasName name = true <;> simp [apply, complaint?, extend, hname]
  | echo position text =>
      rfl
  | command position text =>
      rfl
  | onSystems position tags body =>
      exact absurd h id

theorem applyAll_of_isPlain {statements : List Statement}
    (h : ∀ statement ∈ statements, IsPlain statement) (configuration : Configuration) :
    applyAll platform configuration statements =
      match statements.findSome? complaint? with
      | some error => .error error
      | none => .ok (statements.foldl extend configuration) := by
  induction statements generalizing configuration with
  | nil =>
      rfl
  | cons statement statements ih =>
      obtain ⟨hstatement, hstatements⟩ := List.forall_mem_cons.mp h
      rw [applyAll, apply_of_isPlain hstatement, List.findSome?_cons]
      cases complaint? statement with
      | some error =>
          rfl
      | none =>
          exact ih hstatements (configuration.extend statement)

def ofFlattened (platform : Platform) (body : List Statement) : Configuration :=
  (flattenBody platform body).foldl extend empty

theorem ofBody_eq (body : List Statement) :
    ofBody platform body =
      match (flattenBody platform body).findSome? complaint? with
      | some error => .error error
      | none => .ok (ofFlattened platform body) := by
  rw [ofBody, applyAll_eq_applyAll_flattenBody]
  exact applyAll_of_isPlain (isPlain_of_mem_flattenBody body) empty

/-! ## What the statements add up to -/

theorem lastValue?_append (first second : List (String × String)) (name : String) :
    lastValue? (first ++ second) name =
      (lastValue? second name).or (lastValue? first name) := by
  unfold lastValue?
  rw [List.reverse_append, List.lookup_append]

theorem lastValue?_singleton (key value name : String) :
    lastValue? [(key, value)] name = if name = key then some value else none := by
  simp [lastValue?, lookup_cons]

theorem filterMap_cons_toList {β : Type} (f : Statement → Option β) (statement : Statement)
    (statements : List Statement) :
    (statement :: statements).filterMap f =
      (f statement).toList ++ statements.filterMap f := by
  cases hf : f statement <;> simp [hf]

theorem get?_insert_eq_or (table : Table String) (key value name : String) :
    (table.insert key value).get? name =
      (lastValue? [(key, value)] name).or (table.get? name) := by
  rw [Table.get?_insert, lastValue?_singleton]
  split <;> rfl

theorem exports_extend (statement : Statement) (name : String) :
    (configuration.extend statement).exports.get? name =
      (lastValue? statement.variable?.toList name).or (configuration.exports.get? name) := by
  cases statement with
  | setVariable position key value =>
      exact get?_insert_eq_or configuration.exports key value name
  | _ =>
      rfl

theorem aliases_extend (statement : Statement) (name : String) :
    (configuration.extend statement).aliases.get? name =
      (lastValue? statement.alias?.toList name).or (configuration.aliases.get? name) := by
  cases statement with
  | setAlias position key expansion =>
      exact get?_insert_eq_or configuration.aliases key expansion name
  | _ =>
      rfl

theorem commands_extend (statement : Statement) :
    (configuration.extend statement).commands =
      configuration.commands ++ statement.command?.toList := by
  cases statement with
  | echo position text =>
      rfl
  | command position text =>
      rfl
  | _ =>
      exact (List.append_nil _).symm

theorem exports_foldl_extend (statements : List Statement) (configuration : Configuration)
    (name : String) :
    (statements.foldl extend configuration).exports.get? name =
      (lastValue? (statements.filterMap Statement.variable?) name).or
        (configuration.exports.get? name) := by
  induction statements generalizing configuration with
  | nil =>
      rfl
  | cons statement statements ih =>
      rw [List.foldl_cons, ih, exports_extend, filterMap_cons_toList, lastValue?_append,
        Option.or_assoc]

theorem aliases_foldl_extend (statements : List Statement) (configuration : Configuration)
    (name : String) :
    (statements.foldl extend configuration).aliases.get? name =
      (lastValue? (statements.filterMap Statement.alias?) name).or
        (configuration.aliases.get? name) := by
  induction statements generalizing configuration with
  | nil =>
      rfl
  | cons statement statements ih =>
      rw [List.foldl_cons, ih, aliases_extend, filterMap_cons_toList, lastValue?_append,
        Option.or_assoc]

theorem commands_foldl_extend (statements : List Statement) (configuration : Configuration) :
    (statements.foldl extend configuration).commands =
      configuration.commands ++ statements.filterMap Statement.command? := by
  induction statements generalizing configuration with
  | nil =>
      exact (List.append_nil _).symm
  | cons statement statements ih =>
      rw [List.foldl_cons, ih, commands_extend, filterMap_cons_toList, List.append_assoc]

theorem describes_foldl_extend (statements : List Statement) :
    Describes statements (statements.foldl extend empty) where
  exports name := by
    rw [exports_foldl_extend]
    exact Option.or_none
  aliases name := by
    rw [aliases_foldl_extend]
    exact Option.or_none
  commands := commands_foldl_extend statements empty

end Configuration

/-! ## Environments -/

namespace Environment

variable {platform : Platform}

def firstComplaint? (platform : Platform) (variants : List Variant) : Option SyntaxError :=
  (variants.flatMap fun variant => flattenBody platform variant.body).findSome?
    Configuration.complaint?

def declare (platform : Platform) (environment : Environment) (variant : Variant) :
    Environment :=
  environment.insert variant.name (.ofFlattened platform variant.body)

theorem declareAll_cons (platform : Platform) (environment : Environment) (variant : Variant)
    (variants : List Variant) :
    declareAll platform environment (variant :: variants) =
      (Configuration.ofBody platform variant.body).bind fun configuration =>
        declareAll platform (environment.insert variant.name configuration) variants := by
  rw [declareAll]
  cases Configuration.ofBody platform variant.body <;> rfl

theorem declareAll_eq (variants : List Variant) (environment : Environment) :
    declareAll platform environment variants =
      match firstComplaint? platform variants with
      | some error => .error error
      | none => .ok (variants.foldl (declare platform) environment) := by
  induction variants generalizing environment with
  | nil =>
      rfl
  | cons variant variants ih =>
      rw [declareAll, Configuration.ofBody_eq, firstComplaint?, List.flatMap_cons,
        List.findSome?_append]
      cases (flattenBody platform variant.body).findSome? Configuration.complaint? with
      | some error =>
          rfl
      | none =>
          exact ih (declare platform environment variant)

theorem mem_keys_foldl_declare (platform : Platform) (variants : List Variant)
    (environment : Environment) (name : String) :
    name ∈ (variants.foldl (declare platform) environment).keys ↔
      (∃ variant ∈ variants, variant.name = name) ∨ name ∈ environment.keys := by
  induction variants generalizing environment with
  | nil =>
      simp
  | cons variant variants ih =>
      have hinsert : name ∈ (declare platform environment variant).keys ↔
          variant.name = name ∨ name ∈ environment.keys := by
        rw [eq_comm]
        exact mem_keys_insertEntry
      rw [List.foldl_cons, ih, hinsert]
      simp only [List.mem_cons, exists_eq_or_imp, or_assoc]
      exact or_left_comm

theorem get?_foldl_declare_of_not_mem {variants : List Variant} {name : String}
    (h : ∀ variant ∈ variants, variant.name ≠ name) (environment : Environment) :
    (variants.foldl (declare platform) environment).get? name = environment.get? name := by
  induction variants generalizing environment with
  | nil =>
      rfl
  | cons variant variants ih =>
      obtain ⟨hvariant, hvariants⟩ := List.forall_mem_cons.mp h
      rw [List.foldl_cons, ih hvariants, declare, Table.get?_insert,
        if_neg (Ne.symm hvariant)]

/-- A variant that is declared again later does not count. -/
theorem get?_foldl_declare_last (before : List Variant) (variant : Variant)
    {after : List Variant} (h : ∀ later ∈ after, later.name ≠ variant.name)
    (environment : Environment) :
    ((before ++ variant :: after).foldl (declare platform) environment).get? variant.name =
      some (.ofFlattened platform variant.body) := by
  rw [List.foldl_append, List.foldl_cons, get?_foldl_declare_of_not_mem h, declare,
    Table.get?_insert, if_pos rfl]

theorem evaluate_eq {origin source : String} {document : Document}
    (h : Document.parse origin source = .ok document) (platform : Platform) :
    evaluate platform origin source =
      match firstComplaint? platform document.variants with
      | some error => .error (error.inSource origin)
      | none => .ok (document.variants.foldl (declare platform) .empty) := by
  rw [evaluate, h]
  simp only [ofDocument, declareAll_eq]
  cases firstComplaint? platform document.variants <;> rfl

/-! ## The first complaint comes first in the source -/

mutual

theorem positions_flatten_sublist : (statement : Statement) →
    ((statement.flatten platform).map Statement.position).Sublist statement.positions
  | .setVariable _ _ _ => .refl _
  | .setAlias _ _ _ => .refl _
  | .echo _ _ => .refl _
  | .command _ _ => .refl _
  | .onSystems position _ body => by
      rw [Statement.flatten, Statement.positions]
      split
      · exact (positions_flattenBody_sublist body).cons position
      · exact List.nil_sublist _

theorem positions_flattenBody_sublist : (statements : List Statement) →
    ((flattenBody platform statements).map Statement.position).Sublist
      (bodyPositions statements)
  | [] => .refl _
  | statement :: statements => by
      rw [flattenBody, bodyPositions, List.map_append]
      exact (positions_flatten_sublist statement).append
        (positions_flattenBody_sublist statements)

end

theorem positions_flatten_variants_sublist (variants : List Variant) :
    ((variants.flatMap fun variant => flattenBody platform variant.body).map
      Statement.position).Sublist (variants.flatMap Variant.positions) := by
  induction variants with
  | nil =>
      exact .refl _
  | cons variant variants ih =>
      rw [List.flatMap_cons, List.flatMap_cons, List.map_append]
      exact ((positions_flattenBody_sublist variant.body).cons variant.position).append ih

theorem pairwise_precedes_flatten {origin source : String} {document : Document}
    (h : Document.parse origin source = .ok document) :
    (document.flatten platform).Pairwise fun first second =>
      first.position.Precedes second.position := by
  rw [← List.pairwise_map]
  exact (pairwise_precedes_positions h).sublist
    (positions_flatten_variants_sublist document.variants)

/-- The error is about the first statement of those left that has no valid name. -/
def IsFirstMisnamed (statements : List Statement) (position : Position) (cause : Cause) :
    Prop :=
  ∃ statement ∈ statements, Misnamed statement cause ∧ statement.position = position ∧
    ∀ other ∈ statements, ∀ cause', Misnamed other cause' →
      other = statement ∨ position.Precedes other.position

theorem isFirstMisnamed_of_findSome? {statements : List Statement} {error : SyntaxError}
    (hordered : statements.Pairwise fun first second =>
      first.position.Precedes second.position)
    (h : statements.findSome? Configuration.complaint? = some error) :
    IsFirstMisnamed statements error.position error.cause := by
  obtain ⟨before, statement, after, rfl, hcomplaint, hbefore⟩ :=
    List.findSome?_eq_some_iff.mp h
  obtain ⟨hmisnamed, hposition⟩ := Configuration.complaint?_eq_some_iff.mp hcomplaint
  refine ⟨statement, by simp, hmisnamed, hposition.symm, ?_⟩
  intro other hother cause hcause
  rw [List.mem_append, List.mem_cons] at hother
  rcases hother with hother | rfl | hother
  · have hnone := hbefore other hother
    have hsome : Configuration.complaint? other = some ⟨other.position, cause⟩ :=
      Configuration.complaint?_eq_some_iff.mpr ⟨hcause, rfl⟩
    rw [hnone] at hsome
    cases hsome
  · exact .inl rfl
  · have hafter := (List.pairwise_append.mp hordered).2.1
    rw [hposition]
    exact .inr ((List.pairwise_cons.mp hafter).1 other hother)

theorem findSome?_complaint?_eq_none_iff {statements : List Statement} :
    statements.findSome? Configuration.complaint? = none ↔
      ∀ statement ∈ statements, ∀ cause, ¬ Misnamed statement cause := by
  rw [List.findSome?_eq_none_iff]
  constructor
  · intro h statement hstatement cause hmisnamed
    have hsome : Configuration.complaint? statement = some ⟨statement.position, cause⟩ :=
      Configuration.complaint?_eq_some_iff.mpr ⟨hmisnamed, rfl⟩
    rw [h statement hstatement] at hsome
    cases hsome
  · intro h statement hstatement
    cases hcomplaint : Configuration.complaint? statement with
    | none =>
        rfl
    | some error =>
        have hmisnamed := (Configuration.complaint?_eq_some_iff.mp hcomplaint).1
        exact absurd hmisnamed (h statement hstatement error.cause)

/-- Evaluation agrees with flattening, for every platform and every source that parses.
It fails exactly when flattening leaves an invalid name in some variant, and then at the
first one in the source.  Otherwise it declares the names of the variants, and each name
stands for what its last declaration alone flattens to. -/
theorem evaluate_flattening {platform : Platform} {origin source : String}
    {document : Document} (h : Document.parse origin source = .ok document) :
    ((∃ error, evaluate platform origin source = .error error) ↔
        ∃ statement ∈ document.flatten platform, ∃ cause, Misnamed statement cause) ∧
      (∀ error, evaluate platform origin source = .error error →
        error.origin = origin ∧
          IsFirstMisnamed (document.flatten platform) error.position error.cause) ∧
      (∀ environment, evaluate platform origin source = .ok environment →
        (∀ name, name ∈ environment.keys ↔
          ∃ variant ∈ document.variants, variant.name = name) ∧
        ∀ before variant after, document.variants = before ++ variant :: after →
          (∀ later ∈ after, later.name ≠ variant.name) →
            ∃ configuration, environment.get? variant.name = some configuration ∧
              Describes (flattenBody platform variant.body) configuration) := by
  have hevaluate := evaluate_eq h platform
  cases hfirst : firstComplaint? platform document.variants with
  | some error =>
      rw [hfirst] at hevaluate
      have hmisnamed := isFirstMisnamed_of_findSome? (pairwise_precedes_flatten h) hfirst
      refine ⟨⟨fun _ => ?_, fun _ => ⟨_, hevaluate⟩⟩, ?_, ?_⟩
      · obtain ⟨statement, hstatement, hcause, _⟩ := hmisnamed
        exact ⟨statement, hstatement, error.cause, hcause⟩
      · intro other hother
        cases hevaluate.symm.trans hother
        exact ⟨rfl, hmisnamed⟩
      · intro environment henvironment
        cases hevaluate.symm.trans henvironment
  | none =>
      rw [hfirst] at hevaluate
      refine ⟨⟨?_, ?_⟩, ?_, ?_⟩
      · rintro ⟨error, herror⟩
        cases hevaluate.symm.trans herror
      · rintro ⟨statement, hstatement, cause, hcause⟩
        exact absurd hcause
          (findSome?_complaint?_eq_none_iff.mp hfirst statement hstatement cause)
      · intro error herror
        cases hevaluate.symm.trans herror
      · intro environment henvironment
        cases hevaluate.symm.trans henvironment
        refine ⟨fun name => ?_, ?_⟩
        · simpa [Table.keys, Table.empty] using
            mem_keys_foldl_declare platform document.variants .empty name
        · intro before variant after hvariants hafter
          rw [hvariants]
          exact ⟨_, get?_foldl_declare_last before variant hafter .empty,
            Configuration.describes_foldl_extend _⟩

/-- The first declaration does not count, and the block of the second one does. -/
theorem evaluate_flattening_redeclared :
    ∃ environment configuration,
      evaluate .linux "D"
          "configuration :v do cmd 'old' end configuration :v do os :linux do echo 'new' end end" =
        .ok environment ∧
      environment.get? "v" = some configuration ∧
      configuration.exports.get? "A" = none ∧ configuration.commands = ["echo 'new'"] := by
  have htokens : tokenize
      "configuration :v do cmd 'old' end configuration :v do os :linux do echo 'new' end end" =
        .ok ⟨[⟨.word "configuration", ⟨1, 1⟩⟩, ⟨.symbol "v", ⟨1, 15⟩⟩, ⟨.word "do", ⟨1, 18⟩⟩,
          ⟨.word "cmd", ⟨1, 21⟩⟩, ⟨.string "old", ⟨1, 25⟩⟩, ⟨.word "end", ⟨1, 31⟩⟩,
          ⟨.word "configuration", ⟨1, 35⟩⟩, ⟨.symbol "v", ⟨1, 49⟩⟩, ⟨.word "do", ⟨1, 52⟩⟩,
          ⟨.word "os", ⟨1, 55⟩⟩, ⟨.symbol "linux", ⟨1, 58⟩⟩, ⟨.word "do", ⟨1, 65⟩⟩,
          ⟨.word "echo", ⟨1, 68⟩⟩, ⟨.string "new", ⟨1, 73⟩⟩, ⟨.word "end", ⟨1, 79⟩⟩,
          ⟨.word "end", ⟨1, 83⟩⟩], ⟨1, 86⟩⟩ := by
    cbv
  have hname (position : Position) : Grammar.Arguments ["v"] [⟨.symbol "v", position⟩] :=
    .bare (.single (.symbol "v" position))
  have hold := Grammar.Derives.body_statement
    (.command ⟨1, 21⟩ (.bare (.single (.string "old" ⟨1, 25⟩)))) .body_nil (by simp)
  have hecho := Grammar.Derives.body_statement
    (.echo ⟨1, 68⟩ (.bare (.single (.string "new" ⟨1, 73⟩)))) .body_nil (by simp)
  have hsystems := Grammar.Derives.body_statement
    (.onSystems ⟨1, 55⟩ (.bare (.single (.symbol "linux" ⟨1, 58⟩))) (by simp)
      (.doEnd ⟨1, 65⟩ ⟨1, 79⟩ hecho)) .body_nil (by simp)
  have hvariants := Grammar.Variants.cons
    (.mk ⟨1, 1⟩ (hname ⟨1, 15⟩) (.doEnd ⟨1, 18⟩ ⟨1, 31⟩ hold)) Grammar.separators_nil
    (.cons (.mk ⟨1, 35⟩ (hname ⟨1, 49⟩) (.doEnd ⟨1, 52⟩ ⟨1, 83⟩ hsystems))
      Grammar.separators_nil .nil)
  have hparse : Document.parse "D"
      "configuration :v do cmd 'old' end configuration :v do os :linux do echo 'new' end end" =
        .ok ⟨[⟨⟨1, 1⟩, "v", [.command ⟨1, 21⟩ "old"]⟩,
          ⟨⟨1, 35⟩, "v", [.onSystems ⟨1, 55⟩ ["linux"] [.echo ⟨1, 68⟩ "new"]]⟩]⟩ :=
    Grammar.parse_eq_ok_iff.mpr
      ⟨_, htokens, [], _, rfl, Grammar.separators_nil, hvariants⟩
  obtain ⟨hfails, _, hdeclares⟩ := @evaluate_flattening .linux _ _ _ hparse
  cases hevaluate : evaluate .linux "D"
      "configuration :v do cmd 'old' end configuration :v do os :linux do echo 'new' end end" with
  | error error =>
      obtain ⟨statement, hstatement, cause, hcause⟩ := hfails.mp ⟨error, hevaluate⟩
      simp [Document.flatten, flattenBody, Statement.flatten, Platform.tag?,
        Platform.name] at hstatement
      rcases hstatement with rfl | rfl <;> cases hcause
  | ok environment =>
      obtain ⟨configuration, hget, hdescribes⟩ := (hdeclares environment hevaluate).2
        [⟨⟨1, 1⟩, "v", [.command ⟨1, 21⟩ "old"]⟩] _ [] rfl (by simp)
      refine ⟨environment, configuration, rfl, hget, ?_, ?_⟩
      · rw [hdescribes.exports]
        simp [flattenBody, Statement.flatten, Platform.tag?, Platform.name,
          Statement.variable?, lastValue?]
      · rw [hdescribes.commands]
        simp [flattenBody, Statement.flatten, Platform.tag?, Platform.name,
          Statement.command?]
        decide

end Environment

/-! ## What holds of every evaluated configuration -/

namespace Configuration

variable {platform : Platform} {configuration : Configuration}

/-- Some platform and some source give the configuration to one of their variants. -/
def IsEvaluated (configuration : Configuration) : Prop :=
  ∃ platform origin source environment name,
    Environment.evaluate platform origin source = .ok environment ∧
      environment.get? name = some configuration

section Invariant

/-! A property of the empty configuration that every statement with a valid name keeps. -/

variable {P : Configuration → Prop} (hempty : P empty)
  (hextend : ∀ statement configuration, complaint? statement = none → P configuration →
    P (configuration.extend statement))

include hextend in
theorem foldl_extend_of_invariant {statements : List Statement}
    (h : ∀ statement ∈ statements, complaint? statement = none) (hconfiguration : P configuration) :
    P (statements.foldl extend configuration) := by
  induction statements generalizing configuration with
  | nil =>
      exact hconfiguration
  | cons statement statements ih =>
      obtain ⟨hstatement, hstatements⟩ := List.forall_mem_cons.mp h
      exact ih hstatements (hextend statement configuration hstatement hconfiguration)

include hempty hextend in
theorem foldl_declare_of_invariant {variants : List Variant}
    (h : Environment.firstComplaint? platform variants = none) {environment : Environment}
    (henvironment : ∀ name configuration, environment.get? name = some configuration →
      P configuration) {name : String}
    (hget : (variants.foldl (Environment.declare platform) environment).get? name =
      some configuration) : P configuration := by
  induction variants generalizing environment with
  | nil =>
      exact henvironment name configuration hget
  | cons variant variants ih =>
      rw [Environment.firstComplaint?, List.flatMap_cons, List.findSome?_append,
        Option.or_eq_none_iff] at h
      refine ih h.2 ?_ hget
      intro other declared hdeclared
      rw [Environment.declare, Table.get?_insert] at hdeclared
      split at hdeclared
      · cases hdeclared
        exact foldl_extend_of_invariant hextend (List.findSome?_eq_none_iff.mp h.1) hempty
      · exact henvironment other declared hdeclared

include hempty hextend in
theorem IsEvaluated.invariant (h : configuration.IsEvaluated) : P configuration := by
  obtain ⟨platform, origin, source, environment, name, hevaluate, hget⟩ := h
  cases hparse : Document.parse origin source with
  | error error =>
      rw [Environment.evaluate, hparse] at hevaluate
      cases hevaluate
  | ok document =>
      rw [Environment.evaluate_eq hparse] at hevaluate
      cases hfirst : Environment.firstComplaint? platform document.variants with
      | some error =>
          rw [hfirst] at hevaluate
          cases hevaluate
      | none =>
          rw [hfirst] at hevaluate
          cases hevaluate
          exact foldl_declare_of_invariant hempty hextend hfirst (by simp) hget

end Invariant

/-! ## Names of variables and aliases -/

def ExportsVariables (configuration : Configuration) : Prop :=
  ∀ name ∈ configuration.exports.keys, VariableName name

def NamesAliases (configuration : Configuration) : Prop :=
  ∀ name ∈ configuration.aliases.keys, AliasName name

theorem keys_insert_of_invariant {P : String → Prop} {table : Table String} {key : String}
    (value : String) (hkey : P key) (htable : ∀ name ∈ table.keys, P name) :
    ∀ name ∈ (table.insert key value).keys, P name := by
  intro name hname
  rcases mem_keys_insertEntry.mp hname with rfl | hname
  · exact hkey
  · exact htable name hname

theorem exportsVariables_extend (statement : Statement) (configuration : Configuration)
    (h : complaint? statement = none) (hconfiguration : configuration.ExportsVariables) :
    (configuration.extend statement).ExportsVariables := by
  cases statement with
  | setVariable position key value =>
      have hkey : VariableName key := by
        apply isVariableName_iff.mp
        simpa [complaint?] using h
      exact keys_insert_of_invariant value hkey hconfiguration
  | _ =>
      exact hconfiguration

theorem namesAliases_extend (statement : Statement) (configuration : Configuration)
    (h : complaint? statement = none) (hconfiguration : configuration.NamesAliases) :
    (configuration.extend statement).NamesAliases := by
  cases statement with
  | setAlias position key expansion =>
      have hkey : AliasName key := by
        apply isAliasName_iff.mp
        simpa [complaint?] using h
      exact keys_insert_of_invariant expansion hkey hconfiguration
  | _ =>
      exact hconfiguration

theorem IsEvaluated.exportsVariables (h : configuration.IsEvaluated) :
    configuration.ExportsVariables :=
  h.invariant (by simp [ExportsVariables, empty, Table.keys, Table.empty])
    exportsVariables_extend

theorem IsEvaluated.namesAliases (h : configuration.IsEvaluated) :
    configuration.NamesAliases :=
  h.invariant (by simp [NamesAliases, empty, Table.keys, Table.empty]) namesAliases_extend

end Configuration

end Workspaces
