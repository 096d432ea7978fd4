import Workspaces.Desktopfile.Document

/-!
# The grammar of a Desktopfile

The grammar is written down here without the reader.  A derivation relates a
list of tokens to what the list means; every production joins the tokens of
its parts by concatenation, and every statement keeps the position of the token
that holds its first word.

The facts below are about derivations alone: how a phrase begins, how a body
grows at its front, and where the keywords of a phrase stand.
-/

namespace Workspaces.Desktopfile

/-- The words that begin a variant or a statement. -/
def keywords : List String :=
  ["configuration", "env", "alias_cmd", "alias", "echo", "cmd", "os"]

def Token.IsKeyword (token : Token) : Prop :=
  ∃ keyword ∈ keywords, token = .word keyword

instance (token : Token) : Decidable token.IsKeyword := by
  unfold Token.IsKeyword
  infer_instance

theorem Token.isKeyword_word {word : String} :
    (Token.word word).IsKeyword ↔ word ∈ keywords := by
  simp [Token.IsKeyword]

theorem Token.IsKeyword.not_isSeparator {token : Token} (h : token.IsKeyword) :
    token.isSeparator = false := by
  obtain ⟨keyword, _, rfl⟩ := h
  rfl

theorem Token.IsKeyword.ne_closer {token : Token} (h : token.IsKeyword)
    (delimiter : Delimiter) : token ≠ delimiter.closer := by
  obtain ⟨keyword, hkeyword, rfl⟩ := h
  cases delimiter with
  | doEnd =>
      rintro hend
      cases hend
      simp [keywords] at hkeyword
  | braces =>
      simp [Delimiter.closer]

def keywordPositions (tokens : List (Located Token)) : List Position :=
  (tokens.filter fun token => token.value.IsKeyword).map Located.position

mutual

/-- The position of a statement, then those of the statements inside it. -/
def Statement.positions : Statement → List Position
  | .setVariable position _ _ => [position]
  | .setAlias position _ _ => [position]
  | .echo position _ => [position]
  | .command position _ => [position]
  | .onSystems position _ body => position :: bodyPositions body

def bodyPositions : List Statement → List Position
  | [] => []
  | statement :: statements => statement.positions ++ bodyPositions statements

end

def Variant.positions (variant : Variant) : List Position :=
  variant.position :: bodyPositions variant.body

/-- The positions of all variants and statements, each before what it holds. -/
def Document.positions (document : Document) : List Position :=
  document.variants.flatMap Variant.positions

namespace Grammar

def Separators (tokens : List (Located Token)) : Prop :=
  ∀ token ∈ tokens, token.value = .newline ∨ token.value = .semicolon

def Newlines (tokens : List (Located Token)) : Prop :=
  ∀ token ∈ tokens, token.value = .newline

inductive Value : String → List (Located Token) → Prop
  | string (value : String) (position : Position) :
      Value value [⟨.string value, position⟩]
  | symbol (name : String) (position : Position) :
      Value name [⟨.symbol name, position⟩]

/-- One value or more; lines may be broken after a comma. -/
inductive Values : List String → List (Located Token) → Prop
  | single {value : String} {tokens : List (Located Token)} :
      Value value tokens → Values [value] tokens
  | more {value : String} {values : List String} {head gap tail : List (Located Token)}
      (comma : Position) :
      Value value head → Newlines gap → Values values tail →
        Values (value :: values) (head ++ ⟨.comma, comma⟩ :: gap ++ tail)

inductive Arguments : List String → List (Located Token) → Prop
  | bare {values : List String} {tokens : List (Located Token)} :
      Values values tokens → Arguments values tokens
  | parenthesized {values : List String} {before tokens after : List (Located Token)}
      (opening closing : Position) :
      Newlines before → Values values tokens → Newlines after →
        Arguments values
          (⟨.openParen, opening⟩ :: before ++ tokens ++ after ++ [⟨.closeParen, closing⟩])

/-- A nonterminal of the recursive part of the grammar with its meaning. -/
inductive Phrase where
  | statement (statement : Statement)
  | statements (body : List Statement)
  | body (body : List Statement)
  | block (body : List Statement)

inductive Derives : Phrase → List (Located Token) → Prop
  | setVariable {name value : String} {tokens : List (Located Token)} (position : Position) :
      Arguments [name, value] tokens →
        Derives (.statement (.setVariable position name value))
          (⟨.word "env", position⟩ :: tokens)
  | setAlias {name expansion : String} {tokens : List (Located Token)} (position : Position)
      (keyword : String) : keyword = "alias_cmd" ∨ keyword = "alias" →
      Arguments [name, expansion] tokens →
        Derives (.statement (.setAlias position name expansion))
          (⟨.word keyword, position⟩ :: tokens)
  | echo {text : String} {tokens : List (Located Token)} (position : Position) :
      Arguments [text] tokens →
        Derives (.statement (.echo position text)) (⟨.word "echo", position⟩ :: tokens)
  | command {text : String} {tokens : List (Located Token)} (position : Position) :
      Arguments [text] tokens →
        Derives (.statement (.command position text)) (⟨.word "cmd", position⟩ :: tokens)
  | onSystems {tags : List String} {body : List Statement}
      {tokens block : List (Located Token)} (position : Position) :
      Arguments tags tokens → 1 ≤ tags.length → Derives (.block body) block →
        Derives (.statement (.onSystems position tags body))
          (⟨.word "os", position⟩ :: tokens ++ block)
  | single {statement : Statement} {tokens : List (Located Token)} :
      Derives (.statement statement) tokens → Derives (.statements [statement]) tokens
  | separated {statement : Statement} {body : List Statement}
      {head gap tail : List (Located Token)} :
      Derives (.statement statement) head → Separators gap → gap ≠ [] →
        Derives (.statements body) tail →
          Derives (.statements (statement :: body)) (head ++ gap ++ tail)
  | emptyBody {gap : List (Located Token)} : Separators gap → Derives (.body []) gap
  | fullBody {body : List Statement} {before tokens after : List (Located Token)} :
      Separators before → Derives (.statements body) tokens → Separators after →
        Derives (.body body) (before ++ tokens ++ after)
  | doEnd {body : List Statement} {tokens : List (Located Token)}
      (opening closing : Position) :
      Derives (.body body) tokens →
        Derives (.block body) (⟨.word "do", opening⟩ :: tokens ++ [⟨.word "end", closing⟩])
  | braces {body : List Statement} {tokens : List (Located Token)}
      (opening closing : Position) :
      Derives (.body body) tokens →
        Derives (.block body) (⟨.openBrace, opening⟩ :: tokens ++ [⟨.closeBrace, closing⟩])

inductive Declares : Variant → List (Located Token) → Prop
  | mk {name : String} {body : List Statement} {tokens block : List (Located Token)}
      (position : Position) :
      Arguments [name] tokens → Derives (.block body) block →
        Declares ⟨position, name, body⟩
          (⟨.word "configuration", position⟩ :: tokens ++ block)

inductive Variants : List Variant → List (Located Token) → Prop
  | nil : Variants [] []
  | cons {variant : Variant} {variants : List Variant}
      {head gap tail : List (Located Token)} :
      Declares variant head → Separators gap → Variants variants tail →
        Variants (variant :: variants) (head ++ gap ++ tail)

def Spells (document : Document) (tokens : List (Located Token)) : Prop :=
  ∃ before rest, tokens = before ++ rest ∧ Separators before ∧
    Variants document.variants rest

/-! ## Separators, line ends and values -/

theorem separators_nil : Separators [] := by
  intro token htoken
  cases htoken

theorem separators_cons {token : Located Token} {tokens : List (Located Token)} :
    Separators (token :: tokens) ↔
      token.value.isSeparator = true ∧ Separators tokens := by
  have htoken : token.value.isSeparator = true ↔
      token.value = .newline ∨ token.value = .semicolon := by
    cases token.value <;> simp [Token.isSeparator]
  rw [htoken]
  exact List.forall_mem_cons

theorem newlines_nil : Newlines [] := by
  intro token htoken
  cases htoken

theorem newlines_cons {token : Located Token} {tokens : List (Located Token)} :
    Newlines (token :: tokens) ↔ token.value = .newline ∧ Newlines tokens :=
  List.forall_mem_cons

theorem value_iff {value : String} {tokens : List (Located Token)} :
    Value value tokens ↔
      ∃ token, tokens = [token] ∧ token.value.argument? = some value := by
  constructor
  · intro h
    cases h with
    | string position =>
        exact ⟨_, rfl, rfl⟩
    | symbol position =>
        exact ⟨_, rfl, rfl⟩
  · rintro ⟨⟨token, position⟩, rfl, htoken⟩
    cases token with
    | string text =>
        cases htoken
        exact .string value position
    | symbol name =>
        cases htoken
        exact .symbol value position
    | _ =>
        simp [Token.argument?] at htoken

/-! ## How a phrase begins -/

theorem Values.head {values : List String} {tokens : List (Located Token)}
    (h : Values values tokens) :
    ∃ token rest value, tokens = token :: rest ∧ token.value.argument? = some value := by
  cases h with
  | single hvalue =>
      obtain ⟨token, rfl, htoken⟩ := value_iff.mp hvalue
      exact ⟨token, [], _, rfl, htoken⟩
  | more comma hvalue hgap htail =>
      obtain ⟨token, rfl, htoken⟩ := value_iff.mp hvalue
      exact ⟨token, _, _, rfl, htoken⟩

theorem Arguments.ne_nil {values : List String} {tokens : List (Located Token)}
    (h : Arguments values tokens) : values ≠ [] := by
  cases h with
  | bare hvalues =>
      cases hvalues <;> simp
  | parenthesized opening closing hbefore hvalues hafter =>
      cases hvalues <;> simp

theorem Derives.statement_head {statement : Statement} {tokens : List (Located Token)}
    (h : Derives (.statement statement) tokens) :
    ∃ token rest, tokens = token :: rest ∧ token.value.IsKeyword := by
  cases h with
  | setVariable position _ =>
      exact ⟨_, _, rfl, "env", by simp [keywords], rfl⟩
  | setAlias position keyword hkeyword _ =>
      refine ⟨_, _, rfl, keyword, ?_, rfl⟩
      rcases hkeyword with rfl | rfl <;> simp [keywords]
  | echo position _ =>
      exact ⟨_, _, rfl, "echo", by simp [keywords], rfl⟩
  | command position _ =>
      exact ⟨_, _, rfl, "cmd", by simp [keywords], rfl⟩
  | onSystems position _ _ _ =>
      exact ⟨_, _, rfl, "os", by simp [keywords], rfl⟩

theorem Derives.statements_head {body : List Statement} {tokens : List (Located Token)}
    (h : Derives (.statements body) tokens) :
    ∃ token rest, tokens = token :: rest ∧ token.value.IsKeyword := by
  cases h with
  | single hstatement =>
      exact hstatement.statement_head
  | separated hstatement hgap hne htail =>
      obtain ⟨token, rest, rfl, htoken⟩ := hstatement.statement_head
      exact ⟨token, _, rfl, htoken⟩

theorem Derives.body_head {body : List Statement} {token : Located Token}
    {tokens : List (Located Token)} (h : Derives (.body body) (token :: tokens)) :
    token.value.isSeparator = true ∨ token.value.IsKeyword := by
  generalize htokens : token :: tokens = all at h
  cases h with
  | emptyBody hgap =>
      subst htokens
      exact .inl (separators_cons.mp hgap).1
  | @fullBody _ before middle after hbefore hbody hafter =>
      cases before with
      | nil =>
          obtain ⟨first, rest, rfl, hfirst⟩ := hbody.statements_head
          simp only [List.nil_append, List.cons_append, List.cons.injEq] at htokens
          rw [htokens.1]
          exact .inr hfirst
      | cons first rest =>
          simp only [List.cons_append, List.cons.injEq] at htokens
          rw [htokens.1]
          exact .inl (separators_cons.mp hbefore).1

/-! ## A body grows at its front -/

theorem Derives.body_nil : Derives (.body []) [] :=
  .emptyBody separators_nil

theorem Derives.body_separator {body : List Statement} {token : Located Token}
    {tokens : List (Located Token)} (htoken : token.value.isSeparator = true)
    (h : Derives (.body body) tokens) : Derives (.body body) (token :: tokens) := by
  cases h with
  | emptyBody hgap =>
      exact .emptyBody (separators_cons.mpr ⟨htoken, hgap⟩)
  | fullBody hbefore hbody hafter =>
      exact .fullBody (separators_cons.mpr ⟨htoken, hbefore⟩) hbody hafter

theorem Derives.body_statement {statement : Statement} {body : List Statement}
    {head tail : List (Located Token)} (hstatement : Derives (.statement statement) head)
    (hbody : Derives (.body body) tail)
    (hgap : ∀ token ∈ tail.head?, token.value.isSeparator = true) :
    Derives (.body (statement :: body)) (head ++ tail) := by
  cases hbody with
  | emptyBody hafter =>
      simpa using Derives.fullBody separators_nil (.single hstatement) hafter
  | @fullBody _ before tokens after hbefore hstatements hafter =>
      have hne : before ≠ [] := by
        rintro rfl
        obtain ⟨first, rest, rfl, hfirst⟩ := hstatements.statements_head
        have hseparator := hgap first (by simp)
        rw [hfirst.not_isSeparator] at hseparator
        cases hseparator
      have hall : Derives (.statements (statement :: body)) (head ++ before ++ tokens) :=
        .separated hstatement hbefore hne hstatements
      simpa [List.append_assoc] using Derives.fullBody separators_nil hall hafter

/-! ## Where the keywords stand -/

theorem keywordPositions_append (first second : List (Located Token)) :
    keywordPositions (first ++ second) =
      keywordPositions first ++ keywordPositions second := by
  simp [keywordPositions]

theorem keywordPositions_cons_of_isKeyword {token : Located Token}
    (htoken : token.value.IsKeyword) (tokens : List (Located Token)) :
    keywordPositions (token :: tokens) = token.position :: keywordPositions tokens := by
  simp [keywordPositions, htoken]

theorem keywordPositions_eq_nil {tokens : List (Located Token)}
    (h : ∀ token ∈ tokens, ¬ token.value.IsKeyword) : keywordPositions tokens = [] := by
  unfold keywordPositions
  rw [List.map_eq_nil_iff, List.filter_eq_nil_iff]
  intro token htoken
  simpa using h token htoken

theorem keywordPositions_cons_of_not_isKeyword {token : Located Token}
    (htoken : ¬ token.value.IsKeyword) (tokens : List (Located Token)) :
    keywordPositions (token :: tokens) = keywordPositions tokens := by
  simp [keywordPositions, htoken]

theorem keywordPositions_enclosed {opener closer : Located Token}
    (hopener : ¬ opener.value.IsKeyword) (hcloser : ¬ closer.value.IsKeyword)
    (tokens : List (Located Token)) :
    keywordPositions (opener :: tokens ++ [closer]) = keywordPositions tokens := by
  rw [keywordPositions_append, keywordPositions_cons_of_not_isKeyword hopener,
    keywordPositions_cons_of_not_isKeyword hcloser]
  exact List.append_nil _

theorem Separators.keywordPositions_eq_nil {tokens : List (Located Token)}
    (h : Separators tokens) : keywordPositions tokens = [] := by
  apply Grammar.keywordPositions_eq_nil
  rintro token htoken ⟨keyword, _, hword⟩
  rcases h token htoken with hvalue | hvalue <;> simp [hvalue] at hword

theorem Newlines.keywordPositions_eq_nil {tokens : List (Located Token)}
    (h : Newlines tokens) : keywordPositions tokens = [] :=
  Separators.keywordPositions_eq_nil fun token htoken => .inl (h token htoken)

theorem Value.keywordPositions_eq_nil {value : String} {tokens : List (Located Token)}
    (h : Value value tokens) : keywordPositions tokens = [] := by
  apply Grammar.keywordPositions_eq_nil
  rintro token htoken ⟨keyword, _, hword⟩
  obtain ⟨only, rfl, hargument⟩ := value_iff.mp h
  rw [List.mem_singleton.mp htoken] at hword
  simp [hword, Token.argument?] at hargument

theorem Values.keywordPositions_eq_nil {values : List String}
    {tokens : List (Located Token)} (h : Values values tokens) :
    keywordPositions tokens = [] := by
  induction h with
  | single hvalue =>
      exact hvalue.keywordPositions_eq_nil
  | more comma hvalue hgap htail ih =>
      have hcomma : ¬ Token.IsKeyword .comma := by simp [Token.IsKeyword]
      rw [keywordPositions_append, keywordPositions_append, ih,
        hvalue.keywordPositions_eq_nil, keywordPositions_cons_of_not_isKeyword hcomma,
        hgap.keywordPositions_eq_nil]
      rfl

theorem Arguments.keywordPositions_eq_nil {values : List String}
    {tokens : List (Located Token)} (h : Arguments values tokens) :
    keywordPositions tokens = [] := by
  cases h with
  | bare hvalues =>
      exact hvalues.keywordPositions_eq_nil
  | @parenthesized before list after opening closing hbefore hvalues hafter =>
      have hopen : ¬ Token.IsKeyword .openParen := by simp [Token.IsKeyword]
      have hclose : ¬ Token.IsKeyword .closeParen := by simp [Token.IsKeyword]
      have hinside : keywordPositions (before ++ list ++ after) = [] := by
        rw [keywordPositions_append, keywordPositions_append,
          hbefore.keywordPositions_eq_nil, hvalues.keywordPositions_eq_nil,
          hafter.keywordPositions_eq_nil]
        rfl
      rw [← hinside]
      exact keywordPositions_enclosed hopen hclose (before ++ list ++ after)

def Phrase.positions : Phrase → List Position
  | .statement meaning => meaning.positions
  | .statements meaning => bodyPositions meaning
  | .body meaning => bodyPositions meaning
  | .block meaning => bodyPositions meaning

/-- Every statement of a phrase keeps the position of its own keyword. -/
theorem Derives.positions_eq {phrase : Phrase} {tokens : List (Located Token)}
    (h : Derives phrase tokens) : phrase.positions = keywordPositions tokens := by
  have hkeyword : ∀ {word : String} {position : Position} (rest : List (Located Token)),
      word ∈ keywords →
        keywordPositions (⟨.word word, position⟩ :: rest) =
          position :: keywordPositions rest :=
    fun rest hword =>
      keywordPositions_cons_of_isKeyword (Token.isKeyword_word.mpr hword) rest
  induction h with
  | setVariable position harguments =>
      rw [hkeyword _ (by simp [keywords]), harguments.keywordPositions_eq_nil]
      rfl
  | setAlias position keyword hword harguments =>
      rw [hkeyword _ (by rcases hword with rfl | rfl <;> simp [keywords]),
        harguments.keywordPositions_eq_nil]
      rfl
  | echo position harguments =>
      rw [hkeyword _ (by simp [keywords]), harguments.keywordPositions_eq_nil]
      rfl
  | command position harguments =>
      rw [hkeyword _ (by simp [keywords]), harguments.keywordPositions_eq_nil]
      rfl
  | onSystems position harguments htags hblock ih =>
      rw [keywordPositions_append, hkeyword _ (by simp [keywords]),
        harguments.keywordPositions_eq_nil, ← ih]
      rfl
  | single hstatement ih =>
      rw [← ih]
      exact List.append_nil _
  | separated hstatement hgap hne htail ihstatement ihtail =>
      rw [keywordPositions_append, keywordPositions_append,
        hgap.keywordPositions_eq_nil, ← ihstatement, ← ihtail, List.append_nil]
      rfl
  | emptyBody hgap =>
      rw [hgap.keywordPositions_eq_nil]
      rfl
  | fullBody hbefore hbody hafter ih =>
      rw [keywordPositions_append, keywordPositions_append,
        hbefore.keywordPositions_eq_nil, hafter.keywordPositions_eq_nil, ← ih,
        List.append_nil]
      rfl
  | doEnd opening closing hbody ih =>
      have hdo : ¬ Token.IsKeyword (.word "do") := by simp [Token.IsKeyword, keywords]
      have hend : ¬ Token.IsKeyword (.word "end") := by simp [Token.IsKeyword, keywords]
      rw [keywordPositions_enclosed hdo hend]
      exact ih
  | braces opening closing hbody ih =>
      have hopen : ¬ Token.IsKeyword .openBrace := by simp [Token.IsKeyword]
      have hclose : ¬ Token.IsKeyword .closeBrace := by simp [Token.IsKeyword]
      rw [keywordPositions_enclosed hopen hclose]
      exact ih

theorem Declares.positions_eq {variant : Variant} {tokens : List (Located Token)}
    (h : Declares variant tokens) : variant.positions = keywordPositions tokens := by
  cases h with
  | mk position harguments hblock =>
      have hkeyword : Token.IsKeyword (.word "configuration") := by
        simp [Token.IsKeyword, keywords]
      rw [keywordPositions_append, keywordPositions_cons_of_isKeyword hkeyword,
        harguments.keywordPositions_eq_nil, ← hblock.positions_eq]
      rfl

theorem Variants.positions_eq {variants : List Variant} {tokens : List (Located Token)}
    (h : Variants variants tokens) :
    variants.flatMap Variant.positions = keywordPositions tokens := by
  induction h with
  | nil =>
      rfl
  | cons hvariant hgap htail ih =>
      rw [keywordPositions_append, keywordPositions_append,
        hgap.keywordPositions_eq_nil, List.flatMap_cons, hvariant.positions_eq, ih,
        List.append_nil]

theorem Spells.positions_eq {document : Document} {tokens : List (Located Token)}
    (h : Spells document tokens) : document.positions = keywordPositions tokens := by
  obtain ⟨before, rest, rfl, hbefore, hvariants⟩ := h
  rw [keywordPositions_append, hbefore.keywordPositions_eq_nil]
  exact hvariants.positions_eq

end Grammar

end Workspaces.Desktopfile
