import Workspaces.Proofs.MovedSources

/-!
# Layouts

A document is printed in three steps, each with free choices.  A derivation of the
grammar sets the tokens: parentheses, the kind of each block, the word of an alias,
line ends after commas, separators.  Every token is written down: a value in quotes of
either kind or as a symbol.  Gaps go between the lexemes, so that no two words touch.
Whatever is chosen, the text is read back as the document, up to positions, and so it
means the same.
-/

namespace Workspaces

namespace Desktopfile

open Lexical

/-! ## Documents without positions -/

mutual

/-- A statement with all its positions at the start. -/
def Statement.unplaced : Statement → Statement
  | .setVariable _ name value => .setVariable .start name value
  | .setAlias _ name expansion => .setAlias .start name expansion
  | .echo _ text => .echo .start text
  | .command _ text => .command .start text
  | .onSystems _ tags body => .onSystems .start tags (unplacedBody body)

def unplacedBody : List Statement → List Statement
  | [] => []
  | statement :: statements => statement.unplaced :: unplacedBody statements

end

def Variant.unplaced (variant : Variant) : Variant :=
  ⟨.start, variant.name, unplacedBody variant.body⟩

/-- The tree of a document, without the positions in its source. -/
def Document.unplaced (document : Document) : Document :=
  ⟨document.variants.map Variant.unplaced⟩

mutual

theorem Statement.unplaced_eq_moved : (statement : Statement) →
    statement.unplaced = statement.moved fun _ => .start
  | .setVariable _ _ _ => rfl
  | .setAlias _ _ _ => rfl
  | .echo _ _ => rfl
  | .command _ _ => rfl
  | .onSystems _ tags body => by
      rw [Statement.unplaced, Statement.moved, unplacedBody_eq_moved body]

theorem unplacedBody_eq_moved : (body : List Statement) →
    unplacedBody body = movedBody (fun _ => .start) body
  | [] => rfl
  | statement :: body => by
      rw [unplacedBody, movedBody, statement.unplaced_eq_moved, unplacedBody_eq_moved body]

end

theorem Variant.unplaced_eq_moved (variant : Variant) :
    variant.unplaced = variant.moved fun _ => .start := by
  rw [Variant.unplaced, Variant.moved, unplacedBody_eq_moved]

mutual

/-- Every block for some systems names one at least. -/
def Statement.IsTagged : Statement → Prop
  | .onSystems _ tags body => tags ≠ [] ∧ BodyIsTagged body
  | _ => True

def BodyIsTagged : List Statement → Prop
  | [] => True
  | statement :: statements => statement.IsTagged ∧ BodyIsTagged statements

end

def Document.IsTagged (document : Document) : Prop :=
  ∀ variant ∈ document.variants, BodyIsTagged variant.body

/-! ## Printing -/

/-- A character of a text between single quotes. -/
def singleChar (c : Char) : List Char :=
  if c = '\\' ∨ c = '\'' then ['\\', c] else [c]

/-- A character of a text between double quotes. -/
def doubleChar (c : Char) : List Char :=
  if c = '\\' ∨ c = '"' ∨ c = '#' then ['\\', c] else [c]

/-- How a token is written. -/
inductive Writes : Token → List Char → Prop
  | mark {c : Char} {token : Token} : (c, token) ∈ marks → Writes token [c]
  | word {name : String} : VariableName name → Writes (.word name) name.toList
  | symbol {name : String} : VariableName name → Writes (.symbol name) (':' :: name.toList)
  | single (value : String) :
      Writes (.string value) ('\'' :: (value.toList.flatMap singleChar ++ ['\'']))
  | double (value : String) :
      Writes (.string value) ('"' :: (value.toList.flatMap doubleChar ++ ['"']))

/-- The end of one text and the beginning of another do not make one word. -/
def Apart (first second : List Char) : Prop :=
  ∀ last ∈ first.getLast?, ∀ next ∈ second.head?, ¬ (IsWordPart last ∧ IsWordPart next)

/-- Tokens are written one after the other, with gaps before each and after the last. -/
inductive WritesAll : List Token → List Char → Prop
  | nil {gap : List Char} : Gap gap [] → WritesAll [] gap
  | cons {token : Token} {tokens : List Token} {gap lexeme rest : List Char} :
      Gap gap (lexeme ++ rest) → Writes token lexeme → Apart lexeme rest →
        WritesAll tokens rest → WritesAll (token :: tokens) (gap ++ lexeme ++ rest)

/-- A text is one of the layouts of a document. -/
def Prints (document : Document) (text : List Char) : Prop :=
  ∃ tokens, Grammar.Spells document tokens ∧ WritesAll (tokens.map Located.value) text

/-! ## What is written is a lexeme -/

theorem singleQuoted_flatMap (value : List Char) :
    SingleQuoted (value.flatMap singleChar ++ ['\'']) value := by
  induction value with
  | nil =>
      exact .close
  | cons c value ih =>
      rw [List.flatMap_cons, List.append_assoc]
      by_cases hc : c = '\\' ∨ c = '\''
      · rw [singleChar, if_pos hc]
        exact .escape hc.symm ih
      · rw [singleChar, if_neg hc]
        rw [not_or] at hc
        exact .plain hc.2 hc.1 ih

theorem doubleQuoted_flatMap (value : List Char) :
    DoubleQuoted (value.flatMap doubleChar ++ ['"']) value := by
  induction value with
  | nil =>
      exact .close
  | cons c value ih =>
      rw [List.flatMap_cons, List.append_assoc]
      by_cases hc : c = '\\' ∨ c = '"' ∨ c = '#'
      · have hescaped : Escaped c [c] := by
          rcases hc with rfl | rfl | rfl <;> exact .known (by decide)
        rw [doubleChar, if_pos hc]
        exact .escape hescaped ih
      · rw [doubleChar, if_neg hc]
        rw [not_or, not_or] at hc
        exact .plain hc.2.1 hc.1 (fun h => hc.2.2 h.1) ih

theorem Writes.lexeme {token : Token} {lexeme : List Char} (h : Writes token lexeme) :
    Lexeme lexeme token := by
  cases h with
  | mark hmark =>
      exact .mark hmark
  | word hname =>
      exact .word hname
  | symbol hname =>
      exact .symbol hname
  | single value =>
      exact .single (singleQuoted_flatMap value.toList)
  | double value =>
      exact .double (doubleQuoted_flatMap value.toList)

theorem Apart.not_isWordPart {name : String} (hname : VariableName name) (before : List Char)
    {rest : List Char} (h : Apart (before ++ name.toList) rest) :
    ∀ c ∈ rest.head?, ¬ IsWordPart c := by
  obtain ⟨first, others, hword, _, hchars⟩ := exists_toList_of_variableName hname
  have hne : name.toList ≠ [] := by
    rw [hword]
    exact List.cons_ne_nil first others
  have hlast : (before ++ name.toList).getLast? = some (name.toList.getLast hne) := by
    rw [List.getLast?_append, List.getLast?_eq_some_getLast hne]
    rfl
  have hpart : IsWordPart (name.toList.getLast hne) :=
    isWordChar_iff.mp (hchars _ (List.getLast_mem hne))
  exact fun c hc hnext => h _ hlast c hc ⟨hpart, hnext⟩

theorem Writes.isWhole {token : Token} {lexeme rest : List Char} (h : Writes token lexeme)
    (hrest : Apart lexeme rest) : IsWhole token rest := by
  cases h with
  | mark hmark =>
      exact isWhole_of_mem_marks hmark rest
  | word hname =>
      exact Apart.not_isWordPart hname [] hrest
  | symbol hname =>
      exact Apart.not_isWordPart hname [':'] hrest
  | single value =>
      trivial
  | double value =>
      trivial

theorem WritesAll.splits {tokens : List Token} {text : List Char} (h : WritesAll tokens text) :
    ∃ pieces last, Splits text pieces last ∧ pieces.map Piece.token = tokens := by
  induction h with
  | nil hgap =>
      exact ⟨[], _, .last hgap, rfl⟩
  | @cons token tokens gap lexeme rest hgap hwrites hrest hall ih =>
      obtain ⟨pieces, last, hsplits, rfl⟩ := ih
      exact ⟨⟨gap, lexeme, token⟩ :: pieces, last,
        .piece hgap hwrites.lexeme (hwrites.isWhole hrest) hsplits, rfl⟩

/-! ## The grammar does not look at positions -/

/-- The same tokens, whatever their positions. -/
def SameTokens (others tokens : List (Located Token)) : Prop :=
  others.map Located.value = tokens.map Located.value

namespace SameTokens

variable {others tokens first second : List (Located Token)} {token : Located Token}

theorem of_nil (h : SameTokens others []) : others = [] :=
  List.map_eq_nil_iff.mp h

theorem of_cons (h : SameTokens others (token :: tokens)) :
    ∃ position rest, others = ⟨token.value, position⟩ :: rest ∧ SameTokens rest tokens := by
  obtain ⟨⟨value, position⟩, rest, rfl, hvalue, hrest⟩ := List.map_eq_cons_iff.mp h
  exact ⟨position, rest, congrArg (fun value => ⟨value, position⟩ :: rest) hvalue, hrest⟩

theorem of_append (h : SameTokens others (first ++ second)) :
    ∃ before after, others = before ++ after ∧ SameTokens before first ∧
      SameTokens after second := by
  rw [SameTokens, List.map_append] at h
  exact List.map_eq_append_iff.mp h

theorem forall_mem {P : Token → Prop} (h : SameTokens others tokens)
    (htokens : ∀ token ∈ tokens, P token.value) : ∀ token ∈ others, P token.value := by
  rw [← List.forall_mem_map (P := P), h, List.forall_mem_map]
  exact htokens

end SameTokens

namespace Grammar

variable {tokens others : List (Located Token)} {values : List String} {value : String}

theorem Separators.replace (h : Separators tokens) (hsame : SameTokens others tokens) :
    Separators others :=
  hsame.forall_mem (P := fun token => token = .newline ∨ token = .semicolon) h

theorem Newlines.replace (h : Newlines tokens) (hsame : SameTokens others tokens) :
    Newlines others :=
  hsame.forall_mem (P := fun token => token = .newline) h

theorem Value.replace (h : Value value tokens) (hsame : SameTokens others tokens) :
    Value value others := by
  obtain ⟨token, rfl, hargument⟩ := value_iff.mp h
  obtain ⟨position, rest, rfl, hrest⟩ := hsame.of_cons
  rw [hrest.of_nil]
  exact value_iff.mpr ⟨_, rfl, hargument⟩

theorem Values.replace (h : Values values tokens) (hsame : SameTokens others tokens) :
    Values values others := by
  induction h generalizing others with
  | single hvalue =>
      exact .single (hvalue.replace hsame)
  | more comma hvalue hgap htail ih =>
      obtain ⟨_, tail, rfl, hsame, htails⟩ := hsame.of_append
      obtain ⟨head, _, rfl, hhead, hsame⟩ := hsame.of_append
      obtain ⟨position, gap, rfl, hgaps⟩ := hsame.of_cons
      exact .more position (hvalue.replace hhead) (hgap.replace hgaps) (ih htails)

theorem Arguments.replace (h : Arguments values tokens) (hsame : SameTokens others tokens) :
    Arguments values others := by
  cases h with
  | bare hvalues =>
      exact .bare (hvalues.replace hsame)
  | parenthesized opening closing hbefore hvalues hafter =>
      obtain ⟨_, closers, rfl, hsame, hclosers⟩ := hsame.of_append
      obtain ⟨_, after, rfl, hsame, hafters⟩ := hsame.of_append
      obtain ⟨_, list, rfl, hsame, hlist⟩ := hsame.of_append
      obtain ⟨opening, before, rfl, hbefores⟩ := hsame.of_cons
      obtain ⟨closing, rest, rfl, hrest⟩ := hclosers.of_cons
      rw [hrest.of_nil]
      exact .parenthesized opening closing (hbefore.replace hbefores) (hvalues.replace hlist)
        (hafter.replace hafters)

/-- The same phrase, up to positions, has a derivation from other tokens. -/
def Phrase.Derivable (tokens : List (Located Token)) : Phrase → Prop
  | .statement meaning => ∃ other : Statement,
      other.unplaced = meaning.unplaced ∧ Derives (.statement other) tokens
  | .statements meaning => ∃ other,
      unplacedBody other = unplacedBody meaning ∧ Derives (.statements other) tokens
  | .body meaning => ∃ other,
      unplacedBody other = unplacedBody meaning ∧ Derives (.body other) tokens
  | .block meaning => ∃ other,
      unplacedBody other = unplacedBody meaning ∧ Derives (.block other) tokens

theorem Derives.replace {phrase : Phrase} (h : Derives phrase tokens)
    (hsame : SameTokens others tokens) : phrase.Derivable others := by
  induction h generalizing others with
  | setVariable position harguments =>
      obtain ⟨position, rest, rfl, hrest⟩ := hsame.of_cons
      exact ⟨.setVariable position _ _, rfl, .setVariable position (harguments.replace hrest)⟩
  | setAlias position keyword hkeyword harguments =>
      obtain ⟨position, rest, rfl, hrest⟩ := hsame.of_cons
      exact ⟨.setAlias position _ _, rfl,
        .setAlias position keyword hkeyword (harguments.replace hrest)⟩
  | echo position harguments =>
      obtain ⟨position, rest, rfl, hrest⟩ := hsame.of_cons
      exact ⟨.echo position _, rfl, .echo position (harguments.replace hrest)⟩
  | command position harguments =>
      obtain ⟨position, rest, rfl, hrest⟩ := hsame.of_cons
      exact ⟨.command position _, rfl, .command position (harguments.replace hrest)⟩
  | onSystems position harguments htags hblock ih =>
      obtain ⟨_, block, rfl, hsame, hblocks⟩ := hsame.of_append
      obtain ⟨position, rest, rfl, hrest⟩ := hsame.of_cons
      obtain ⟨body, hbody, hderives⟩ := ih hblocks
      refine ⟨.onSystems position _ body, ?_,
        .onSystems position (harguments.replace hrest) htags hderives⟩
      rw [Statement.unplaced, Statement.unplaced, hbody]
  | single hstatement ih =>
      obtain ⟨statement, hstatement, hderives⟩ := ih hsame
      refine ⟨[statement], ?_, .single hderives⟩
      rw [unplacedBody, hstatement]
      rfl
  | separated hstatement hgap hne htail ihstatement ihtail =>
      obtain ⟨_, tail, rfl, hsame, htails⟩ := hsame.of_append
      obtain ⟨head, gap, rfl, hheads, hgaps⟩ := hsame.of_append
      obtain ⟨statement, hstatement, hhead⟩ := ihstatement hheads
      obtain ⟨body, hbody, hderives⟩ := ihtail htails
      have hgapNe : gap ≠ [] := by
        rintro rfl
        exact hne (List.map_eq_nil_iff.mp hgaps.symm)
      refine ⟨statement :: body, ?_, .separated hhead (hgap.replace hgaps) hgapNe hderives⟩
      rw [unplacedBody, unplacedBody, hstatement, hbody]
  | emptyBody hgap =>
      exact ⟨[], rfl, .emptyBody (hgap.replace hsame)⟩
  | fullBody hbefore hbody hafter ih =>
      obtain ⟨_, after, rfl, hsame, hafters⟩ := hsame.of_append
      obtain ⟨before, list, rfl, hbefores, hlist⟩ := hsame.of_append
      obtain ⟨body, hbody, hderives⟩ := ih hlist
      exact ⟨body, hbody, .fullBody (hbefore.replace hbefores) hderives (hafter.replace hafters)⟩
  | doEnd opening closing hbody ih =>
      obtain ⟨_, closers, rfl, hsame, hclosers⟩ := hsame.of_append
      obtain ⟨opening, list, rfl, hlist⟩ := hsame.of_cons
      obtain ⟨closing, rest, rfl, hrest⟩ := hclosers.of_cons
      obtain ⟨body, hbody, hderives⟩ := ih hlist
      rw [hrest.of_nil]
      exact ⟨body, hbody, .doEnd opening closing hderives⟩
  | braces opening closing hbody ih =>
      obtain ⟨_, closers, rfl, hsame, hclosers⟩ := hsame.of_append
      obtain ⟨opening, list, rfl, hlist⟩ := hsame.of_cons
      obtain ⟨closing, rest, rfl, hrest⟩ := hclosers.of_cons
      obtain ⟨body, hbody, hderives⟩ := ih hlist
      rw [hrest.of_nil]
      exact ⟨body, hbody, .braces opening closing hderives⟩

theorem Declares.replace {variant : Variant} (h : Declares variant tokens)
    (hsame : SameTokens others tokens) :
    ∃ other : Variant, other.unplaced = variant.unplaced ∧ Declares other others := by
  cases h with
  | mk position harguments hblock =>
      obtain ⟨_, block, rfl, hsame, hblocks⟩ := hsame.of_append
      obtain ⟨position, rest, rfl, hrest⟩ := hsame.of_cons
      obtain ⟨body, hbody, hderives⟩ := hblock.replace hblocks
      refine ⟨⟨position, _, body⟩, ?_, .mk position (harguments.replace hrest) hderives⟩
      rw [Variant.unplaced, Variant.unplaced, hbody]

theorem Variants.replace {variants : List Variant} (h : Variants variants tokens)
    (hsame : SameTokens others tokens) :
    ∃ found, found.map Variant.unplaced = variants.map Variant.unplaced ∧
      Variants found others := by
  induction h generalizing others with
  | nil =>
      rw [hsame.of_nil]
      exact ⟨[], rfl, .nil⟩
  | cons hvariant hgap htail ih =>
      obtain ⟨_, tail, rfl, hsame, htails⟩ := hsame.of_append
      obtain ⟨head, gap, rfl, hheads, hgaps⟩ := hsame.of_append
      obtain ⟨variant, hplaced, hdeclares⟩ := hvariant.replace hheads
      obtain ⟨found, hfound, hvariants⟩ := ih htails
      refine ⟨variant :: found, ?_, .cons hdeclares (hgap.replace hgaps) hvariants⟩
      rw [List.map_cons, List.map_cons, hplaced, hfound]

theorem Spells.replace {document : Document} (h : Spells document tokens)
    (hsame : SameTokens others tokens) :
    ∃ found : Document, found.unplaced = document.unplaced ∧ Spells found others := by
  obtain ⟨before, rest, rfl, hbefore, hvariants⟩ := h
  obtain ⟨befores, rests, rfl, hbefores, hrests⟩ := hsame.of_append
  obtain ⟨found, hfound, hderived⟩ := hvariants.replace hrests
  exact ⟨⟨found⟩, congrArg Document.mk hfound, befores, rests, rfl, hbefore.replace hbefores,
    hderived⟩

end Grammar

/-! ## Writing token by token -/

section Writing

variable {token : Token} {tokens : List Token} {rest : List Char}

theorem Apart.of_next (first : List Char) (h : rest.head?.any isWordChar = false) :
    Apart first rest := by
  rintro last - next hnext ⟨-, hpart⟩
  rw [Option.mem_def.mp hnext, Option.any_some, isWordChar_iff.mpr hpart] at h
  cases h

theorem not_isWordPart_of_mem_marks {c : Char} (h : (c, token) ∈ marks) : ¬ IsWordPart c := by
  rw [IsWordPart, ← isWordChar_iff]
  simp only [marks, List.mem_cons, Prod.mk.injEq, List.not_mem_nil, or_false] at h
  obtain ⟨rfl, -⟩ | ⟨rfl, -⟩ | ⟨rfl, -⟩ | ⟨rfl, -⟩ | ⟨rfl, -⟩ | ⟨rfl, -⟩ | ⟨rfl, -⟩ := h <;>
    decide

theorem WritesAll.cons_mark {c : Char} (hmark : (c, token) ∈ marks) (h : WritesAll tokens rest) :
    WritesAll (token :: tokens) (c :: rest) := by
  refine @WritesAll.cons _ _ [] [c] _ .nil (.mark hmark) ?_ h
  rintro last ⟨⟩ next - ⟨hpart, -⟩
  exact not_isWordPart_of_mem_marks hmark hpart

theorem WritesAll.cons_word {name : String} (hname : isVariableName name = true)
    (hrest : rest.head?.any isWordChar = false) (h : WritesAll tokens rest) :
    WritesAll (.word name :: tokens) (name.toList ++ rest) :=
  @WritesAll.cons _ _ [] _ _ .nil (.word (isVariableName_iff.mp hname)) (.of_next _ hrest) h

end Writing

/-! ## Every document can be printed -/

/-- Tokens that can all be written down. -/
def AreWritable (tokens : List (Located Token)) : Prop :=
  ∀ token ∈ tokens, ∃ lexeme, Writes token.value lexeme

theorem areWritable_nil : AreWritable [] :=
  List.forall_mem_nil _

theorem areWritable_cons {token : Located Token} {tokens : List (Located Token)} :
    AreWritable (token :: tokens) ↔
      (∃ lexeme, Writes token.value lexeme) ∧ AreWritable tokens :=
  List.forall_mem_cons

theorem areWritable_append {first second : List (Located Token)} :
    AreWritable (first ++ second) ↔ AreWritable first ∧ AreWritable second :=
  List.forall_mem_append

theorem exists_writes_word {name : String} (h : isVariableName name = true) :
    ∃ lexeme, Writes (.word name) lexeme :=
  ⟨name.toList, .word (isVariableName_iff.mp h)⟩

theorem exists_values (value : String) (values : List String) :
    ∃ tokens, Grammar.Values (value :: values) tokens ∧ AreWritable tokens := by
  have hvalue (text : String) : ∃ lexeme, Writes (.string text) lexeme := ⟨_, .single text⟩
  induction values generalizing value with
  | nil =>
      exact ⟨_, .single (.string value .start),
        areWritable_cons.mpr ⟨hvalue value, areWritable_nil⟩⟩
  | cons next values ih =>
      obtain ⟨tokens, hvalues, hwritable⟩ := ih next
      refine ⟨_, .more .start (.string value .start) Grammar.newlines_nil hvalues, ?_⟩
      have hcomma : ∃ lexeme, Writes .comma lexeme := ⟨[','], .mark (by simp [marks])⟩
      exact areWritable_cons.mpr ⟨hvalue value, areWritable_cons.mpr ⟨hcomma, hwritable⟩⟩

theorem exists_arguments {values : List String} (h : values ≠ []) :
    ∃ tokens, Grammar.Arguments values tokens ∧ AreWritable tokens := by
  obtain ⟨value, values, rfl⟩ := List.exists_cons_of_ne_nil h
  obtain ⟨tokens, hvalues, hwritable⟩ := exists_values value values
  exact ⟨tokens, .bare hvalues, hwritable⟩

theorem exists_block {body : List Statement} {tokens : List (Located Token)}
    (h : Grammar.Derives (.body body) tokens) (hwritable : AreWritable tokens) :
    ∃ block, Grammar.Derives (.block body) block ∧ AreWritable block := by
  refine ⟨_, .doEnd .start .start h, ?_⟩
  exact areWritable_append.mpr
    ⟨areWritable_cons.mpr ⟨exists_writes_word (by decide), hwritable⟩,
      areWritable_cons.mpr ⟨exists_writes_word (by decide), areWritable_nil⟩⟩

mutual

theorem exists_derives_statement : (statement : Statement) → statement.IsTagged →
    ∃ tokens, Grammar.Derives (.statement statement) tokens ∧ AreWritable tokens
  | .setVariable position name value, _ => by
      obtain ⟨tokens, harguments, hwritable⟩ := exists_arguments (List.cons_ne_nil name [value])
      exact ⟨_, .setVariable position harguments,
        areWritable_cons.mpr ⟨exists_writes_word (by decide), hwritable⟩⟩
  | .setAlias position name expansion, _ => by
      obtain ⟨tokens, harguments, hwritable⟩ :=
        exists_arguments (List.cons_ne_nil name [expansion])
      exact ⟨_, .setAlias position "alias" (.inr rfl) harguments,
        areWritable_cons.mpr ⟨exists_writes_word (by decide), hwritable⟩⟩
  | .echo position text, _ => by
      obtain ⟨tokens, harguments, hwritable⟩ := exists_arguments (List.cons_ne_nil text [])
      exact ⟨_, .echo position harguments,
        areWritable_cons.mpr ⟨exists_writes_word (by decide), hwritable⟩⟩
  | .command position text, _ => by
      obtain ⟨tokens, harguments, hwritable⟩ := exists_arguments (List.cons_ne_nil text [])
      exact ⟨_, .command position harguments,
        areWritable_cons.mpr ⟨exists_writes_word (by decide), hwritable⟩⟩
  | .onSystems position tags body, htagged => by
      rw [Statement.IsTagged] at htagged
      obtain ⟨tokens, harguments, hwritable⟩ := exists_arguments htagged.1
      obtain ⟨inner, hbody, hinner⟩ := exists_derives_body body htagged.2
      obtain ⟨block, hblock, hblockWritable⟩ := exists_block hbody hinner
      refine ⟨_, .onSystems position harguments (List.length_pos_iff.mpr htagged.1) hblock, ?_⟩
      exact areWritable_append.mpr
        ⟨areWritable_cons.mpr ⟨exists_writes_word (by decide), hwritable⟩, hblockWritable⟩

theorem exists_derives_body : (body : List Statement) → BodyIsTagged body →
    ∃ tokens, Grammar.Derives (.body body) tokens ∧ AreWritable tokens
  | [], _ => ⟨[], .body_nil, areWritable_nil⟩
  | statement :: body, htagged => by
      rw [BodyIsTagged] at htagged
      obtain ⟨head, hstatement, hhead⟩ := exists_derives_statement statement htagged.1
      obtain ⟨tail, hbody, htail⟩ := exists_derives_body body htagged.2
      have hnext := @Grammar.Derives.body_separator _ ⟨.newline, .start⟩ _ rfl hbody
      refine ⟨_, .body_statement hstatement hnext (by simp [Token.isSeparator]), ?_⟩
      have hnewline : ∃ lexeme, Writes .newline lexeme := ⟨['\n'], .mark (by simp [marks])⟩
      exact areWritable_append.mpr ⟨hhead, areWritable_cons.mpr ⟨hnewline, htail⟩⟩

end

theorem exists_variants {variants : List Variant}
    (h : ∀ variant ∈ variants, BodyIsTagged variant.body) :
    ∃ tokens, Grammar.Variants variants tokens ∧ AreWritable tokens := by
  induction variants with
  | nil =>
      exact ⟨[], .nil, areWritable_nil⟩
  | cons variant variants ih =>
      obtain ⟨hvariant, hvariants⟩ := List.forall_mem_cons.mp h
      obtain ⟨tail, hderived, htail⟩ := ih hvariants
      obtain ⟨inner, hbody, hinner⟩ := exists_derives_body variant.body hvariant
      obtain ⟨block, hblock, hblockWritable⟩ := exists_block hbody hinner
      obtain ⟨arguments, harguments, hwritable⟩ :=
        exists_arguments (List.cons_ne_nil variant.name [])
      refine ⟨_, .cons (.mk variant.position harguments hblock) Grammar.separators_nil hderived,
        ?_⟩
      rw [List.append_nil]
      have hhead : AreWritable (⟨.word "configuration", variant.position⟩ :: arguments) :=
        areWritable_cons.mpr ⟨exists_writes_word (by decide), hwritable⟩
      exact areWritable_append.mpr ⟨areWritable_append.mpr ⟨hhead, hblockWritable⟩, htail⟩

theorem exists_writesAll {tokens : List (Located Token)} (h : AreWritable tokens) :
    ∃ text, WritesAll (tokens.map Located.value) text ∧ ∀ c ∈ text.head?, IsBlank c := by
  induction tokens with
  | nil =>
      exact ⟨[], .nil .nil, by simp⟩
  | cons token tokens ih =>
      obtain ⟨⟨lexeme, hlexeme⟩, htokens⟩ := areWritable_cons.mp h
      obtain ⟨rest, hrest, hblank⟩ := ih htokens
      have hgap : Gap [' '] (lexeme ++ rest) := .blank (.inl rfl) .nil
      refine ⟨_, .cons hgap hlexeme (.of_next lexeme ?_) hrest, ?_⟩
      · cases hhead : rest.head? with
        | none =>
            rfl
        | some next =>
            obtain rfl | rfl | rfl := hblank next hhead <;> rfl
      · rintro c ⟨⟩
        exact .inl rfl

theorem exists_prints {document : Document} (h : document.IsTagged) :
    ∃ text, Prints document text := by
  obtain ⟨tokens, hvariants, hwritable⟩ := exists_variants h
  obtain ⟨text, hwrites, _⟩ := exists_writesAll hwritable
  exact ⟨text, tokens, ⟨[], tokens, rfl, Grammar.separators_nil, hvariants⟩, hwrites⟩

/-! ## What is printed is read back -/

/-- The positions are all that a layout adds to a document. -/
theorem Prints.exists_parse {document : Document} {text : String}
    (h : Prints document text.toList) (origin : String) :
    ∃ parsed, Document.parse origin text = .ok parsed ∧ parsed.unplaced = document.unplaced := by
  obtain ⟨tokens, hspells, hwrites⟩ := h
  obtain ⟨pieces, last, hsplits, htokens⟩ := hwrites.splits
  have hlex := tokenize_eq_ok_iff.mpr ⟨pieces, last, hsplits, rfl⟩
  have hsame : SameTokens (locate [] pieces) tokens :=
    (map_value_locate [] pieces).trans htokens
  obtain ⟨parsed, hparsed, hspelled⟩ := hspells.replace hsame
  exact ⟨parsed, Grammar.parse_eq_ok_iff.mpr ⟨_, hlex, hspelled⟩, hparsed⟩

end Desktopfile

open Desktopfile

/-! ## What a document means does not depend on positions -/

/-- The same result up to the position of an error. -/
def SameOutcome {α : Type} (first second : Except SyntaxError α) : Prop :=
  first.mapError SyntaxError.cause = second.mapError SyntaxError.cause

namespace Environment

theorem sameOutcome_declareAll (platform : Platform) (variants : List Variant)
    (environment : Environment) :
    SameOutcome (declareAll platform environment variants)
      (declareAll platform environment (variants.map Variant.unplaced)) := by
  have hvariants : variants.map Variant.unplaced =
      variants.map (Variant.moved fun _ => .start) :=
    List.map_congr_left fun variant _ => variant.unplaced_eq_moved
  rw [hvariants, declareAll_moved]
  cases declareAll platform environment variants <;> rfl

/-- Documents that differ in positions alone mean the same. -/
theorem sameOutcome_ofDocument {first second : Document} (platform : Platform)
    (h : first.unplaced = second.unplaced) :
    SameOutcome (ofDocument platform first) (ofDocument platform second) := by
  have hvariants : first.variants.map Variant.unplaced = second.variants.map Variant.unplaced :=
    congrArg Document.variants h
  have hfirst := sameOutcome_declareAll platform first.variants .empty
  rw [hvariants] at hfirst
  exact hfirst.trans (sameOutcome_declareAll platform second.variants .empty).symm

theorem evaluate_mapError_cause {origin source : String} {document : Document}
    (h : Document.parse origin source = .ok document) (platform : Platform) :
    (evaluate platform origin source).mapError SourceError.cause =
      (ofDocument platform document).mapError SyntaxError.cause := by
  rw [evaluate, h]
  simp only
  cases ofDocument platform document <;> rfl

end Environment

/-- A document can be printed, and it is read back from each of its layouts.  So all its
layouts mean the same on every platform. -/
theorem layouts_read_back (document : Document) (htagged : document.IsTagged) (origin : String) :
    (∃ text : String, Prints document text.toList) ∧
      (∀ text : String, Prints document text.toList →
        ∃ parsed, Document.parse origin text = .ok parsed ∧
          parsed.unplaced = document.unplaced) ∧
      ∀ platform (first second : String),
        Prints document first.toList → Prints document second.toList →
          (Environment.evaluate platform origin first).mapError SourceError.cause =
            (Environment.evaluate platform origin second).mapError SourceError.cause := by
  refine ⟨?_, fun text htext => htext.exists_parse origin, ?_⟩
  · obtain ⟨text, htext⟩ := exists_prints htagged
    exact ⟨.ofList text, by rwa [String.toList_ofList]⟩
  · intro platform first second hfirst hsecond
    obtain ⟨parsed, hparsed, hunplaced⟩ := hfirst.exists_parse origin
    obtain ⟨other, hother, hothers⟩ := hsecond.exists_parse origin
    rw [Environment.evaluate_mapError_cause hparsed, Environment.evaluate_mapError_cause hother]
    exact Environment.sameOutcome_ofDocument platform (hunplaced.trans hothers.symm)

/-- Nothing stands between the words and the quotes, and a comment ends the text. -/
theorem layouts_read_back_dense :
    ∃ parsed,
      Document.parse "D" "configuration :v\x7bos\"it's \\#1\"\x7b\x7d\x7d# end" = .ok parsed ∧
        parsed.unplaced = ⟨[⟨.start, "v", [.onSystems .start ["it's #1"] []]⟩]⟩ := by
  have hsystems := Grammar.Derives.body_statement
    (.onSystems .start (.bare (.single (.string "it's #1" .start))) (by simp)
      (.braces .start .start .body_nil)) .body_nil (by simp)
  have hvariants := Grammar.Variants.cons
    (.mk .start (.bare (.single (.symbol "v" .start))) (.braces .start .start hsystems))
    Grammar.separators_nil .nil
  have hopen : ('\x7b', Token.openBrace) ∈ Lexical.marks := by simp [Lexical.marks]
  have hclose : ('\x7d', Token.closeBrace) ∈ Lexical.marks := by simp [Lexical.marks]
  have hv : VariableName "v" := isVariableName_iff.mp (by decide)
  have hend : WritesAll [] ['#', ' ', 'e', 'n', 'd'] := .nil (.comment (by decide) (by simp))
  have hblock := WritesAll.cons_mark hopen (.cons_mark hclose (.cons_mark hclose hend))
  have htags := @WritesAll.cons _ _ [] _ _ .nil (.double "it's #1") (.of_next _ rfl) hblock
  have hos := @WritesAll.cons_word _ _ "os" (by decide) rfl htags
  have hname := @WritesAll.cons _ _ [' '] _ _ (.blank (.inl rfl) .nil) (.symbol hv)
    (.of_next _ rfl) (.cons_mark hopen hos)
  have hword := @WritesAll.cons_word _ _ "configuration" (by decide) rfl hname
  have htagged : Document.IsTagged ⟨[⟨.start, "v", [.onSystems .start ["it's #1"] []]⟩]⟩ := by
    simp [Document.IsTagged, BodyIsTagged, Statement.IsTagged]
  exact (layouts_read_back _ htagged "D").2.1 _
    ⟨_, ⟨[], _, rfl, Grammar.separators_nil, hvariants⟩, hword⟩

end Workspaces
