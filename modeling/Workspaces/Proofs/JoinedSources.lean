import Workspaces.Proofs.MovedSources

/-!
# Sources one after the other

A source that is accepted ends where a line may end: no lexeme is cut there, no block is open,
and a comment goes no further.  So what follows on the next line is read as if it stood alone,
some lines further down, and its declarations are added to those that were there.
-/

namespace Workspaces

namespace Position

/-- A position in a source that begins on the line after a text. -/
def below (text : List Char) (position : Position) : Position :=
  ⟨position.line + 1 + text.count '\n', position.column⟩

theorem below_advance (text : List Char) (position : Position) (c : Char) :
    (position.advance c).below text = (position.below text).advance c := by
  rw [advance, advance]
  split
  · exact congrArg (Position.mk · 1) (Nat.add_right_comm (position.line + 1) 1 _)
  · rfl

/-- After a line end the columns begin again. -/
theorem reached_newline (text : List Char) : reached (text ++ ['\n']) = start.below text := by
  simp [reached, below, start]
  omega

end Position

namespace Desktopfile

/-! ## Tokens -/

namespace Lexical

variable {gap rest other text last : List Char} {token : Token} {pieces : List Piece}

/-- A gap is one in front of whatever a comment may end at. -/
theorem Gap.of_head (h : Gap gap rest) (hhead : ∀ c ∈ other.head?, c = '\n' ∨ c ∈ rest.head?) :
    Gap gap other := by
  induction h with
  | nil => exact .nil
  | blank hc _ ih => exact .blank hc (ih hhead)
  | comment htext hend => exact .comment htext fun c hc => (hhead c hc).elim id (hend c)

theorem head_append_newline (rest second : List Char) :
    ∀ c ∈ (rest ++ '\n' :: second).head?, c = '\n' ∨ c ∈ rest.head? := by
  intro c hc
  cases rest with
  | nil => exact .inl (Option.some.inj hc).symm
  | cons first rest => exact .inr hc

theorem IsWhole.append_newline (h : IsWhole token rest) (second : List Char) :
    IsWhole token (rest ++ '\n' :: second) := by
  have hnext (hrest : ∀ c ∈ rest.head?, ¬ IsWordPart c) :
      ∀ c ∈ (rest ++ '\n' :: second).head?, ¬ IsWordPart c := by
    intro c hc
    rcases head_append_newline rest second c hc with rfl | hc
    · rw [not_isWordPart_iff]
      decide
    · exact hrest c hc
  cases token with
  | word name => exact hnext h
  | symbol name => exact hnext h
  | _ => trivial

/-- The line after a text that can be split is read for itself. -/
theorem Splits.readTokens_line (h : Splits text pieces last) (before second : List Char) :
    readTokens (.reached before) (text ++ '\n' :: second) =
      (readTokens (.reached (before ++ text ++ ['\n'])) second).map fun later =>
        ⟨locate before pieces ++ ⟨.newline, .reached (before ++ text)⟩ :: later.tokens,
          later.stop⟩ := by
  induction h generalizing before with
  | @last gap hgap =>
      have hline := hgap.of_head (head_append_newline [] second)
      have hskip := hline.skipGap_append (by rintro c ⟨⟩; decide) (.reached before)
      rw [Position.after_reached] at hskip
      rw [List.nil_append] at hskip
      rw [readTokens_token hskip rfl]
      dsimp only
      rw [Position.advance_reached]
      rfl
  | @piece gap lexeme rest last token pieces hgap hlexeme hwhole hrest ih =>
      have hline : Gap gap (lexeme ++ (rest ++ '\n' :: second)) := by
        rw [← List.append_assoc]
        exact hgap.of_head (head_append_newline (lexeme ++ rest) second)
      have hskip := hline.skipGap_append (hlexeme.head_append _) (.reached before)
      obtain ⟨c, tail, rfl, _⟩ := hlexeme.head
      have htoken := hlexeme.readToken_append (hwhole.append_newline second)
        (.reached (before ++ gap))
      rw [Position.after_reached] at hskip htoken
      rw [List.append_assoc, List.append_assoc, readTokens_token hskip htoken]
      dsimp only
      rw [ih]
      simp only [locate, Piece.text, List.append_assoc]
      cases readTokens _ second <;> rfl

/-- A source on the line after one that is accepted has the tokens that it has alone. -/
theorem tokenize_line {first : String} {stream : TokenStream}
    (h : tokenize first = .ok stream) (second : String) :
    tokenize (first ++ "\n" ++ second) =
      movedResult (Position.below first.toList)
        (fun later =>
          ⟨stream.tokens ++
              ⟨.newline, stream.stop⟩ :: movedTokens (Position.below first.toList) later.tokens,
            later.stop.below first.toList⟩)
        (tokenize second) := by
  obtain ⟨pieces, last, hsplits, rfl⟩ := tokenize_eq_ok_iff.mp h
  have hline := hsplits.readTokens_line [] second.toList
  have htext : (first ++ "\n" ++ second).toList = first.toList ++ '\n' :: second.toList := by
    simp
  rw [List.nil_append, Position.reached_newline,
    readTokens_moved (Position.below_advance first.toList)] at hline
  rw [tokenize, tokenize, htext]
  refine hline.trans ?_
  cases readTokens .start second.toList <;> rfl

end Lexical

/-! ## Documents -/

/-- A source on the line after one that is accepted declares what it declares alone. -/
theorem ofSource_line {first : String} {document : Document}
    (h : Document.ofSource first = .ok document) (second : String) :
    Document.ofSource (first ++ "\n" ++ second) =
      movedResult (Position.below first.toList)
        (fun later =>
          ⟨document.variants ++ later.variants.map (Variant.moved (Position.below first.toList))⟩)
        (Document.ofSource second) := by
  cases hfirst : tokenize first with
  | error error =>
      rw [Document.ofSource, hfirst] at h
      cases h
  | ok stream =>
      rw [Document.ofSource, hfirst] at h
      have hspells := Grammar.ofTokens_eq_ok_iff.mp h
      rw [Document.ofSource, Document.ofSource, Lexical.tokenize_line hfirst second]
      cases tokenize second with
      | error error => rfl
      | ok later =>
          have hseparator : Grammar.Separators [⟨.newline, stream.stop⟩] :=
            Grammar.separators_cons.mpr ⟨rfl, Grammar.separators_nil⟩
          have hnext (stop : Position) (rest : List (Located Token)) :
              readVariants stop (⟨.newline, stream.stop⟩ :: rest) = readVariants stop rest :=
            Grammar.readVariants_separators hseparator
          simp only [movedResult_ok, Document.ofTokens, hspells.readVariants_append, hnext,
            readVariants_moved]
          cases readVariants later.stop later.tokens <;> rfl

end Desktopfile

open Desktopfile

namespace Environment

variable {platform : Platform}

theorem declareAll_append (environment : Environment) (first second : List Variant) :
    declareAll platform environment (first ++ second) =
      (declareAll platform environment first).bind fun next =>
        declareAll platform next second := by
  induction first generalizing environment with
  | nil => rfl
  | cons variant first ih =>
      rw [List.cons_append, declareAll_cons, declareAll_cons]
      cases Configuration.ofBody platform variant.body with
      | error error => rfl
      | ok configuration => exact ih (environment.insert variant.name configuration)

/-- What is declared counts before what was there. -/
theorem get?_foldl_declare (variants : List Variant) (environment : Environment) (name : String) :
    (variants.foldl (declare platform) environment).get? name =
      ((variants.foldl (declare platform) .empty).get? name).or (environment.get? name) := by
  induction variants generalizing environment with
  | nil => rfl
  | cons variant variants ih =>
      have hdeclare : (declare platform environment variant).get? name =
          ((declare platform .empty variant).get? name).or (environment.get? name) := by
        rw [declare, declare, Table.get?_insert, Table.get?_insert]
        split <;> rfl
      rw [List.foldl_cons, List.foldl_cons, ih, ih (declare platform .empty variant), hdeclare,
        Option.or_assoc]

/-- Declarations fail alike in every environment, and their names alone hide what was there. -/
theorem declareAll_onto (environment : Environment) (variants : List Variant) :
    (∃ error, declareAll platform .empty variants = .error error ∧
        declareAll platform environment variants = .error error) ∨
      ∃ later joined, declareAll platform .empty variants = .ok later ∧
        declareAll platform environment variants = .ok joined ∧
        ∀ name, joined.get? name = (later.get? name).or (environment.get? name) := by
  rw [declareAll_eq, declareAll_eq]
  cases firstComplaint? platform variants with
  | some error => exact .inl ⟨error, rfl, rfl⟩
  | none => exact .inr ⟨_, _, rfl, rfl, get?_foldl_declare variants environment⟩

/-- The environment of a source that has no name. -/
def ofSource (platform : Platform) (source : String) : Except SyntaxError Environment :=
  (Document.ofSource source).bind (ofDocument platform)

theorem evaluate_eq_ofSource (platform : Platform) (origin source : String) :
    evaluate platform origin source = (ofSource platform source).mapError (·.inSource origin) := by
  rw [evaluate, Document.parse, ofSource]
  cases Document.ofSource source with
  | error error => rfl
  | ok document =>
      simp only [Except.bind]
      cases ofDocument platform document <;> rfl

/-- What follows on the next line fails as it does alone, or adds to what was declared. -/
theorem ofSource_line {first : String} {environment : Environment}
    (h : ofSource platform first = .ok environment) (second : String) :
    (∃ error, ofSource platform second = .error error ∧
        ofSource platform (first ++ "\n" ++ second) =
          .error (error.moved (Position.below first.toList))) ∨
      ∃ later joined, ofSource platform second = .ok later ∧
        ofSource platform (first ++ "\n" ++ second) = .ok joined ∧
        ∀ name, joined.get? name = (later.get? name).or (environment.get? name) := by
  cases hfirst : Document.ofSource first with
  | error error =>
      rw [ofSource, hfirst] at h
      cases h
  | ok document =>
      rw [ofSource, hfirst] at h
      have hdeclared : declareAll platform .empty document.variants = .ok environment := h
      rw [ofSource, ofSource, Desktopfile.ofSource_line hfirst]
      cases Document.ofSource second with
      | error error => exact .inl ⟨error, rfl, rfl⟩
      | ok next =>
          simp only [movedResult_ok, Except.bind, ofDocument, declareAll_append, hdeclared,
            declareAll_moved]
          rcases @declareAll_onto platform environment next.variants with
            ⟨error, halone, honto⟩ | ⟨later, joined, halone, honto, hnames⟩
          · rw [halone, honto]
            exact .inl ⟨error, rfl, rfl⟩
          · rw [halone, honto]
            exact .inr ⟨later, joined, rfl, rfl, hnames⟩

/-- A source on the line after one that is evaluated is evaluated as it is alone.  If it fails,
its error is the same, as many lines further down as there are above it; if not, each of its
names has the configuration that it gives to it, and all other names keep theirs. -/
theorem evaluate_line {platform : Platform} {origin first : String} {environment : Environment}
    (h : evaluate platform origin first = .ok environment) (second : String) :
    (∀ later, evaluate platform origin second = .ok later →
      ∃ joined, evaluate platform origin (first ++ "\n" ++ second) = .ok joined ∧
        ∀ name, joined.get? name = (later.get? name).or (environment.get? name)) ∧
      ∀ error, evaluate platform origin second = .error error →
        evaluate platform origin (first ++ "\n" ++ second) =
          .error { error with
            position := ⟨error.position.line + 1 + first.toList.count '\n',
              error.position.column⟩ } := by
  have hfirst : ofSource platform first = .ok environment := by
    rw [evaluate_eq_ofSource] at h
    cases hread : ofSource platform first with
    | error error =>
        rw [hread] at h
        cases h
    | ok found =>
        rw [hread] at h
        cases h
        rfl
  rw [evaluate_eq_ofSource, evaluate_eq_ofSource]
  rcases ofSource_line hfirst second with
    ⟨error, halone, hline⟩ | ⟨later, joined, halone, hline, hnames⟩
  · rw [halone, hline]
    constructor
    · rintro later ⟨⟩
    · rintro _ ⟨⟩
      rfl
  · rw [halone, hline]
    constructor
    · rintro _ ⟨⟩
      exact ⟨joined, rfl, hnames⟩
    · rintro error ⟨⟩

/-- A source that ends in a comment with a quote in it. -/
def commented : String := "configuration :v do cmd 'a' end # it's"

theorem evaluate_commented : ∃ environment, evaluate .linux "D" commented = .ok environment ∧
    environment.get? "v" = some ⟨.empty, .empty, ["a"]⟩ := by
  have htokens : tokenize commented =
      .ok ⟨[⟨.word "configuration", ⟨1, 1⟩⟩, ⟨.symbol "v", ⟨1, 15⟩⟩, ⟨.word "do", ⟨1, 18⟩⟩,
        ⟨.word "cmd", ⟨1, 21⟩⟩, ⟨.string "a", ⟨1, 25⟩⟩, ⟨.word "end", ⟨1, 29⟩⟩], ⟨1, 39⟩⟩ := by
    cbv
  have hbody := Grammar.Derives.body_statement
    (.command ⟨1, 21⟩ (.bare (.single (.string "a" ⟨1, 25⟩)))) .body_nil (by simp)
  have hvariants := Grammar.Variants.cons
    (.mk ⟨1, 1⟩ (.bare (.single (.symbol "v" ⟨1, 15⟩))) (.doEnd ⟨1, 18⟩ ⟨1, 29⟩ hbody))
    Grammar.separators_nil .nil
  have hparse : Document.parse "D" commented =
      .ok ⟨[⟨⟨1, 1⟩, "v", [.command ⟨1, 21⟩ "a"]⟩]⟩ :=
    Grammar.parse_eq_ok_iff.mpr ⟨_, htokens, [], _, rfl, Grammar.separators_nil, hvariants⟩
  exact ⟨_, evaluate_eq hparse .linux, rfl⟩

/-- Neither the comment nor the quote goes on into the next line. -/
theorem evaluate_line_commented :
    evaluate .linux "D" (commented ++ "\n" ++ "  7") =
        .error ⟨"D", ⟨2, 3⟩, .unexpectedCharacter '7'⟩ ∧
      ∃ joined, evaluate .linux "D" (commented ++ "\n" ++ commented) = .ok joined ∧
        joined.get? "v" = some ⟨.empty, .empty, ["a"]⟩ := by
  obtain ⟨environment, hcommented, hvariant⟩ := evaluate_commented
  constructor
  · have hlex : tokenize "  7" = .error ⟨⟨1, 3⟩, .unexpectedCharacter '7'⟩ := by
      cbv
    have hfails : evaluate .linux "D" "  7" = .error ⟨"D", ⟨1, 3⟩, .unexpectedCharacter '7'⟩ := by
      rw [evaluate, Document.parse, Document.ofSource, hlex]
      rfl
    exact (evaluate_line hcommented "  7").2 _ hfails
  · obtain ⟨joined, hjoined, hnames⟩ := (evaluate_line hcommented commented).1 _ hcommented
    refine ⟨joined, hjoined, ?_⟩
    rw [hnames, hvariant]
    rfl

end Environment

end Workspaces
