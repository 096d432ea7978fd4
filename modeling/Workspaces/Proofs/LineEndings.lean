import Workspaces.Proofs.JoinedSources
import Workspaces.Proofs.Layouts

/-!
# Line endings

A line of a source may end with a carriage return and a newline instead of a newline
alone.  The carriage return goes to the gap in front of the newline, as a blank or as the
end of a comment, so all other pieces of the source stay as they are.  A carriage return
takes a column, but the newline after it begins the columns anew, so all positions but
those of newlines stay too.  A document is its tree and the positions in it, hence it
does not change, as long as no literal goes on to another line.
-/

namespace Workspaces

/-- A text with a carriage return in front of every newline. -/
def returned (text : List Char) : List Char :=
  text.flatMap fun c => if c = '\n' then ['\r', '\n'] else [c]

def withReturns (source : String) : String := .ofList (returned source.toList)

theorem returned_append (first second : List Char) :
    returned (first ++ second) = returned first ++ returned second :=
  List.flatMap_append

theorem returned_of_not_mem {text : List Char} (h : '\n' ∉ text) : returned text = text := by
  induction text with
  | nil =>
      rfl
  | cons c text ih =>
      rw [List.mem_cons, not_or] at h
      rw [← List.singleton_append, returned_append, ih h.2]
      simp [returned, Ne.symm h.1]

theorem head_returned (text : List Char) :
    ∀ c ∈ (returned text).head?, c = '\r' ∨ c ∈ text.head? := by
  cases text with
  | nil =>
      simp [returned]
  | cons first text =>
      by_cases hfirst : first = '\n'
      · simp [returned, hfirst]
      · simp [returned, hfirst]

namespace Position

theorem reached_congr {before other : List Char} (h : reached other = reached before)
    (text : List Char) : reached (other ++ text) = reached (before ++ text) := by
  rw [← after_reached, ← after_reached, h]

theorem reached_return_newline (before : List Char) :
    reached (before ++ ['\r'] ++ ['\n']) = reached (before ++ ['\n']) := by
  rw [← advance_reached, ← advance_reached, ← advance_reached]
  rfl

end Position

namespace Desktopfile

namespace Lexical

variable {gap lexeme rest text last : List Char} {token : Token} {pieces : List Piece}

/-! ## Pieces -/

theorem Gap.not_mem_newline (h : Gap gap rest) : '\n' ∉ gap := by
  induction h with
  | nil =>
      exact List.not_mem_nil
  | blank hblank hgap ih =>
      rw [List.mem_cons, not_or]
      refine ⟨?_, ih⟩
      rintro rfl
      simp [IsBlank] at hblank
  | comment htext hrest =>
      rw [List.mem_cons, not_or]
      exact ⟨by decide, htext⟩

theorem Gap.append_return (h : Gap gap ('\n' :: rest)) (other : List Char) :
    Gap (gap ++ ['\r']) ('\n' :: other) := by
  generalize hline : '\n' :: rest = line at h
  induction h with
  | nil =>
      exact .blank (.inr (.inr rfl)) .nil
  | blank hblank hgap ih =>
      exact .blank hblank (ih hline)
  | @comment text rest htext hrest =>
      have hreturn : '\n' ∉ text ++ ['\r'] := by
        rw [List.mem_append, not_or]
        exact ⟨htext, by decide⟩
      exact .comment hreturn (by simp)

theorem Lexeme.eq_newline (h : Lexeme lexeme .newline) : lexeme = ['\n'] := by
  cases h with
  | mark hmark =>
      simp [marks] at hmark
      rw [hmark]

theorem Lexeme.not_mem_newline (h : Lexeme lexeme token) (hline : token ≠ .newline)
    (hplain : ∀ value, token = .string value → '\n' ∉ lexeme) : '\n' ∉ lexeme := by
  have hname {name : String} (hvariable : VariableName name) : '\n' ∉ name.toList := by
    intro hmem
    obtain ⟨first, others, hword, _, hchars⟩ := exists_toList_of_variableName hvariable
    exact absurd (hchars '\n' hmem) (by decide)
  cases h with
  | mark hmark =>
      rw [List.mem_singleton]
      rintro rfl
      simp [marks] at hmark
      exact hline hmark
  | word hword =>
      exact hname hword
  | symbol hword =>
      rw [List.mem_cons, not_or]
      exact ⟨by decide, hname hword⟩
  | single htext =>
      exact hplain _ rfl
  | double htext =>
      exact hplain _ rfl

theorem isWhole_returned (h : IsWhole token rest) : IsWhole token (returned rest) := by
  have hhead (hrest : ∀ c ∈ rest.head?, ¬ IsWordPart c) :
      ∀ c ∈ (returned rest).head?, ¬ IsWordPart c := by
    intro c hc
    rcases head_returned rest c hc with rfl | hc
    · rw [IsWordPart, ← isWordChar_iff]
      decide
    · exact hrest c hc
  cases token with
  | word _ =>
      exact hhead h
  | symbol _ =>
      exact hhead h
  | _ =>
      trivial

/-- The gap in front of a newline takes the carriage return. -/
def Piece.returned (piece : Piece) : Piece :=
  if piece.token = .newline then { piece with gap := piece.gap ++ ['\r'] } else piece

theorem Piece.token_returned (piece : Piece) : piece.returned.token = piece.token := by
  unfold Piece.returned
  split <;> rfl

/-- No literal goes on to another line. -/
def ArePlain (pieces : List Piece) : Prop :=
  ∀ piece ∈ pieces, ∀ value, piece.token = .string value → '\n' ∉ piece.lexeme

theorem splits_returned (h : Splits text pieces last) (hplain : ArePlain pieces) :
    Splits (returned text) (pieces.map Piece.returned) last := by
  induction h with
  | @last gap hgap =>
      rw [returned_of_not_mem hgap.not_mem_newline]
      exact .last hgap
  | @piece gap lexeme rest last token pieces hgap hlexeme hwhole hsplits ih =>
      obtain ⟨hliteral, hliterals⟩ := List.forall_mem_cons.mp hplain
      have hrest := ih hliterals
      rw [returned_append, returned_append, returned_of_not_mem hgap.not_mem_newline,
        List.map_cons]
      by_cases htoken : token = .newline
      · subst htoken
        obtain rfl := hlexeme.eq_newline
        have hpiece := Splits.piece (hgap.append_return (returned rest)) hlexeme
          trivial hrest
        simpa [Piece.returned, returned] using hpiece
      · have hkept := hlexeme.not_mem_newline htoken hliteral
        obtain ⟨c, tail, rfl, _, _⟩ := hlexeme.head
        rw [returned_of_not_mem hkept, Piece.returned, if_neg htoken]
        exact .piece (hgap.of_head fun _ hc => .inr hc) hlexeme (isWhole_returned hwhole) hrest

theorem Splits.lexeme_of_mem (h : Splits text pieces last) :
    ∀ piece ∈ pieces, Lexeme piece.lexeme piece.token := by
  induction h with
  | last hgap =>
      exact List.forall_mem_nil _
  | piece hgap hlexeme hwhole hsplits ih =>
      exact List.forall_mem_cons.mpr ⟨hlexeme, ih⟩

/-! ## Literals -/

theorem SingleQuoted.mem_newline {value : List Char} (h : SingleQuoted text value)
    (hline : '\n' ∈ text) : '\n' ∈ value := by
  induction h with
  | close =>
      simp at hline
  | escape hc htext ih =>
      simp only [List.mem_cons, Char.reduceEq, false_or] at hline
      exact List.mem_cons.mpr (hline.imp id ih)
  | kept hquote hescape htext ih =>
      simp only [List.mem_cons, Char.reduceEq, false_or] at hline
      exact List.mem_cons_of_mem _ (ih hline)
  | plain hquote hescape htext ih =>
      exact List.mem_cons.mpr ((List.mem_cons.mp hline).imp id ih)

theorem Escaped.mem_newline {meaning : List Char} (h : Escaped '\n' meaning) :
    '\n' ∈ meaning := by
  cases h with
  | known hknown =>
      simp [escapes] at hknown
  | kept hkept =>
      simp

theorem DoubleQuoted.mem_newline {value : List Char} (h : DoubleQuoted text value)
    (hline : '\n' ∈ text) : '\n' ∈ value := by
  induction h with
  | close =>
      simp at hline
  | escape hescaped htext ih =>
      simp only [List.mem_cons, Char.reduceEq, false_or] at hline
      rw [List.mem_append]
      rcases hline with rfl | hline
      · exact .inl hescaped.mem_newline
      · exact .inr (ih hline)
  | plain hquote hescape hinterpolation htext ih =>
      exact List.mem_cons.mpr ((List.mem_cons.mp hline).imp id ih)

/-- A literal that goes on to another line says a newline. -/
theorem Lexeme.mem_newline {value : String} (h : Lexeme lexeme (.string value))
    (hline : '\n' ∈ lexeme) : '\n' ∈ value.toList := by
  cases h with
  | mark hmark =>
      simp [marks] at hmark
  | single htext =>
      simp only [List.mem_cons, Char.reduceEq, false_or] at hline
      exact htext.mem_newline hline
  | double htext =>
      simp only [List.mem_cons, Char.reduceEq, false_or] at hline
      exact htext.mem_newline hline

/-! ## Positions -/

theorem sameTokens_returned (before other : List Char) (pieces : List Piece) :
    SameTokens (locate other (pieces.map Piece.returned)) (locate before pieces) := by
  rw [SameTokens, map_value_locate, map_value_locate, List.map_map]
  exact List.map_congr_left fun piece _ => piece.token_returned

theorem keywordPositions_returned (h : ∀ piece ∈ pieces, Lexeme piece.lexeme piece.token)
    {before other : List Char} (hreached : Position.reached other = .reached before) :
    keywordPositions (locate other (pieces.map Piece.returned)) =
      keywordPositions (locate before pieces) := by
  induction pieces generalizing before other with
  | nil =>
      rfl
  | cons piece pieces ih =>
      obtain ⟨gap, lexeme, token⟩ := piece
      obtain ⟨hlexeme, hlexemes⟩ := List.forall_mem_cons.mp h
      rw [List.map_cons, locate, locate]
      by_cases htoken : token = .newline
      · subst htoken
        obtain rfl := hlexeme.eq_newline
        have hkeyword : ¬ Token.newline.IsKeyword := by decide
        rw [Grammar.keywordPositions_cons_of_not_isKeyword hkeyword,
          Grammar.keywordPositions_cons_of_not_isKeyword hkeyword]
        apply ih hlexemes
        have hline := Position.reached_congr (Position.reached_congr hreached gap) ['\n']
        simpa [Piece.returned, Piece.text] using
          (Position.reached_return_newline (other ++ gap)).trans hline
      · have hkept : Piece.returned ⟨gap, lexeme, token⟩ = ⟨gap, lexeme, token⟩ :=
          if_neg htoken
        rw [hkept, Position.reached_congr hreached,
          ← List.singleton_append, Grammar.keywordPositions_append,
          ih hlexemes (Position.reached_congr hreached _), ← Grammar.keywordPositions_append]
        rfl

end Lexical

/-! ## Documents with their positions -/

mutual

theorem Statement.length_positions_unplaced : (statement : Statement) →
    statement.unplaced.positions.length = statement.positions.length
  | .setVariable _ _ _ => rfl
  | .setAlias _ _ _ => rfl
  | .echo _ _ => rfl
  | .command _ _ => rfl
  | .onSystems _ _ body => congrArg Nat.succ (length_bodyPositions_unplacedBody body)

theorem length_bodyPositions_unplacedBody : (body : List Statement) →
    (bodyPositions (unplacedBody body)).length = (bodyPositions body).length
  | [] => rfl
  | statement :: body => by
      rw [unplacedBody, bodyPositions, bodyPositions, List.length_append, List.length_append,
        statement.length_positions_unplaced, length_bodyPositions_unplacedBody body]

end

theorem length_positions_eq {first second : Statement} (h : first.unplaced = second.unplaced) :
    first.positions.length = second.positions.length := by
  rw [← first.length_positions_unplaced, h, second.length_positions_unplaced]

theorem length_bodyPositions_eq {first second : List Statement}
    (h : unplacedBody first = unplacedBody second) :
    (bodyPositions first).length = (bodyPositions second).length := by
  rw [← length_bodyPositions_unplacedBody first, h, length_bodyPositions_unplacedBody second]

mutual

/-- The tree of a statement and the positions in it are all there is of it. -/
theorem Statement.eq_of_unplaced : (first second : Statement) →
    first.unplaced = second.unplaced → first.positions = second.positions → first = second
  | .setVariable _ _ _, second, htree, hpositions => by
      cases second <;> simp_all [Statement.unplaced, Statement.positions]
  | .setAlias _ _ _, second, htree, hpositions => by
      cases second <;> simp_all [Statement.unplaced, Statement.positions]
  | .echo _ _, second, htree, hpositions => by
      cases second <;> simp_all [Statement.unplaced, Statement.positions]
  | .command _ _, second, htree, hpositions => by
      cases second <;> simp_all [Statement.unplaced, Statement.positions]
  | .onSystems _ _ body, second, htree, hpositions => by
      cases second with
      | onSystems position tags others =>
          simp only [Statement.unplaced, Statement.onSystems.injEq] at htree
          simp only [Statement.positions, List.cons.injEq] at hpositions
          rw [hpositions.1, htree.2.1, body_eq_of_unplaced body others htree.2.2 hpositions.2]
      | _ =>
          simp [Statement.unplaced] at htree

theorem body_eq_of_unplaced : (first second : List Statement) →
    unplacedBody first = unplacedBody second → bodyPositions first = bodyPositions second →
      first = second
  | [], second, htree, _ => by
      cases second with
      | nil =>
          rfl
      | cons _ _ =>
          simp [unplacedBody] at htree
  | statement :: first, second, htree, hpositions => by
      cases second with
      | nil =>
          simp [unplacedBody] at htree
      | cons other second =>
          simp only [unplacedBody, List.cons.injEq] at htree
          obtain ⟨hstatement, hbody⟩ :=
            List.append_inj hpositions (length_positions_eq htree.1)
          rw [statement.eq_of_unplaced other htree.1 hstatement,
            body_eq_of_unplaced first second htree.2 hbody]

end

theorem variants_eq_of_unplaced {first second : List Variant}
    (htree : first.map Variant.unplaced = second.map Variant.unplaced)
    (hpositions : first.flatMap Variant.positions = second.flatMap Variant.positions) :
    first = second := by
  induction first generalizing second with
  | nil =>
      exact (List.map_eq_nil_iff.mp htree.symm).symm
  | cons variant first ih =>
      cases second with
      | nil =>
          cases htree
      | cons other second =>
          obtain ⟨position, name, body⟩ := variant
          obtain ⟨position', name', body'⟩ := other
          simp only [List.map_cons, List.cons.injEq, Variant.unplaced, Variant.mk.injEq,
            true_and] at htree
          obtain ⟨⟨rfl, hbody⟩, hrest⟩ := htree
          simp only [List.flatMap_cons, Variant.positions, List.cons_append,
            List.cons.injEq] at hpositions
          obtain ⟨rfl, hpositions⟩ := hpositions
          obtain ⟨hbodyPositions, hrestPositions⟩ :=
            List.append_inj hpositions (length_bodyPositions_eq hbody)
          rw [body_eq_of_unplaced body body' hbody hbodyPositions, ih hrest hrestPositions]

theorem Document.eq_of_unplaced {first second : Document}
    (htree : first.unplaced = second.unplaced) (hpositions : first.positions = second.positions) :
    first = second := by
  obtain ⟨first⟩ := first
  obtain ⟨second⟩ := second
  exact congrArg Document.mk (variants_eq_of_unplaced (congrArg Document.variants htree) hpositions)

end Desktopfile

open Desktopfile Lexical

/-! ## Sources -/

/-- No literal of a source goes on to another line.  A source splits in one way only. -/
def HasPlainLiterals (source : String) : Prop :=
  ∃ pieces last, Splits source.toList pieces last ∧ ArePlain pieces

theorem hasPlainLiterals_of_values {source : String} {stream : TokenStream}
    (h : tokenize source = .ok stream)
    (hvalues : ∀ token ∈ stream.tokens.map Located.value, ∀ value,
      token = .string value → '\n' ∉ value.toList) : HasPlainLiterals source := by
  obtain ⟨pieces, last, hsplits, rfl⟩ := tokenize_eq_ok_iff.mp h
  rw [map_value_locate, List.forall_mem_map] at hvalues
  refine ⟨pieces, last, hsplits, fun piece hpiece value hvalue hline => ?_⟩
  have hlexeme := hsplits.lexeme_of_mem piece hpiece
  rw [hvalue] at hlexeme
  exact hvalues piece hpiece value hvalue (hlexeme.mem_newline hline)

/-- A carriage return in front of every newline changes neither the document that a source
is read as nor a position in it, if no literal goes on to another line.  So it means the
same on every platform, and an error in it is at the same place. -/
theorem withReturns_reads_same {origin source : String} {document : Document}
    (hparse : Document.parse origin source = .ok document) (hplain : HasPlainLiterals source) :
    Document.parse origin (withReturns source) = .ok document ∧
      ∀ platform, Environment.evaluate platform origin (withReturns source) =
        Environment.evaluate platform origin source := by
  have hreturned : Document.parse origin (withReturns source) = .ok document := by
    obtain ⟨pieces, last, hsplits, hliterals⟩ := hplain
    obtain ⟨stream, hstream, hspells⟩ := Grammar.parse_eq_ok_iff.mp hparse
    rw [tokenize_eq_ok_iff.mpr ⟨pieces, last, hsplits, rfl⟩] at hstream
    cases hstream
    have htext : (withReturns source).toList = returned source.toList :=
      String.toList_ofList
    have hlex := tokenize_eq_ok_iff.mpr
      ⟨_, last, htext ▸ splits_returned hsplits hliterals, rfl⟩
    obtain ⟨found, htree, hfound⟩ := hspells.replace (sameTokens_returned [] [] pieces)
    have hpositions : found.positions = document.positions := by
      rw [hfound.positions_eq, hspells.positions_eq]
      exact keywordPositions_returned hsplits.lexeme_of_mem rfl
    rw [← Document.eq_of_unplaced htree hpositions]
    exact Grammar.parse_eq_ok_iff.mpr ⟨_, hlex, hfound⟩
  refine ⟨hreturned, fun platform => ?_⟩
  rw [Environment.evaluate, Environment.evaluate, hreturned, hparse]

/-- The comment takes the carriage return, and the statement stays where it is. -/
theorem withReturns_reads_same_commented :
    Document.parse "D" "configuration 'v'\x7b# a\r\necho 'b'\x7d" =
      .ok ⟨[⟨⟨1, 1⟩, "v", [.echo ⟨2, 1⟩ "b"]⟩]⟩ := by
  have htokens : tokenize "configuration 'v'\x7b# a\necho 'b'\x7d" =
      .ok ⟨[⟨.word "configuration", ⟨1, 1⟩⟩, ⟨.string "v", ⟨1, 15⟩⟩, ⟨.openBrace, ⟨1, 18⟩⟩,
        ⟨.newline, ⟨1, 22⟩⟩, ⟨.word "echo", ⟨2, 1⟩⟩, ⟨.string "b", ⟨2, 6⟩⟩,
        ⟨.closeBrace, ⟨2, 9⟩⟩], ⟨2, 10⟩⟩ := by
    cbv
  have hecho := Grammar.Derives.body_statement
    (.echo ⟨2, 1⟩ (.bare (.single (.string "b" ⟨2, 6⟩)))) .body_nil (by simp)
  have hbody := @Grammar.Derives.body_separator _ ⟨.newline, ⟨1, 22⟩⟩ _ rfl hecho
  have hvariants := Grammar.Variants.cons
    (.mk ⟨1, 1⟩ (.bare (.single (.string "v" ⟨1, 15⟩))) (.braces ⟨1, 18⟩ ⟨2, 9⟩ hbody))
    Grammar.separators_nil .nil
  have hparse := (@Grammar.parse_eq_ok_iff "D" _ _).mpr
    ⟨_, htokens, [], _, rfl, Grammar.separators_nil, hvariants⟩
  have hplain := hasPlainLiterals_of_values htokens (by simp)
  have hreads := (withReturns_reads_same hparse hplain).1
  have hsource : withReturns "configuration 'v'\x7b# a\necho 'b'\x7d" =
      "configuration 'v'\x7b# a\r\necho 'b'\x7d" := by
    decide
  exact hsource ▸ hreads

end Workspaces
