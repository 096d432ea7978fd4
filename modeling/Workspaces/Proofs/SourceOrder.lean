import Workspaces.Proofs.Recognition

/-!
# Source order

Positions grow along a source: a later token stands at a later position.  A
document lists its variants and statements in the order of their keywords, so
the order of statements in a document is the order in which they are written.
-/

namespace Workspaces

namespace Position

def Precedes (first second : Position) : Prop :=
  first.line < second.line ∨ first.line = second.line ∧ first.column < second.column

theorem Precedes.trans {first second third : Position} (h : first.Precedes second)
    (h' : second.Precedes third) : first.Precedes third := by
  unfold Precedes at *
  omega

theorem precedes_advance (position : Position) (c : Char) :
    position.Precedes (position.advance c) := by
  unfold Precedes advance
  split
  · exact .inl (Nat.lt_succ_self _)
  · exact .inr ⟨rfl, Nat.lt_succ_self _⟩

def AtOrBefore (first second : Position) : Prop :=
  first = second ∨ first.Precedes second

theorem AtOrBefore.refl (position : Position) : position.AtOrBefore position :=
  .inl rfl

theorem Precedes.atOrBefore {first second : Position} (h : first.Precedes second) :
    first.AtOrBefore second :=
  .inr h

theorem AtOrBefore.precedes_of_precedes {first second third : Position}
    (h : first.AtOrBefore second) (h' : second.Precedes third) : first.Precedes third := by
  rcases h with rfl | h
  · exact h'
  · exact h.trans h'

theorem Precedes.trans_atOrBefore {first second third : Position}
    (h : first.Precedes second) (h' : second.AtOrBefore third) : first.Precedes third := by
  rcases h' with rfl | h'
  · exact h
  · exact h.trans h'

theorem AtOrBefore.of_advance {first last : Position} {c : Char}
    (h : (first.advance c).AtOrBefore last) : first.AtOrBefore last :=
  ((precedes_advance first c).trans_atOrBefore h).atOrBefore

end Position

namespace Desktopfile

open Position

/-! ## Every reader moves forward -/

theorem atOrBefore_skipGap (inComment : Bool) (position : Position) (text : List Char) :
    position.AtOrBefore (skipGap inComment position text).position := by
  fun_induction skipGap inComment position text with
  | case1 inComment position =>
      exact .refl position
  | case2 position rest =>
      exact .refl position
  | case3 position c rest hc ih =>
      exact ih.of_advance
  | case4 inComment position c rest hcomment hgap ih =>
      exact ih.of_advance
  | case5 position rest =>
      exact AtOrBefore.of_advance ‹_›
  | case6 =>
      exact .refl _

theorem atOrBefore_readWord (position : Position) (text : List Char) :
    position.AtOrBefore (readWord position text).2.position := by
  fun_induction readWord position text with
  | case1 position =>
      exact .refl position
  | case2 position c rest hword word cursor hread ih =>
      rw [hread] at ih
      exact ih.of_advance
  | case3 position c rest hword =>
      exact .refl position

theorem atOrBefore_readSingleQuoted {position : Position} {text value : List Char}
    {cursor : Cursor} (h : readSingleQuoted position text = some (value, cursor)) :
    position.AtOrBefore cursor.position := by
  fun_induction readSingleQuoted position text generalizing value cursor with
  | case1 =>
      cases h
  | case2 position rest =>
      cases h
      exact (precedes_advance position '\'').atOrBefore
  | case3 position rest ih =>
      obtain ⟨⟨text, last⟩, hread, heq⟩ := Option.map_eq_some_iff.mp h
      cases heq
      exact (ih hread).of_advance.of_advance
  | case4 position rest ih =>
      obtain ⟨⟨text, last⟩, hread, heq⟩ := Option.map_eq_some_iff.mp h
      cases heq
      exact (ih hread).of_advance.of_advance
  | case5 position c rest _ _ _ ih =>
      obtain ⟨⟨text, last⟩, hread, heq⟩ := Option.map_eq_some_iff.mp h
      cases heq
      exact (ih hread).of_advance

theorem atOrBefore_readDoubleQuoted {opening position : Position} {text value : List Char}
    {cursor : Cursor} (h : readDoubleQuoted opening position text = .ok (value, cursor)) :
    position.AtOrBefore cursor.position := by
  fun_induction readDoubleQuoted opening position text generalizing value cursor with
  | case1 =>
      cases h
  | case2 position rest =>
      cases h
      exact (precedes_advance position '"').atOrBefore
  | case3 =>
      cases h
  | case4 position c rest ih =>
      obtain ⟨⟨text, last⟩, hread, heq⟩ := except_map_eq_ok h
      cases heq
      exact (ih hread).of_advance.of_advance
  | case5 =>
      cases h
  | case6 position c rest _ _ _ _ ih =>
      obtain ⟨⟨text, last⟩, hread, heq⟩ := except_map_eq_ok h
      cases heq
      exact (ih hread).of_advance

theorem precedes_readToken {position : Position} {c : Char} {rest : List Char}
    {token : Token} {cursor : Cursor} (h : readToken position c rest = .ok (token, cursor)) :
    position.Precedes cursor.position := by
  have hfirst : ∀ {last : Position}, (position.advance c).AtOrBefore last →
      position.Precedes last :=
    fun hlast => (precedes_advance position c).trans_atOrBefore hlast
  unfold readToken at h
  split at h
  · cases h
    exact precedes_advance position c
  split at h
  · split at h
    · rename_i hread
      cases h
      exact hfirst (atOrBefore_readSingleQuoted hread)
    · cases h
  split at h
  · obtain ⟨⟨text, last⟩, hread, heq⟩ := except_map_eq_ok h
    cases heq
    exact hfirst (atOrBefore_readDoubleQuoted hread)
  split at h
  · split at h
    · cases h
      exact hfirst (atOrBefore_readWord _ _)
    · cases h
  split at h
  · cases h
    exact hfirst (atOrBefore_readWord _ _)
  · cases h

/-! ## Tokens and statements stand in source order -/

/-- The positions are in source order, none before the given one. -/
def InOrderFrom (position : Position) (positions : List Position) : Prop :=
  positions.Pairwise Precedes ∧ ∀ other ∈ positions, position.AtOrBefore other

theorem inOrderFrom_readTokens {position : Position} {text : List Char}
    {stream : TokenStream} (h : readTokens position text = .ok stream) :
    InOrderFrom position (stream.tokens.map Located.position) := by
  fun_induction readTokens position text generalizing stream with
  | case1 position text stop hgap =>
      cases h
      exact ⟨.nil, fun other hother => absurd hother List.not_mem_nil⟩
  | case2 =>
      cases h
  | case3 position text c rest start hgap hrest token cursor htoken hcursor ih =>
      obtain ⟨later, hlater, heq⟩ := except_map_eq_ok h
      cases heq
      obtain ⟨hpairwise, hfrom⟩ := ih hlater
      have hstart : position.AtOrBefore start := by
        have hskip := atOrBefore_skipGap false position text
        rwa [hgap] at hskip
      have hnext : ∀ other ∈ later.tokens.map Located.position, start.Precedes other :=
        fun other hother => (precedes_readToken htoken).trans_atOrBefore (hfrom other hother)
      refine ⟨List.pairwise_cons.mpr ⟨hnext, hpairwise⟩, ?_⟩
      intro other hother
      rcases List.mem_cons.mp hother with rfl | hother
      · exact hstart
      · exact (hstart.precedes_of_precedes (hnext other hother)).atOrBefore

theorem keywordPositions_sublist (tokens : List (Located Token)) :
    (keywordPositions tokens).Sublist (tokens.map Located.position) :=
  List.filter_sublist.map Located.position

/-- The variants and statements of a document are listed in source order. -/
theorem pairwise_precedes_positions {origin source : String} {document : Document}
    (h : Document.parse origin source = .ok document) :
    document.positions.Pairwise Precedes := by
  obtain ⟨stream, htokens, hspells⟩ := Grammar.parse_eq_ok_iff.mp h
  rw [hspells.positions_eq]
  exact (inOrderFrom_readTokens htokens).1.sublist (keywordPositions_sublist _)

end Desktopfile

end Workspaces
