import Workspaces.Proofs.Lexemes

/-!
# The reader of tokens recognizes the lexical grammar

Soundness: whatever a reader takes from the front of a text belongs to the grammar and
says what the reader gives back.  Completeness: a reader takes a lexeme or a gap off
the front of any text that does not prolong it.  The readers count positions character
by character; after a text they stand at the position behind it.
-/

namespace Workspaces.Desktopfile

namespace Lexical

variable {position opening : Position} {gap text rest word value lexeme : List Char}
  {cursor : Cursor} {token : Token} {c : Char}

/-! ## Gaps -/

theorem isGapChar_iff : isGapChar c = true ↔ IsBlank c := by
  simp [isGapChar, IsBlank, or_assoc]

theorem skipGap_blank (h : isGapChar c = true) :
    skipGap false position (c :: text) = skipGap false (position.advance c) text := by
  simp [skipGap, h]

theorem skipGap_hash :
    skipGap false position ('#' :: text) = skipGap true (position.advance '#') text := by
  simp [skipGap, isGapChar]

theorem skipGap_of_head (h : ∀ c ∈ rest.head?, isGapChar c = false ∧ c ≠ '#') :
    skipGap false position rest = ⟨rest, position⟩ := by
  cases rest with
  | nil =>
      rfl
  | cons c rest =>
      obtain ⟨hblank, hhash⟩ := h c rfl
      simp [skipGap, hblank, hhash]

theorem skipGap_comment (htext : '\n' ∉ text) (hrest : ∀ c ∈ rest.head?, c = '\n') :
    skipGap true position (text ++ rest) = ⟨rest, position.after text⟩ := by
  induction text generalizing position with
  | nil =>
      cases rest with
      | nil =>
          rfl
      | cons c rest =>
          simp [skipGap, hrest c rfl]
  | cons c text ih =>
      rw [List.mem_cons, not_or] at htext
      rw [List.cons_append, skipGap, if_pos rfl, if_neg (Ne.symm htext.1), ih htext.2]
      rfl

theorem Gap.skipGap_append (h : Gap gap rest)
    (hrest : ∀ c ∈ rest.head?, isGapChar c = false ∧ c ≠ '#') (position : Position) :
    skipGap false position (gap ++ rest) = ⟨rest, position.after gap⟩ := by
  induction h generalizing position with
  | nil =>
      exact skipGap_of_head hrest
  | blank hc hgap ih =>
      rw [List.cons_append, skipGap_blank (isGapChar_iff.mpr hc), ih hrest]
      rfl
  | comment htext hend =>
      rw [List.cons_append, skipGap_hash, skipGap_comment htext hend]
      rfl

theorem exists_comment_skipGap (position : Position) (text : List Char) :
    ∃ comment, text = comment ++ (skipGap true position text).rest ∧ '\n' ∉ comment ∧
      (∀ c ∈ (skipGap true position text).rest.head?, c = '\n') ∧
      (skipGap true position text).position = position.after comment := by
  induction text generalizing position with
  | nil =>
      exact ⟨[], rfl, List.not_mem_nil, by simp [skipGap], rfl⟩
  | cons c text ih =>
      by_cases hc : c = '\n'
      · exact ⟨[], by simp [skipGap, hc]⟩
      · obtain ⟨comment, htext, hcomment, hend, hposition⟩ := ih (position.advance c)
        rw [skipGap, if_pos rfl, if_neg hc]
        refine ⟨c :: comment, congrArg (c :: ·) htext, ?_, hend, hposition⟩
        rw [List.mem_cons, not_or]
        exact ⟨Ne.symm hc, hcomment⟩

theorem exists_gap_skipGap (position : Position) (text : List Char) :
    ∃ gap, text = gap ++ (skipGap false position text).rest ∧
      Gap gap (skipGap false position text).rest ∧
      (skipGap false position text).position = position.after gap := by
  induction text generalizing position with
  | nil =>
      exact ⟨[], rfl, .nil, rfl⟩
  | cons c text ih =>
      by_cases hblank : isGapChar c = true
      · obtain ⟨gap, htext, hgap, hposition⟩ := ih (position.advance c)
        rw [skipGap_blank hblank]
        exact ⟨c :: gap, congrArg (c :: ·) htext, .blank (isGapChar_iff.mp hblank) hgap,
          hposition⟩
      by_cases hhash : c = '#'
      · subst hhash
        obtain ⟨comment, htext, hcomment, hend, hposition⟩ :=
          exists_comment_skipGap (position.advance '#') text
        rw [skipGap_hash]
        exact ⟨'#' :: comment, congrArg ('#' :: ·) htext, .comment hcomment hend, hposition⟩
      · have hhead : ∀ other ∈ (c :: text).head?, isGapChar other = false ∧ other ≠ '#' := by
          simp [hblank, hhash]
        rw [skipGap_of_head hhead]
        exact ⟨[], rfl, .nil, rfl⟩

/-! ## Words -/

theorem variableName_ofList_cons :
    VariableName (String.ofList (c :: word)) ↔
      isWordStart c = true ∧ ∀ other ∈ word, isWordChar other = true := by
  rw [← isVariableName_iff, isVariableName, String.toList_ofList]
  simp

theorem exists_toList_of_variableName {name : String} (h : VariableName name) :
    ∃ first others, name.toList = first :: others ∧ isWordStart first = true ∧
      ∀ c ∈ name.toList, isWordChar c = true := by
  cases hname : name.toList with
  | nil =>
      rw [VariableName, Matches, hname] at h
      cases h
  | cons first others =>
      rw [← @String.ofList_toList name, hname, variableName_ofList_cons] at h
      have hfirst : isWordChar first = true :=
        isWordChar_iff.mpr (.inl (isWordStart_iff.mp h.1))
      exact ⟨first, others, rfl, h.1, List.forall_mem_cons.mpr ⟨hfirst, h.2⟩⟩

theorem not_isWordPart_iff : ¬ IsWordPart c ↔ isWordChar c = false := by
  rw [IsWordPart, ← isWordChar_iff, Bool.not_eq_true]

theorem readWord_append (hword : ∀ c ∈ word, isWordChar c = true)
    (hrest : ∀ c ∈ rest.head?, ¬ IsWordPart c) (position : Position) :
    readWord position (word ++ rest) = (word, ⟨rest, position.after word⟩) := by
  induction word generalizing position with
  | nil =>
      cases rest with
      | nil =>
          rfl
      | cons c rest =>
          simp [readWord, not_isWordPart_iff.mp (hrest c rfl)]
  | cons c word ih =>
      obtain ⟨hc, hword⟩ := List.forall_mem_cons.mp hword
      simp [readWord, hc, ih hword]

theorem word_readWord (position : Position) (text : List Char) :
    text = (readWord position text).1 ++ (readWord position text).2.rest ∧
      (∀ c ∈ (readWord position text).1, isWordChar c = true) ∧
      (∀ c ∈ (readWord position text).2.rest.head?, ¬ IsWordPart c) ∧
      (readWord position text).2.position = position.after (readWord position text).1 := by
  induction text generalizing position with
  | nil =>
      simp [readWord]
  | cons c text ih =>
      by_cases hc : isWordChar c = true
      · obtain ⟨htext, hword, hend, hposition⟩ := ih (position.advance c)
        simp only [readWord, hc, if_true]
        exact ⟨congrArg (c :: ·) htext, List.forall_mem_cons.mpr ⟨hc, hword⟩, hend, hposition⟩
      · simp [readWord, hc, not_isWordPart_iff]

theorem variableName_readWord {first : Char} (position : Position) (others : List Char)
    (h : isWordStart first = true) :
    VariableName (String.ofList (readWord position (first :: others)).1) := by
  obtain ⟨_, hword, _⟩ := word_readWord position (first :: others)
  have hchar : isWordChar first = true := isWordChar_iff.mpr (.inl (isWordStart_iff.mp h))
  have hcons : (readWord position (first :: others)).1 =
      first :: (readWord (position.advance first) others).1 := by
    simp [readWord, hchar]
  rw [hcons] at hword ⊢
  exact variableName_ofList_cons.mpr ⟨h, (List.forall_mem_cons.mp hword).2⟩

/-! ## Texts between single quotes -/

theorem SingleQuoted.ne_nil (h : SingleQuoted text value) : text ≠ [] := by
  cases h <;> simp

theorem SingleQuoted.readSingleQuoted_append (h : SingleQuoted text value) (rest : List Char)
    (position : Position) :
    readSingleQuoted position (text ++ rest) = some (value, ⟨rest, position.after text⟩) := by
  induction h generalizing position with
  | close =>
      simp [readSingleQuoted]
  | escape hc htext ih =>
      rcases hc with rfl | rfl
      · simp [readSingleQuoted, ih]
      · simp [readSingleQuoted, ih]
  | @kept text value hquote hbackslash htext ih =>
      obtain ⟨c, tail, rfl⟩ := List.exists_cons_of_ne_nil htext.ne_nil
      have hnext := ih (position.advance '\\')
      rw [List.cons_append] at hnext
      simp only [List.head?_cons, ne_eq, Option.some.injEq] at hquote hbackslash
      simp [readSingleQuoted, hquote, hbackslash, hnext]
  | plain hquote hbackslash htext ih =>
      simp [readSingleQuoted, hbackslash, ih]

theorem singleQuoted_of_readSingleQuoted
    (h : readSingleQuoted position text = some (value, cursor)) :
    ∃ read, text = read ++ cursor.rest ∧ SingleQuoted read value ∧
      cursor.position = position.after read := by
  fun_induction readSingleQuoted position text generalizing value cursor with
  | case1 =>
      cases h
  | case2 position rest =>
      cases h
      exact ⟨['\''], rfl, .close, rfl⟩
  | case3 position rest ih =>
      obtain ⟨⟨text, last⟩, hread, heq⟩ := Option.map_eq_some_iff.mp h
      cases heq
      obtain ⟨read, hrest, hquoted, hposition⟩ := ih hread
      exact ⟨'\\' :: '\'' :: read, congrArg ('\\' :: '\'' :: ·) hrest,
        .escape (.inl rfl) hquoted, hposition⟩
  | case4 position rest ih =>
      obtain ⟨⟨text, last⟩, hread, heq⟩ := Option.map_eq_some_iff.mp h
      cases heq
      obtain ⟨read, hrest, hquoted, hposition⟩ := ih hread
      exact ⟨'\\' :: '\\' :: read, congrArg ('\\' :: '\\' :: ·) hrest,
        .escape (.inr rfl) hquoted, hposition⟩
  | case5 position c rest hclose hquote hbackslash ih =>
      obtain ⟨⟨text, last⟩, hread, heq⟩ := Option.map_eq_some_iff.mp h
      cases heq
      obtain ⟨read, hrest, hquoted, hposition⟩ := ih hread
      refine ⟨c :: read, congrArg (c :: ·) hrest, ?_, hposition⟩
      by_cases hc : c = '\\'
      · -- The backslash stays: what follows it is neither a quote nor a backslash.
        obtain ⟨next, tail, rfl⟩ := List.exists_cons_of_ne_nil hquoted.ne_nil
        subst hc hrest
        apply SingleQuoted.kept
        · rintro ⟨⟩
          exact hquote _ rfl rfl
        · rintro ⟨⟩
          exact hbackslash _ rfl rfl
        · exact hquoted
      · exact .plain hclose hc hquoted

/-! ## Texts between double quotes -/

theorem unescaped_of_mem {meaning : Char} (h : (c, meaning) ∈ escapes) :
    unescaped c = [meaning] := by
  simp only [escapes, List.mem_cons, List.not_mem_nil, or_false, Prod.mk.injEq] at h
  rcases h with ⟨rfl, rfl⟩ | ⟨rfl, rfl⟩ | ⟨rfl, rfl⟩ | ⟨rfl, rfl⟩ | ⟨rfl, rfl⟩ | ⟨rfl, rfl⟩ |
    ⟨rfl, rfl⟩ | ⟨rfl, rfl⟩ | ⟨rfl, rfl⟩ <;> rfl

theorem unescaped_of_not_mem (h : c ∉ escapes.map Prod.fst) : unescaped c = ['\\', c] := by
  simp only [escapes, List.map_cons, List.map_nil, List.mem_cons, List.not_mem_nil, or_false,
    not_or] at h
  simp [unescaped, h]

theorem escaped_unescaped (c : Char) : Escaped c (unescaped c) := by
  by_cases hc : c ∈ escapes.map Prod.fst
  · obtain ⟨⟨other, meaning⟩, hmem, rfl⟩ := List.mem_map.mp hc
    rw [unescaped_of_mem hmem]
    exact .known hmem
  · rw [unescaped_of_not_mem hc]
    exact .kept hc

theorem Escaped.unescaped_eq {meaning : List Char} (h : Escaped c meaning) :
    unescaped c = meaning := by
  cases h with
  | known hmem =>
      exact unescaped_of_mem hmem
  | kept hmem =>
      exact unescaped_of_not_mem hmem

theorem DoubleQuoted.ne_nil (h : DoubleQuoted text value) : text ≠ [] := by
  cases h <;> simp

theorem readDoubleQuoted_plain (hquote : c ≠ '"') (hbackslash : c ≠ '\\')
    (hbrace : ¬ (c = '#' ∧ text.head? = some '\x7b')) :
    readDoubleQuoted opening position (c :: text) =
      (readDoubleQuoted opening (position.advance c) text).map
        fun (value, cursor) => (c :: value, cursor) := by
  have hnotBrace : ∀ rest, c = '#' → text = '\x7b' :: rest → False := by
    rintro rest hc rfl
    exact hbrace ⟨hc, rfl⟩
  rw [readDoubleQuoted]
  · exact hquote
  · exact fun hc _ => hbackslash hc
  · exact fun _ _ hc _ => hbackslash hc
  · exact hnotBrace

theorem DoubleQuoted.readDoubleQuoted_append (h : DoubleQuoted text value) (rest : List Char)
    (opening position : Position) :
    readDoubleQuoted opening position (text ++ rest) =
      .ok (value, ⟨rest, position.after text⟩) := by
  induction h generalizing position with
  | close =>
      simp [readDoubleQuoted]
  | escape hc htext ih =>
      simp [readDoubleQuoted, ih, Except.map, hc.unescaped_eq]
  | @plain c text value hquote hbackslash hbrace htext ih =>
      have hhead : (text ++ rest).head? = text.head? := by
        obtain ⟨next, tail, rfl⟩ := List.exists_cons_of_ne_nil htext.ne_nil
        rfl
      rw [List.cons_append, readDoubleQuoted_plain hquote hbackslash (hhead ▸ hbrace), ih]
      rfl

theorem doubleQuoted_of_readDoubleQuoted
    (h : readDoubleQuoted opening position text = .ok (value, cursor)) :
    ∃ read, text = read ++ cursor.rest ∧ DoubleQuoted read value ∧
      cursor.position = position.after read := by
  fun_induction readDoubleQuoted opening position text generalizing value cursor with
  | case1 =>
      cases h
  | case2 position rest =>
      cases h
      exact ⟨['"'], rfl, .close, rfl⟩
  | case3 =>
      cases h
  | case4 position c rest ih =>
      obtain ⟨⟨text, last⟩, hread, heq⟩ := except_map_eq_ok h
      cases heq
      obtain ⟨read, hrest, hquoted, hposition⟩ := ih hread
      exact ⟨'\\' :: c :: read, congrArg ('\\' :: c :: ·) hrest,
        .escape (escaped_unescaped c) hquoted, hposition⟩
  | case5 =>
      cases h
  | case6 position c rest hquote hlast hescape hbrace ih =>
      obtain ⟨⟨text, last⟩, hread, heq⟩ := except_map_eq_ok h
      cases heq
      obtain ⟨read, hrest, hquoted, hposition⟩ := ih hread
      refine ⟨c :: read, congrArg (c :: ·) hrest, ?_, hposition⟩
      obtain ⟨next, tail, rfl⟩ := List.exists_cons_of_ne_nil hquoted.ne_nil
      subst hrest
      apply DoubleQuoted.plain hquote
      · intro hc
        exact hescape next _ hc rfl
      · rintro ⟨hc, hnext⟩
        rw [List.head?_cons, Option.some.injEq] at hnext
        subst hnext
        exact hbrace _ hc rfl
      · exact hquoted

/-! ## Lexemes -/

theorem punctuation?_of_mem (h : (c, token) ∈ marks) : punctuation? c = some token := by
  simp only [marks, List.mem_cons, List.not_mem_nil, or_false, Prod.mk.injEq] at h
  rcases h with ⟨rfl, rfl⟩ | ⟨rfl, rfl⟩ | ⟨rfl, rfl⟩ | ⟨rfl, rfl⟩ | ⟨rfl, rfl⟩ | ⟨rfl, rfl⟩ |
    ⟨rfl, rfl⟩ <;> rfl

theorem mem_marks_of_punctuation? (h : punctuation? c = some token) : (c, token) ∈ marks := by
  unfold punctuation? at h
  repeat' split at h
  all_goals simp_all [marks]

/-- A word begins with no character that is not meant for it. -/
theorem ne_of_isWordStart {other : Char} (h : isWordStart c = true)
    (hother : isWordStart other = false) : c ≠ other := by
  rintro rfl
  rw [h] at hother
  cases hother

theorem punctuation?_of_isWordStart (h : isWordStart c = true) : punctuation? c = none := by
  cases hmark : punctuation? c with
  | none =>
      rfl
  | some token =>
      have hmarks : ∀ entry ∈ marks, isWordStart entry.1 = false := by decide
      exact absurd rfl (ne_of_isWordStart h (hmarks _ (mem_marks_of_punctuation? hmark)))

theorem isWhole_of_mem_marks (h : (c, token) ∈ marks) (rest : List Char) :
    IsWhole token rest := by
  simp only [marks, List.mem_cons, List.not_mem_nil, or_false, Prod.mk.injEq] at h
  rcases h with ⟨rfl, rfl⟩ | ⟨rfl, rfl⟩ | ⟨rfl, rfl⟩ | ⟨rfl, rfl⟩ | ⟨rfl, rfl⟩ | ⟨rfl, rfl⟩ |
    ⟨rfl, rfl⟩ <;> trivial

/-- A lexeme begins with a character that no gap begins with. -/
theorem Lexeme.head (h : Lexeme lexeme token) :
    ∃ c tail, lexeme = c :: tail ∧ isGapChar c = false ∧ c ≠ '#' := by
  cases h with
  | @mark c token hmark =>
      have hmarks : ∀ entry ∈ marks, isGapChar entry.1 = false ∧ entry.1 ≠ '#' := by decide
      exact ⟨c, [], rfl, hmarks _ hmark⟩
  | word hname =>
      obtain ⟨first, others, hword, hfirst, _⟩ := exists_toList_of_variableName hname
      refine ⟨first, others, hword, ?_, ne_of_isWordStart hfirst rfl⟩
      rw [← Bool.not_eq_true, isGapChar_iff]
      rintro (hblank | hblank | hblank) <;> exact ne_of_isWordStart hfirst rfl hblank
  | symbol hname =>
      exact ⟨':', _, rfl, rfl, by decide⟩
  | single htext =>
      exact ⟨'\'', _, rfl, rfl, by decide⟩
  | double htext =>
      exact ⟨'"', _, rfl, rfl, by decide⟩

theorem readToken_word (h : isWordStart c = true) :
    readToken position c text =
      .ok (.word (String.ofList (c :: (readWord (position.advance c) text).1)),
        (readWord (position.advance c) text).2) := by
  have hsingle : c ≠ '\'' := ne_of_isWordStart h rfl
  have hdouble : c ≠ '"' := ne_of_isWordStart h rfl
  have hcolon : c ≠ ':' := ne_of_isWordStart h rfl
  simp [readToken, punctuation?_of_isWordStart h, hsingle, hdouble, hcolon, h]

theorem readToken_symbol (h : isWordStart c = true) :
    readToken position ':' (c :: text) =
      .ok (.symbol (String.ofList (readWord (position.advance ':') (c :: text)).1),
        (readWord (position.advance ':') (c :: text)).2) := by
  simp [readToken, punctuation?, h]

theorem Lexeme.readToken_append (h : Lexeme (c :: text) token) (hrest : IsWhole token rest)
    (position : Position) :
    readToken position c (text ++ rest) = .ok (token, ⟨rest, position.after (c :: text)⟩) := by
  generalize hlexeme : c :: text = lexeme at h
  cases h with
  | mark hmark =>
      cases hlexeme
      rw [readToken, punctuation?_of_mem hmark]
      rfl
  | @word name hname =>
      obtain ⟨first, others, hword, hfirst, hchars⟩ := exists_toList_of_variableName hname
      have hname : String.ofList (c :: text) = name := by
        rw [hlexeme, String.ofList_toList]
      rw [hword] at hlexeme hchars
      cases hlexeme
      rw [readToken_word hfirst, readWord_append (List.forall_mem_cons.mp hchars).2 hrest,
        hname, hword]
      rfl
  | @symbol name hname =>
      cases hlexeme
      obtain ⟨first, others, hword, hfirst, hchars⟩ := exists_toList_of_variableName hname
      have hread := readWord_append hchars hrest (position.advance ':')
      rw [hword, List.cons_append] at hread ⊢
      rw [readToken_symbol hfirst, hread, ← hword, String.ofList_toList]
      rfl
  | single htext =>
      cases hlexeme
      simp [readToken, punctuation?, htext.readSingleQuoted_append]
  | double htext =>
      cases hlexeme
      simp [readToken, punctuation?, htext.readDoubleQuoted_append, Except.map]

theorem lexeme_of_readToken (h : readToken position c text = .ok (token, cursor)) :
    ∃ read, text = read ++ cursor.rest ∧ Lexeme (c :: read) token ∧
      IsWhole token cursor.rest ∧ cursor.position = position.after (c :: read) := by
  unfold readToken at h
  split at h
  · rename_i mark hmark
    cases h
    have hmem := mem_marks_of_punctuation? hmark
    exact ⟨[], rfl, .mark hmem, isWhole_of_mem_marks hmem _, rfl⟩
  split at h
  · rename_i hc
    split at h
    · rename_i value last hread
      cases h
      obtain ⟨read, htext, hquoted, hposition⟩ := singleQuoted_of_readSingleQuoted hread
      subst hc
      rw [← String.toList_ofList (l := value)] at hquoted
      exact ⟨read, htext, .single hquoted, trivial, hposition⟩
    · cases h
  split at h
  · rename_i hc
    obtain ⟨⟨value, last⟩, hread, heq⟩ := except_map_eq_ok h
    cases heq
    obtain ⟨read, htext, hquoted, hposition⟩ := doubleQuoted_of_readDoubleQuoted hread
    subst hc
    rw [← String.toList_ofList (l := value)] at hquoted
    exact ⟨read, htext, .double hquoted, trivial, hposition⟩
  split at h
  · rename_i hc
    subst hc
    cases text with
    | nil =>
        cases h
    | cons first others =>
        split at h
        · rename_i hfirst
          cases h
          obtain ⟨htext, _, hend, hposition⟩ :=
            word_readWord (position.advance ':') (first :: others)
          have hlexeme := Lexeme.symbol (variableName_readWord (position.advance ':') others hfirst)
          rw [String.toList_ofList] at hlexeme
          exact ⟨_, htext, hlexeme, hend, hposition⟩
        · cases h
  split at h
  · rename_i hc
    cases h
    obtain ⟨htext, hword, hend, hposition⟩ := word_readWord (position.advance c) text
    have hlexeme := Lexeme.word (variableName_ofList_cons.mpr ⟨hc, hword⟩)
    rw [String.toList_ofList] at hlexeme
    exact ⟨_, htext, hlexeme, hend, hposition⟩
  · cases h

/-! ## Sources -/

theorem Lexeme.head_append (h : Lexeme lexeme token) (rest : List Char) :
    ∀ c ∈ (lexeme ++ rest).head?, isGapChar c = false ∧ c ≠ '#' := by
  obtain ⟨first, tail, rfl, hfirst⟩ := h.head
  rintro c ⟨⟩
  exact hfirst

theorem readTokens_end {stop : Position} (h : skipGap false position text = ⟨[], stop⟩) :
    readTokens position text = .ok ⟨[], stop⟩ := by
  rw [readTokens]
  split
  · rename_i hgap
    cases hgap.symm.trans h
    rfl
  · rename_i hgap
    cases hgap.symm.trans h

theorem readTokens_token {start : Position}
    (hgap : skipGap false position text = ⟨c :: rest, start⟩)
    (htoken : readToken start c rest = .ok (token, cursor)) :
    readTokens position text =
      (readTokens cursor.position cursor.rest).map fun stream =>
        ⟨⟨token, start⟩ :: stream.tokens, stream.stop⟩ := by
  rw [readTokens]
  split
  · rename_i hend
    cases hend.symm.trans hgap
  · rename_i hstart
    cases hstart.symm.trans hgap
    split
    · rename_i hread
      cases hread.symm.trans htoken
    · rename_i hread
      cases hread.symm.trans htoken
      rfl

theorem Splits.readTokens_eq {last : List Char} {pieces : List Piece}
    (h : Splits text pieces last) (before : List Char) :
    readTokens (.reached before) text =
      .ok ⟨locate before pieces, .reached (before ++ text)⟩ := by
  induction h generalizing before with
  | @last gap hgap =>
      have hskip := hgap.skipGap_append (by simp) (.reached before)
      rw [List.append_nil, Position.after_reached] at hskip
      exact readTokens_end hskip
  | @piece gap lexeme rest last token pieces hgap hlexeme hwhole hrest ih =>
      have hskip := hgap.skipGap_append (hlexeme.head_append rest) (.reached before)
      obtain ⟨c, tail, rfl, _⟩ := hlexeme.head
      have htoken := hlexeme.readToken_append hwhole (.reached (before ++ gap))
      rw [Position.after_reached] at hskip htoken
      rw [List.append_assoc, readTokens_token hskip htoken]
      dsimp only
      rw [ih]
      simp [Except.map, locate, Piece.text]

theorem splits_of_readTokens {before : List Char} {stream : TokenStream}
    (h : readTokens (.reached before) text = .ok stream) :
    ∃ pieces last, Splits text pieces last ∧
      stream = ⟨locate before pieces, .reached (before ++ text)⟩ := by
  generalize hposition : Position.reached before = position at h
  fun_induction readTokens position text generalizing before stream with
  | case1 position text stop hgap =>
      cases h
      obtain ⟨gap, htext, hderived, hstop⟩ := exists_gap_skipGap position text
      rw [hgap] at htext hderived hstop
      dsimp only at htext hderived hstop
      rw [List.append_nil] at htext
      subst hposition htext
      rw [Position.after_reached] at hstop
      exact ⟨[], text, .last hderived, by rw [hstop, locate]⟩
  | case2 =>
      cases h
  | case3 position text c rest start hgap hrest token cursor htoken hcursor ih =>
      obtain ⟨later, hlater, heq⟩ := except_map_eq_ok h
      cases heq
      obtain ⟨gap, htext, hderived, hstart⟩ := exists_gap_skipGap position text
      obtain ⟨read, htail, hlexeme, hwhole, hnext⟩ := lexeme_of_readToken htoken
      rw [hgap] at htext hderived hstart
      dsimp only at htext hderived hstart
      subst hposition hstart htail htext
      rw [Position.after_reached, Position.after_reached] at hnext
      obtain ⟨pieces, last, hsplits, hstream⟩ := ih hnext.symm hlater
      refine ⟨⟨gap, c :: read, token⟩ :: pieces, last, ?_, ?_⟩
      · have hsplit := Splits.piece hderived hlexeme hwhole hsplits
        rwa [List.append_assoc] at hsplit
      · rw [hstream, locate, Position.after_reached]
        simp [Piece.text]

/-- A source is read just if it can be split, and as it is split. -/
theorem tokenize_eq_ok_iff {source : String} {stream : TokenStream} :
    tokenize source = .ok stream ↔
      ∃ pieces last, Splits source.toList pieces last ∧
        stream = ⟨locate [] pieces, .reached source.toList⟩ := by
  have hstart : Position.start = .reached [] := rfl
  rw [tokenize, hstart]
  constructor
  · exact splits_of_readTokens
  · rintro ⟨pieces, last, hsplits, rfl⟩
    exact hsplits.readTokens_eq []

/-! ## Splits are unique and in order -/

theorem Gap.unique {other first second : List Char} (h : Gap gap first) (h' : Gap other second)
    (hfirst : ∀ c ∈ first.head?, isGapChar c = false ∧ c ≠ '#')
    (hsecond : ∀ c ∈ second.head?, isGapChar c = false ∧ c ≠ '#')
    (heq : gap ++ first = other ++ second) : gap = other ∧ first = second := by
  have hskip := h.skipGap_append hfirst .start
  rw [heq, h'.skipGap_append hsecond .start] at hskip
  have hrest : first = second := (congrArg Cursor.rest hskip).symm
  subst hrest
  exact ⟨List.append_cancel_right heq, rfl⟩

theorem Lexeme.unique {other rest' : List Char} {token' : Token} (h : Lexeme lexeme token)
    (h' : Lexeme other token') (hrest : IsWhole token rest) (hrest' : IsWhole token' rest')
    (heq : lexeme ++ rest = other ++ rest') :
    lexeme = other ∧ token = token' ∧ rest = rest' := by
  obtain ⟨c, tail, rfl, _⟩ := h.head
  obtain ⟨c', tail', rfl, _⟩ := h'.head
  rw [List.cons_append, List.cons_append, List.cons.injEq] at heq
  obtain ⟨rfl, htail⟩ := heq
  have hread := h.readToken_append hrest .start
  rw [htail, h'.readToken_append hrest' .start] at hread
  simp only [Except.ok.injEq, Prod.mk.injEq, Cursor.mk.injEq] at hread
  obtain ⟨rfl, rfl, _⟩ := hread
  exact ⟨congrArg (c :: ·) (List.append_cancel_right htail), rfl, rfl⟩

theorem Splits.unique {text' : List Char} {first second : List Piece} {last last' : List Char}
    (h : Splits text first last) (h' : Splits text' second last') (heq : text = text') :
    first = second ∧ last = last' := by
  induction h generalizing text' second last' with
  | @last gap hgap =>
      cases h' with
      | last hgap' =>
          exact ⟨rfl, heq⟩
      | @piece gap' lexeme rest _ _ _ hgap' hlexeme =>
          rw [← List.append_nil gap, List.append_assoc] at heq
          have hnil := (hgap.unique hgap' (by simp) (hlexeme.head_append rest) heq).2
          obtain ⟨c, tail, rfl, _⟩ := hlexeme.head
          cases hnil
  | @piece gap lexeme rest last token pieces hgap hlexeme hwhole hrest ih =>
      rw [List.append_assoc] at heq
      cases h' with
      | last hgap' =>
          rw [← List.append_nil text'] at heq
          have hnil := (hgap.unique hgap' (hlexeme.head_append rest) (by simp) heq).2
          obtain ⟨c, tail, rfl, _⟩ := hlexeme.head
          cases hnil
      | @piece gap' lexeme' rest' _ token' _ hgap' hlexeme' hwhole' hrest' =>
          rw [List.append_assoc] at heq
          obtain ⟨rfl, htail⟩ := hgap.unique hgap' (hlexeme.head_append rest)
            (hlexeme'.head_append rest') heq
          obtain ⟨rfl, rfl, rfl⟩ := hlexeme.unique hlexeme' hwhole hwhole' htail
          obtain ⟨rfl, rfl⟩ := ih hrest' rfl
          exact ⟨rfl, rfl⟩

/-- The reader of tokens accepts exactly the sources that can be split into gaps and
lexemes.  There is one split, nothing is lost in it, and the tokens are those that its
lexemes stand for, each at the position behind the text before its lexeme. -/
theorem tokenize_recognizes (source : String) :
    (∀ stream, tokenize source = .ok stream ↔
        ∃ pieces last, Splits source.toList pieces last ∧
          stream = ⟨locate [] pieces, .reached source.toList⟩) ∧
      (∀ first second last last', Splits source.toList first last →
        Splits source.toList second last' → first = second ∧ last = last') ∧
      (∀ pieces last, Splits source.toList pieces last →
        pieces.flatMap Piece.text ++ last = source.toList ∧
          (locate [] pieces).Pairwise fun first second =>
            first.position.Precedes second.position) ∧
      ((∃ error, tokenize source = .error error) ↔
        ¬ ∃ pieces last, Splits source.toList pieces last) := by
  refine ⟨fun stream => tokenize_eq_ok_iff, fun first second last last' hfirst hsecond =>
    hfirst.unique hsecond rfl, ?_, ?_⟩
  · intro pieces last hsplits
    have htokens := tokenize_eq_ok_iff.mpr ⟨pieces, last, hsplits, rfl⟩
    refine ⟨hsplits.text_eq, ?_⟩
    rw [← List.pairwise_map]
    exact (inOrderFrom_readTokens htokens).1
  · constructor
    · rintro ⟨error, herror⟩ ⟨pieces, last, hsplits⟩
      rw [tokenize_eq_ok_iff.mpr ⟨pieces, last, hsplits, rfl⟩] at herror
      cases herror
    · intro hnone
      cases hread : tokenize source with
      | error error =>
          exact ⟨error, rfl⟩
      | ok stream =>
          obtain ⟨pieces, last, hsplits, _⟩ := tokenize_eq_ok_iff.mp hread
          exact absurd ⟨pieces, last, hsplits⟩ hnone

end Lexical

end Workspaces.Desktopfile
