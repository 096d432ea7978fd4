import Workspaces.Proofs.TomlStrings
import Workspaces.Toml.Reader

/-!
# Lines of TOML read back

What is written for a key, a number, a string or an array of strings is read back
as it is, up to the text after it.  A reader that goes on in the text it is given
is met by one lemma for each way on; from them a written line is one line for the
reader, and a text of lines is read line by line.
-/

namespace Workspaces.Toml

variable {α : Type} {text rest next : List Char}

/-- A value is read at the beginning of a text, and the rest is left. -/
def Reads (result : Option (Parsed α text)) (value : α) (rest : List Char) : Prop :=
  ∃ parsed, result = some parsed ∧ parsed.value = value ∧ parsed.rest = rest

/-! ## Gaps -/

/-- A character at which no gap begins. -/
def IsSolid (c : Char) : Prop :=
  isBlankChar c = false ∧ c ≠ '\n' ∧ c ≠ '\r' ∧ c ≠ '#'

instance (c : Char) : Decidable (IsSolid c) :=
  inferInstanceAs (Decidable (_ ∧ _))

theorem skipFiller_solid {c : Char} (h : IsSolid c) (text : List Char) :
    skipFiller (c :: text) = some (c :: text) := by
  obtain ⟨hblank, hline, hreturn, hcomment⟩ := h
  rw [skipFiller, if_neg (by simp [hblank, hline]), if_neg (by simp [hreturn]), if_neg hcomment]

theorem skipFiller_blank {c : Char} (h : isBlankChar c = true ∨ c = '\n') (text : List Char) :
    skipFiller (c :: text) = skipFiller text := by
  rw [skipFiller, if_pos h]

theorem skipBlanks_solid {c : Char} (h : isBlankChar c = false) (text : List Char) :
    skipBlanks (c :: text) = c :: text :=
  List.dropWhile_cons_of_neg (by simp [h])

theorem skipBlanks_space (text : List Char) : skipBlanks (' ' :: text) = skipBlanks text :=
  List.dropWhile_cons_of_pos rfl

/-! ## Strings and numbers -/

theorem readQuoted_quoted_cons (string : List Char) {c : Char} (hdouble : c ≠ '"')
    (hsingle : c ≠ '\'') (rest : List Char) :
    readQuoted (quoted string ++ c :: rest) = some (string, c :: rest) :=
  readQuoted_quoted string (by simpa using hdouble) (by simpa using hsingle)

theorem reads_readScalar_of_readQuoted {first : Char} {others string : List Char}
    (hfirst : first = '"' ∨ first = '\'')
    (h : readQuoted (first :: others) = some (string, rest)) :
    Reads (readScalar (first :: others)) (.string (String.ofList string)) rest := by
  rw [readScalar, if_pos hfirst]
  split
  · simp_all
  · rename_i read last hread
    rw [h] at hread
    cases hread
    exact ⟨_, rfl, rfl, rfl⟩

/-- What begins with neither a bracket nor a brace is read as a plain value. -/
theorem readValue_eq_readScalar {c : Char} (hbracket : c ≠ '[') (hbrace : c ≠ '\x7b')
    (depth : Nat) (text : List Char) : readValue depth (c :: text) = readScalar (c :: text) := by
  rw [readValue]
  · rintro more heq
    exact hbracket (List.cons.inj heq).1
  · rintro more heq
    exact hbrace (List.cons.inj heq).1

theorem reads_readValue_quoted (depth : Nat) (string : List Char) {c : Char} (hdouble : c ≠ '"')
    (hsingle : c ≠ '\'') (rest : List Char) :
    Reads (readValue depth (quoted string ++ c :: rest)) (.string (String.ofList string))
      (c :: rest) := by
  have hread := readQuoted_quoted_cons string hdouble hsingle rest
  obtain ⟨first, others, hquoted, hfirst⟩ := quoted_eq_cons string
  rw [hquoted, List.cons_append] at hread ⊢
  have hplain : first ≠ '[' ∧ first ≠ '\x7b' := by
    rcases hfirst with rfl | rfl <;> decide
  rw [readValue_eq_readScalar hplain.1 hplain.2]
  exact reads_readScalar_of_readQuoted hfirst hread

/-! ## Arrays of strings -/

variable {item : Reader Value} {value : Value} {values : List Value} {c : Char}
  {more : List Char}

theorem reads_readItems_end (h : skipFiller text = some (']' :: rest)) :
    Reads (readItems item text) [] rest := by
  rw [readItems]
  split
  · simp_all
  · simp_all
  · rename_i heq
    rw [h] at heq
    cases heq
    exact ⟨_, rfl, rfl, rfl⟩

theorem reads_readItems_last (h : skipFiller text = some (c :: more)) (hc : c ≠ ']')
    (hitem : Reads (item (c :: more)) value next)
    (hafter : skipFiller next = some (']' :: rest)) : Reads (readItems item text) [value] rest := by
  obtain ⟨first, hfirst, rfl, rfl⟩ := hitem
  rw [readItems]
  split
  · simp_all
  · simp_all
  · rename_i heq
    rw [h] at heq
    cases heq
    rw [if_neg hc, hfirst]
    dsimp only
    split
    · simp_all
    · rename_i heq
      rw [hafter] at heq
      cases heq
      exact ⟨_, rfl, rfl, rfl⟩
    · simp_all

theorem reads_readItems_more (h : skipFiller text = some (c :: more)) (hc : c ≠ ']')
    {after : List Char} (hitem : Reads (item (c :: more)) value after)
    (hafter : skipFiller after = some (',' :: next))
    (hothers : Reads (readItems item next) values rest) :
    Reads (readItems item text) (value :: values) rest := by
  obtain ⟨first, hfirst, rfl, rfl⟩ := hitem
  obtain ⟨others, hothers, rfl, rfl⟩ := hothers
  rw [readItems]
  split
  · simp_all
  · simp_all
  · rename_i heq
    rw [h] at heq
    cases heq
    rw [if_neg hc, hfirst]
    dsimp only
    split
    · rename_i heq
      rw [hafter] at heq
      cases heq
      rw [hothers]
      exact ⟨_, rfl, rfl, rfl⟩
    · simp_all
    · simp_all

/-- The items that an array of strings is read as. -/
def stringItems (items : List (List Char)) : List Value :=
  items.map fun item => .string (String.ofList item)

/-- A string among the items of an array: where it begins, and how it is read. -/
theorem exists_string_item (depth : Nat) (string : List Char) {c : Char} (hdouble : c ≠ '"')
    (hsingle : c ≠ '\'') (rest : List Char) :
    ∃ first others, first ≠ ']' ∧
      skipFiller (quoted string ++ c :: rest) = some (first :: others) ∧
      Reads (readValue depth (first :: others)) (.string (String.ofList string)) (c :: rest) := by
  have hread := reads_readValue_quoted depth string hdouble hsingle rest
  obtain ⟨first, others, hquoted, hfirst⟩ := quoted_eq_cons string
  have hsolid : IsSolid first ∧ first ≠ ']' := by
    rcases hfirst with rfl | rfl <;> decide
  rw [hquoted, List.cons_append] at hread ⊢
  exact ⟨first, _, hsolid.2, skipFiller_solid hsolid.1 _, hread⟩

/-- The items after the first line end of an array, each on its line. -/
theorem reads_readItems_lines (depth : Nat) (items : List (List Char)) (rest : List Char) :
    Reads (readItems (readValue depth) ('\n' :: ((items.flatMap fun item =>
      [' ', ' ', ' ', ' '] ++ quoted item ++ [',', '\n']) ++ ']' :: rest)))
        (stringItems items) rest := by
  induction items with
  | nil =>
      apply reads_readItems_end
      rw [List.flatMap_nil, List.nil_append, skipFiller_blank (.inr rfl)]
      exact skipFiller_solid (by decide) rest
  | cons item items ih =>
      obtain ⟨first, others, hfirst, hskip, hitem⟩ := exists_string_item depth item
        (by decide : ',' ≠ '"') (by decide)
        ('\n' :: ((items.flatMap fun item =>
          [' ', ' ', ' ', ' '] ++ quoted item ++ [',', '\n']) ++ ']' :: rest))
      refine reads_readItems_more ?_ hfirst hitem (skipFiller_solid (by decide) _) ih
      rw [skipFiller_blank (.inr rfl), List.flatMap_cons]
      simp only [List.append_assoc, List.cons_append, List.nil_append,
        skipFiller_blank (.inl (rfl : isBlankChar ' ' = true))]
      exact hskip

theorem reads_readItems_stringArray (depth : Nat) (items : List (List Char)) (rest : List Char) :
    ∃ inner, stringArray items ++ rest = '[' :: inner ∧
      Reads (readItems (readValue depth) inner) (stringItems items) rest := by
  match items with
  | [] =>
      exact ⟨_, rfl, reads_readItems_end (skipFiller_solid (by decide) rest)⟩
  | [item] =>
      obtain ⟨first, others, hfirst, hskip, hitem⟩ := exists_string_item depth item
        (by decide : ']' ≠ '"') (by decide) rest
      refine ⟨quoted item ++ ']' :: rest, by simp [stringArray], ?_⟩
      exact reads_readItems_last hskip hfirst hitem (skipFiller_solid (by decide) rest)
  | first :: second :: others =>
      refine ⟨_, ?_, reads_readItems_lines depth (first :: second :: others) rest⟩
      simp [stringArray]

theorem reads_readValue_array {depth : Nat} {items : List Value}
    (h : Reads (readItems (readValue depth) text) items rest) :
    Reads (readValue (depth + 1) ('[' :: text)) (.array false items) rest := by
  obtain ⟨read, hread, rfl, rfl⟩ := h
  rw [readValue, hread]
  exact ⟨_, rfl, rfl, rfl⟩

/-! ## Numbers -/

/-- A number is written without a needless zero in front. -/
theorem toDigits_ne_zero_cons (n : Nat) (c : Char) (digits : List Char) :
    Nat.toDigits 10 n ≠ '0' :: c :: digits := by
  induction n using Nat.strongRecOn generalizing c digits with
  | ind n ih =>
      intro h
      by_cases hsmall : n < 10
      · rw [Nat.toDigits_of_lt_base hsmall] at h
        simp at h
      · rw [Nat.toDigits_of_base_le (by decide) (Nat.le_of_not_lt hsmall)] at h
        have hvalue : Nat.ofDigitChars 10 (Nat.toDigits 10 (n / 10)) 0 = n / 10 :=
          Nat.ofDigitChars_toDigits (by decide) (by decide)
        match hfront : Nat.toDigits 10 (n / 10) with
        | [] =>
            rw [hfront] at h
            simp at h
        | [first] =>
            rw [hfront] at h hvalue
            rw [(List.cons.inj h).1] at hvalue
            have hzero : Nat.ofDigitChars 10 ['0'] 0 = 0 := rfl
            omega
        | first :: second :: others =>
            rw [hfront] at h
            rw [(List.cons.inj h).1] at hfront
            exact ih (n / 10) (by omega) second others hfront

theorem ofDigits_toDigits (n : Nat) : ofDigits 10 (Nat.toDigits 10 n) = n := by
  have hfold (digits : List Char) (value : Nat) (h : ∀ c ∈ digits, c.isDigit = true) :
      digits.foldl (fun value digit => value * 10 + digitValue digit) value =
        Nat.ofDigitChars 10 digits value := by
    induction digits generalizing value with
    | nil =>
        rfl
    | cons c digits ih =>
        obtain ⟨hc, hdigits⟩ := List.forall_mem_cons.mp h
        rw [List.foldl_cons, ih _ hdigits, Nat.ofDigitChars_cons, digitValue, if_pos hc,
          Nat.mul_comm]
  rw [ofDigits, hfold _ 0 fun c => Nat.isDigit_of_mem_toDigits (by decide) (by decide)]
  exact Nat.ofDigitChars_toDigits (by decide) (by decide)

theorem exists_toDigits_eq_cons (n : Nat) :
    ∃ c digits, Nat.toDigits 10 n = c :: digits ∧ c.isDigit = true := by
  cases hdigits : Nat.toDigits 10 n with
  | nil =>
      have hpos : 0 < (Nat.toDigits 10 n).length := Nat.length_toDigits_pos
      rw [hdigits] at hpos
      exact absurd hpos (by decide)
  | cons c digits =>
      have hc : c ∈ Nat.toDigits 10 n := by
        simp [hdigits]
      exact ⟨c, digits, rfl, Nat.isDigit_of_mem_toDigits (by decide) (by decide) hc⟩

theorem digits?_of_isDigit {word : List Char} (hne : word ≠ [])
    (h : ∀ c ∈ word, c.isDigit = true) : digits? Char.isDigit word = some word := by
  have hsplit : splitOn '_' word = [word] := by
    apply splitOn_of_not_mem
    intro hmem
    exact absurd (h '_' hmem) (by decide)
  have hall : word.all Char.isDigit = true := List.all_eq_true.mpr h
  have hnonempty : word.isEmpty = false := by
    simpa using hne
  simp [digits?, hsplit, hall, hnonempty]

theorem integer?_toDigits (n : Nat) : integer? (Nat.toDigits 10 n) = some (n : Int) := by
  have hdigits : digits? Char.isDigit (Nat.toDigits 10 n) = some (Nat.toDigits 10 n) := by
    apply digits?_of_isDigit
    · intro h
      obtain ⟨c, digits, hcons, _⟩ := exists_toDigits_eq_cons n
      rw [h] at hcons
      cases hcons
    · exact fun c => Nat.isDigit_of_mem_toDigits (by decide) (by decide)
  have hsign : splitSign (Nat.toDigits 10 n) = (none, Nat.toDigits 10 n) := by
    obtain ⟨c, digits, hcons, hc⟩ := exists_toDigits_eq_cons n
    rw [hcons, splitSign]
    · rintro word heq
      cases heq
      exact absurd hc (by decide)
    · rintro word heq
      cases heq
      exact absurd hc (by decide)
  have hwhole : wholeDigits? none (Nat.toDigits 10 n) = some (Nat.toDigits 10 n) := by
    rw [wholeDigits?, hdigits]
    · split
      · rename_i heq
        exact absurd (Option.some.inj heq) (toDigits_ne_zero_cons n _ _)
      · rfl
    · rintro sign word heq
      cases heq
  rw [integer?]
  · simp only [hsign, hwhole, Option.map_some, ofDigits_toDigits]
    rfl
  · exact toDigits_ne_zero_cons n 'x'
  · exact toDigits_ne_zero_cons n 'o'
  · exact toDigits_ne_zero_cons n 'b'

theorem readWord_toDigits (n : Nat) (rest : List Char) :
    readWord (Nat.toDigits 10 n ++ '\n' :: rest) = (Nat.toDigits 10 n, '\n' :: rest) := by
  have hends : (wordEnds.all fun c => !c.isDigit) = true := by decide
  have hword : ∀ c ∈ Nat.toDigits 10 n, isWordChar c = true := by
    intro c hc
    have hdigit : c.isDigit = true := Nat.isDigit_of_mem_toDigits (by decide) (by decide) hc
    have hnot : c ∉ wordEnds := by
      intro hmem
      have hother := List.all_eq_true.mp hends c hmem
      rw [hdigit] at hother
      cases hother
    simpa [isWordChar] using hnot
  have hend : ¬ isWordChar '\n' = true := by decide
  rw [readWord, List.dropWhile_append_of_pos hword, List.takeWhile_append_of_pos hword,
    List.dropWhile_cons_of_neg hend, List.takeWhile_cons_of_neg hend, List.append_nil]
  rfl

theorem reads_readScalar_of_readWord {word : List Char} {c : Char} {value : Value}
    (hdouble : c ≠ '"') (hsingle : c ≠ '\'') (hne : word ≠ [])
    (h : readWord (c :: text) = (word, rest)) (hvalue : ofWord? word = some value) :
    Reads (readScalar (c :: text)) value rest := by
  rw [readScalar, if_neg (not_or.mpr ⟨hdouble, hsingle⟩)]
  split
  rename_i read last hread
  rw [h] at hread
  cases hread
  rw [dif_neg hne, hvalue]
  exact ⟨_, rfl, rfl, rfl⟩

/-- A number that is not too large is read as it is written, up to the line end. -/
theorem reads_readValue_toDigits (depth : Nat) {n : Nat} (h : isInRange n = true)
    (rest : List Char) :
    Reads (readValue depth (Nat.toDigits 10 n ++ '\n' :: rest)) (.integer n) ('\n' :: rest) := by
  have hword := readWord_toDigits n rest
  obtain ⟨c, digits, hcons, hc⟩ := exists_toDigits_eq_cons n
  have hne (other : Char) (hother : other.isDigit = false) : c ≠ other := by
    rintro rfl
    rw [hother] at hc
    cases hc
  have hvalue : ofWord? (Nat.toDigits 10 n) = some (.integer n) := by
    have htrue : Nat.toDigits 10 n ≠ ['t', 'r', 'u', 'e'] := by
      rw [hcons]
      intro heq
      exact hne 't' (by decide) (List.cons.inj heq).1
    have hfalse : Nat.toDigits 10 n ≠ ['f', 'a', 'l', 's', 'e'] := by
      rw [hcons]
      intro heq
      exact hne 'f' (by decide) (List.cons.inj heq).1
    simp only [ofWord?, if_neg htrue, if_neg hfalse, ofInteger?, integer?_toDigits, h, if_true]
  rw [hcons] at hword hvalue ⊢
  rw [List.cons_append] at hword ⊢
  rw [readValue_eq_readScalar (hne '[' (by decide)) (hne '\x7b' (by decide))]
  exact reads_readScalar_of_readWord (hne '"' (by decide)) (hne '\'' (by decide)) (by simp) hword
    hvalue

/-! ## Keys and pairs -/

/-- A name that can be written as a key without quotes. -/
def IsBareKey (key : String) : Prop :=
  key.toList ≠ [] ∧ ∀ c ∈ key.toList, isKeyChar c = true

instance (key : String) : Decidable (IsBareKey key) :=
  decidable_of_iff ((!key.toList.isEmpty && key.toList.all isKeyChar) = true)
    (by simp [IsBareKey])

variable {key : String}

theorem IsBareKey.exists_eq_cons (h : IsBareKey key) :
    ∃ c others, key.toList = c :: others ∧ isKeyChar c = true := by
  cases hkey : key.toList with
  | nil =>
      exact absurd hkey h.1
  | cons c others =>
      have hc := h.2 c
      rw [hkey] at hc
      exact ⟨c, others, rfl, hc (by simp)⟩

theorem ne_of_isKeyChar {other : Char} (hother : isKeyChar other = false)
    (h : isKeyChar c = true) : c ≠ other := by
  rintro rfl
  rw [hother] at h
  cases h

theorem readKeyPart_append (h : IsBareKey key) (hc : isKeyChar c = false) (rest : List Char) :
    readKeyPart (key.toList ++ c :: rest) = some (key, c :: rest) := by
  obtain ⟨first, others, hkey, hfirst⟩ := h.exists_eq_cons
  have hquote : ¬ (first = '"' ∨ first = '\'') :=
    not_or.mpr ⟨ne_of_isKeyChar (by decide) hfirst, ne_of_isKeyChar (by decide) hfirst⟩
  have hend : ¬ isKeyChar c = true := by simp [hc]
  have htake : (key.toList ++ c :: rest).takeWhile isKeyChar = key.toList := by
    rw [List.takeWhile_append_of_pos h.2, List.takeWhile_cons_of_neg hend, List.append_nil]
  have hdrop : (key.toList ++ c :: rest).dropWhile isKeyChar = c :: rest := by
    rw [List.dropWhile_append_of_pos h.2, List.dropWhile_cons_of_neg hend]
  have hpart : readKeyPart (key.toList ++ c :: rest) =
      some (String.ofList ((key.toList ++ c :: rest).takeWhile isKeyChar),
        (key.toList ++ c :: rest).dropWhile isKeyChar) := by
    rw [hkey, List.cons_append, readKeyPart, if_neg hquote, if_pos hfirst]
  rw [hpart, htake, hdrop, String.ofList_toList]

theorem reads_readKey (h : IsBareKey key) (hc : isKeyChar c = false) {after : List Char}
    (hafter : skipBlanks (c :: rest) = after) (hdot : after.head? ≠ some '.') :
    Reads (readKey (key.toList ++ c :: rest)) ⟨[], key⟩ after := by
  have hpart := readKeyPart_append h hc rest
  have hparts : Reads (readKeyParts (key.toList ++ c :: rest)) ⟨[], key⟩ after := by
    rw [readKeyParts]
    split
    · simp_all
    · rename_i heq
      rw [hpart] at heq
      cases heq
      split
      · rename_i hnext
        rw [← hafter, hnext] at hdot
        exact absurd rfl hdot
      · exact ⟨_, rfl, rfl, hafter⟩
  obtain ⟨parsed, hparsed, hkey, hrest⟩ := hparts
  refine ⟨parsed, ?_, hkey, hrest⟩
  rw [readKey, hparsed]
  simp [Option.filter, hkey, maxDepth]

theorem reads_readPair {gap : Gap} {reader : Reader Value} {pairKey : Key} {start : List Char}
    (hkey : Reads (readKey text) pairKey more) (hequals : gap.skip more = some ('=' :: next))
    (hstart : gap.skip next = some start) (hvalue : Reads (reader start) value rest) :
    Reads (readPair gap reader text) (pairKey, value) rest := by
  obtain ⟨parsedKey, hparsedKey, rfl, rfl⟩ := hkey
  obtain ⟨parsedValue, hparsedValue, rfl, rfl⟩ := hvalue
  rw [readPair, hparsedKey]
  dsimp only
  split
  · rename_i heq
    rw [hequals] at heq
    cases heq
    split
    · simp_all
    · rename_i heq
      rw [hstart] at heq
      cases heq
      rw [hparsedValue]
      exact ⟨_, rfl, rfl, rfl⟩
  · simp_all

/-- A line that begins with no bracket is a pair. -/
theorem reads_readLine_pair {pairKey : Key} (hc : c ≠ '[')
    (h : Reads (readPair .blanks (readValue maxDepth) (c :: text)) (pairKey, value) rest) :
    Reads (readLine (c :: text)) (.pair pairKey value) rest := by
  obtain ⟨pair, hpair, hvalue, rfl⟩ := h
  rw [readLine, hpair]
  · refine ⟨_, rfl, ?_, rfl⟩
    dsimp only
    rw [hvalue]
  · rintro more heq
    exact hc (List.cons.inj heq).1
  · rintro more heq
    exact hc (List.cons.inj heq).1

/-- A written pair is read as a line, up to its end. -/
theorem reads_readLine_pairLine (hkey : IsBareKey key) {written : List Char}
    (hsolid : isBlankChar c = false) (hwritten : written ++ '\n' :: rest = c :: more)
    (hvalue : Reads (readValue maxDepth (c :: more)) value ('\n' :: rest)) :
    Reads (readLine (pairLine key written ++ rest)) (.pair ⟨[], key⟩ value) ('\n' :: rest) := by
  have hline : pairLine key written ++ rest = key.toList ++ ' ' :: '=' :: ' ' :: c :: more := by
    simp [pairLine, ← hwritten]
  have hequals : skipBlanks (' ' :: '=' :: ' ' :: c :: more) = '=' :: ' ' :: c :: more := by
    rw [skipBlanks_space, skipBlanks_solid (by decide)]
  have hstart : skipBlanks (' ' :: c :: more) = c :: more := by
    rw [skipBlanks_space, skipBlanks_solid hsolid]
  have hread := reads_readKey hkey (by decide : isKeyChar ' ' = false) hequals (by simp)
  have hpair : Reads (readPair .blanks (readValue maxDepth) (pairLine key written ++ rest))
      (⟨[], key⟩, value) ('\n' :: rest) := by
    rw [hline]
    exact reads_readPair hread (congrArg some (skipBlanks_solid (by decide) _))
      (congrArg some hstart) hvalue
  obtain ⟨first, others, hfirst, hchar⟩ := hkey.exists_eq_cons
  have hcons : pairLine key written ++ rest =
      first :: (others ++ ' ' :: '=' :: ' ' :: c :: more) := by
    rw [hline, hfirst, List.cons_append]
  rw [hcons] at hpair ⊢
  exact reads_readLine_pair (ne_of_isKeyChar (by decide) hchar) hpair

theorem isBlankChar_of_isKeyChar (h : isKeyChar c = true) : isBlankChar c = false := by
  have hspace : c ≠ ' ' := ne_of_isKeyChar (by decide) h
  have htab : c ≠ '\t' := ne_of_isKeyChar (by decide) h
  simp [isBlankChar, hspace, htab]

theorem reads_readHeaderKey {brackets : Nat} {headerKey : Key}
    (hkey : Reads (readKey (skipBlanks text)) headerKey more)
    (hclosing : skipBlanks more = List.replicate brackets ']' ++ rest) :
    Reads (readHeaderKey brackets text) headerKey rest := by
  obtain ⟨parsed, hparsed, rfl, rfl⟩ := hkey
  have htake : (skipBlanks parsed.rest).take brackets = List.replicate brackets ']' := by
    rw [hclosing, List.take_left' List.length_replicate]
  rw [readHeaderKey, hparsed]
  dsimp only
  rw [if_pos htake]
  refine ⟨_, rfl, rfl, ?_⟩
  dsimp only
  rw [hclosing, List.drop_left' List.length_replicate]

theorem reads_readLine_arrayHeader (h : IsBareKey key) (rest : List Char) :
    Reads (readLine ('[' :: '[' :: (key.toList ++ ']' :: ']' :: rest)))
      (.arrayHeader ⟨[], key⟩) rest := by
  have hclosing : skipBlanks (']' :: ']' :: rest) = ']' :: ']' :: rest :=
    skipBlanks_solid (by decide) _
  have hstart : skipBlanks (key.toList ++ ']' :: ']' :: rest) =
      key.toList ++ ']' :: ']' :: rest := by
    obtain ⟨first, others, hfirst, hchar⟩ := h.exists_eq_cons
    rw [hfirst]
    exact skipBlanks_solid (isBlankChar_of_isKeyChar hchar) _
  have hread := reads_readKey h (by decide : isKeyChar ']' = false) hclosing (by simp)
  have hheader : Reads (readHeaderKey 2 (key.toList ++ ']' :: ']' :: rest)) ⟨[], key⟩ rest := by
    apply reads_readHeaderKey _ hclosing
    rw [hstart]
    exact hread
  obtain ⟨parsed, hparsed, hkey, hrest⟩ := hheader
  rw [readLine, hparsed]
  refine ⟨_, rfl, ?_, hrest⟩
  dsimp only
  rw [hkey]

/-! ## Lines -/

/-- The text after a written line is read as the lines that follow. -/
theorem readLines_line {line : Line} (h : skipFiller text = some (c :: more))
    (hline : Reads (readLine (c :: more)) line ('\n' :: next)) :
    readLines text = (readLines next).map (line :: ·) := by
  obtain ⟨parsed, hparsed, rfl, hrest⟩ := hline
  have hend : skipLineEnd parsed.rest = some next := by
    rw [hrest, skipLineEnd, skipBlanks_solid (by decide)]
    rfl
  rw [readLines]
  split
  · simp_all
  · simp_all
  · rename_i heq
    rw [h] at heq
    cases heq
    rw [hparsed]
    dsimp only
    split
    · simp_all
    · rename_i heq
      rw [hend] at heq
      cases heq
      rfl

theorem readLines_nil : readLines [] = some [] := by
  rw [readLines]
  split
  · rename_i heq
    rw [skipFiller] at heq
    cases heq
  · rfl
  · rename_i heq
    rw [skipFiller] at heq
    cases heq

theorem readLines_pairLine (hkey : IsBareKey key) {written : List Char}
    (hsolid : isBlankChar c = false) (hwritten : written ++ '\n' :: rest = c :: more)
    (hvalue : Reads (readValue maxDepth (c :: more)) value ('\n' :: rest)) :
    readLines (pairLine key written ++ rest) =
      (readLines rest).map (.pair ⟨[], key⟩ value :: ·) := by
  have hline := reads_readLine_pairLine hkey hsolid hwritten hvalue
  obtain ⟨first, others, hfirst, hchar⟩ := hkey.exists_eq_cons
  have hcons : pairLine key written ++ rest =
      first :: (others ++ ([' ', '=', ' '] ++ (written ++ '\n' :: rest))) := by
    simp [pairLine, hfirst]
  have hfirst : IsSolid first :=
    ⟨isBlankChar_of_isKeyChar hchar, ne_of_isKeyChar (by decide) hchar,
      ne_of_isKeyChar (by decide) hchar, ne_of_isKeyChar (by decide) hchar⟩
  rw [hcons] at hline ⊢
  exact readLines_line (skipFiller_solid hfirst _) hline

theorem readLines_stringLine (hkey : IsBareKey key) (string rest : List Char) :
    readLines (pairLine key (quoted string) ++ rest) =
      (readLines rest).map (.pair ⟨[], key⟩ (.string (String.ofList string)) :: ·) := by
  have hvalue := reads_readValue_quoted maxDepth string (by decide : '\n' ≠ '"') (by decide) rest
  obtain ⟨first, others, hquoted, hfirst⟩ := quoted_eq_cons string
  have hsolid : isBlankChar first = false := by
    rcases hfirst with rfl | rfl <;> decide
  have hcons : quoted string ++ '\n' :: rest = first :: (others ++ '\n' :: rest) := by
    rw [hquoted, List.cons_append]
  rw [hcons] at hvalue
  exact readLines_pairLine hkey hsolid hcons hvalue

theorem readLines_arrayLine (hkey : IsBareKey key) (items : List (List Char))
    (rest : List Char) :
    readLines (pairLine key (stringArray items) ++ rest) =
      (readLines rest).map (.pair ⟨[], key⟩ (.array false (stringItems items)) :: ·) := by
  obtain ⟨inner, hcons, hread⟩ := reads_readItems_stringArray 79 items ('\n' :: rest)
  exact readLines_pairLine hkey (by decide) hcons (reads_readValue_array hread)

theorem readLines_numberLine (hkey : IsBareKey key) {n : Nat} (h : isInRange n = true)
    (rest : List Char) :
    readLines (pairLine key (Nat.toDigits 10 n) ++ rest) =
      (readLines rest).map (.pair ⟨[], key⟩ (.integer n) :: ·) := by
  have hvalue := reads_readValue_toDigits maxDepth h rest
  obtain ⟨first, others, hdigits, hfirst⟩ := exists_toDigits_eq_cons n
  have hsolid : isBlankChar first = false := by
    have hspace : first ≠ ' ' := by
      rintro rfl
      exact absurd hfirst (by decide)
    have htab : first ≠ '\t' := by
      rintro rfl
      exact absurd hfirst (by decide)
    simp [isBlankChar, hspace, htab]
  have hcons : Nat.toDigits 10 n ++ '\n' :: rest = first :: (others ++ '\n' :: rest) := by
    rw [hdigits, List.cons_append]
  rw [hcons] at hvalue
  exact readLines_pairLine hkey hsolid hcons hvalue

/-- A header of an array of tables, after an empty line. -/
theorem readLines_arrayHeader (hkey : IsBareKey key) (rest : List Char) :
    readLines ('\n' :: '[' :: '[' :: (key.toList ++ ']' :: ']' :: '\n' :: rest)) =
      (readLines rest).map (.arrayHeader ⟨[], key⟩ :: ·) := by
  apply readLines_line _ (reads_readLine_arrayHeader hkey ('\n' :: rest))
  rw [skipFiller_blank (.inr rfl), skipFiller_solid (by decide)]

end Workspaces.Toml
