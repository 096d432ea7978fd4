import Workspaces.Proofs.ScriptReading

/-!
# Quoted words

In double quotes a value is read back whole, and what a backslash quotes there is
told by the value alone.  In single quotes a text is read back as one word of which
every character is quoted, before whatever may end a word.  A line of a script is a
list of such words, so the lines that name the workspace and the variant, the lines
that set aliases and the echo commands say the texts they were made from.
-/

namespace Workspaces

namespace Shell

/-! ## Double quotes -/

theorem getElem?_activeQuoted (text : List Char) (place : Nat) :
    (activeQuoted text)[place]? =
      text[place]?.map fun c => (c, isActive c (text.drop (place + 1))) := by
  induction text generalizing place with
  | nil =>
      rfl
  | cons c text ih =>
      cases place with
      | zero =>
          rfl
      | succ place =>
          exact ih place

theorem activeQuoted_getElem?_eq_some_iff {text : List Char} {place : Nat} {c : Char}
    {quoted : Bool} :
    (activeQuoted text)[place]? = some (c, quoted) ↔
      text[place]? = some c ∧ isActive c (text.drop (place + 1)) = quoted := by
  rw [getElem?_activeQuoted, Option.map_eq_some_iff]
  constructor
  · rintro ⟨_, hplace, hc⟩
    cases hc
    exact ⟨hplace, rfl⟩
  · rintro ⟨hplace, rfl⟩
    exact ⟨c, hplace, rfl⟩

/-- A value in double quotes is read back to its last character, and what is quoted in
it is every quote, backslash and backquote and every dollar before a parenthesis.  So
the dollars that act are those that stand before anything else, and no backquote does. -/
theorem quoteExpanding_quotes_exactly (value : String) :
    ∃ (inner : List Char) (word : List WordChar),
      (quoteExpanding value).toList = '"' :: inner ∧
      (∀ following, readDoubleQuotes (inner ++ following) = some (word, following)) ∧
      word.map Prod.fst = value.toList ∧
      (∀ (place : Nat) (c : Char), word[place]? = some (c, true) ↔
        value.toList[place]? = some c ∧
          (c = '"' ∨ c = '\\' ∨ c = '`' ∨
            c = '$' ∧ value.toList[place + 1]? = some '(')) ∧
      (∀ place : Nat, word[place]? = some ('$', false) ↔
        value.toList[place]? = some '$' ∧ value.toList[place + 1]? ≠ some '(') ∧
      ∀ place : Nat, word[place]? ≠ some ('`', false) := by
  refine ⟨escapeActive value.toList ++ ['"'], activeQuoted value.toList,
    toList_quoteExpanding value, ?_, map_fst_activeQuoted value.toList, ?_, ?_, ?_⟩
  · intro following
    rw [List.append_assoc, List.singleton_append, readDoubleQuotes_escapeActive]
  · intro place c
    rw [activeQuoted_getElem?_eq_some_iff, isActive_iff, List.head?_drop]
  · intro place
    rw [activeQuoted_getElem?_eq_some_iff, ← Bool.not_eq_true, isActive_iff, List.head?_drop]
    simp
  · intro place hplace
    have hactive := (activeQuoted_getElem?_eq_some_iff.mp hplace).2
    simp [isActive] at hactive

/-! ## Single quotes -/

/-- A text that stands outside quotes. -/
def unquoted (text : String) : List WordChar :=
  text.toList.map fun c => (c, false)

/-- Outside quotes the character stands for itself and ends no word. -/
def IsInert (c : Char) : Prop :=
  c ≠ '\'' ∧ c ≠ '\\' ∧ endsWord c = false

instance (c : Char) : Decidable (IsInert c) :=
  inferInstanceAs (Decidable (_ ∧ _))

theorem readWord_of_ends {following : List Char} (h : ∀ c ∈ following.head?, endsWord c = true) :
    readWord false following = some ([], following) := by
  cases following with
  | nil =>
      rfl
  | cons c following =>
      have hc : endsWord c = true := h c rfl
      have hquote : c ≠ '\'' := by
        rintro rfl
        exact absurd hc (by decide)
      have hescape : c ≠ '\\' := by
        rintro rfl
        exact absurd hc (by decide)
      rw [readWord.eq_def]
      split <;> simp_all

theorem readWord_inert {c : Char} (h : IsInert c) (text : List Char) :
    readWord false (c :: text) =
      (readWord false text).map fun (word, rest) => ((c, false) :: word, rest) := by
  obtain ⟨hquote, hescape, hends⟩ := h
  rw [readWord.eq_def]
  split <;> simp_all

theorem readWord_unquoted_append {start : String} (h : ∀ c ∈ start.toList, IsInert c)
    {text rest : List Char} {word : List WordChar}
    (htext : readWord false text = some (word, rest)) :
    readWord false (start.toList ++ text) = some (unquoted start ++ word, rest) := by
  unfold unquoted
  generalize start.toList = chars at h ⊢
  induction chars with
  | nil =>
      exact htext
  | cons c chars ih =>
      obtain ⟨hc, hchars⟩ := List.forall_mem_cons.mp h
      rw [List.cons_append, readWord_inert hc, ih hchars]
      rfl

theorem quote_injective : Function.Injective quote := by
  intro text other h
  have hread : ofSingleQuotes? (quote text).toList = ofSingleQuotes? (quote other).toList := by
    rw [h]
  rw [ofSingleQuotes?_quote, ofSingleQuotes?_quote] at hread
  exact Option.some.inj hread

/-! ## The words of a line -/

theorem exists_of_map_cons {item : WordChar} {result : Option (List WordChar × List Char)}
    {word : List WordChar} {rest : List Char}
    (h : (result.map fun (word, rest) => (item :: word, rest)) = some (word, rest)) :
    ∃ read, result = some (read, rest) := by
  obtain ⟨⟨read, left⟩, hresult, hpair⟩ := Option.map_eq_some_iff.mp h
  cases hpair
  exact ⟨read, hresult⟩

theorem length_readWord {inside : Bool} {text rest : List Char} {word : List WordChar}
    (h : readWord inside text = some (word, rest)) : rest.length ≤ text.length := by
  fun_induction readWord inside text generalizing word with
  | case1 =>
      cases h
      exact Nat.le_refl _
  | case2 =>
      cases h
  | case3 text ih =>
      exact Nat.le_succ_of_le (ih h)
  | case4 c text _ ih =>
      obtain ⟨read, hread⟩ := exists_of_map_cons h
      exact Nat.le_succ_of_le (ih hread)
  | case5 text ih =>
      exact Nat.le_succ_of_le (ih h)
  | case6 c text ih =>
      obtain ⟨read, hread⟩ := exists_of_map_cons h
      exact Nat.le_succ_of_le (Nat.le_succ_of_le (ih hread))
  | case7 c text =>
      cases h
      exact Nat.le_refl _
  | case8 c text _ _ _ ih =>
      obtain ⟨read, hread⟩ := exists_of_map_cons h
      exact Nat.le_succ_of_le (ih hread)

theorem length_readWord_lt {c : Char} (hc : endsWord c = false) {text rest : List Char}
    {word : List WordChar} (h : readWord false (c :: text) = some (word, rest)) :
    rest.length < (c :: text).length := by
  rw [List.length_cons, Nat.lt_succ_iff]
  by_cases hquote : c = '\''
  · subst hquote
    rw [readWord] at h
    exact length_readWord h
  · by_cases hescape : c = '\\'
    · subst hescape
      cases text with
      | nil =>
          cases h
          exact Nat.le_refl _
      | cons escaped text =>
          rw [readWord] at h
          obtain ⟨read, hread⟩ := exists_of_map_cons h
          exact Nat.le_succ_of_le (length_readWord hread)
    · rw [readWord_inert ⟨hquote, hescape, hc⟩] at h
      obtain ⟨read, hread⟩ := exists_of_map_cons h
      exact length_readWord hread

/-- The words of a line, and the text after its end. -/
def readWords : List Char → Option (List (List WordChar) × List Char)
  | [] => some ([], [])
  | c :: text =>
    if c = '\n' then some ([], text)
    else if endsWord c then readWords text
    else
      match _ : readWord false (c :: text) with
      | none => none
      | some (word, rest) =>
        (readWords rest).map fun (words, following) => (word :: words, following)
termination_by text => text.length
decreasing_by
  · exact Nat.lt_succ_self _
  · exact length_readWord_lt (Bool.eq_false_iff.mpr ‹_›) ‹_›

theorem readWords_blank {c : Char} (hc : endsWord c = true) (hline : c ≠ '\n')
    (text : List Char) : readWords (c :: text) = readWords text := by
  rw [readWords, if_neg hline, if_pos hc]

/-- A word that takes something from a line is the first of its words. -/
theorem readWords_of_readWord {text rest : List Char} {word : List WordChar}
    (hword : readWord false text = some (word, rest)) (hlength : rest.length < text.length) :
    readWords text =
      (readWords rest).map fun (words, following) => (word :: words, following) := by
  cases text with
  | nil =>
      exact absurd hlength (Nat.not_lt_zero _)
  | cons c text =>
      have hends : ¬ endsWord c = true := by
        intro hc
        have hstay : readWord false (c :: text) = some ([], c :: text) :=
          readWord_of_ends (by simpa using hc)
        rw [hstay] at hword
        cases hword
        exact Nat.lt_irrefl _ hlength
      have hline : c ≠ '\n' := by
        rintro rfl
        exact hends rfl
      rw [readWords, if_neg hline, if_neg hends]
      split
      · rename_i hnone
        rw [hword] at hnone
        cases hnone
      · rename_i hread
        rw [hword] at hread
        cases hread
        rfl

theorem readWords_command {command : String} (hcommand : ∀ c ∈ command.toList, IsInert c)
    (hname : command ≠ "") (text : List Char) :
    readWords (command.toList ++ ' ' :: text) =
      (readWords text).map fun (words, following) => (unquoted command :: words, following) := by
  have hblank : readWord false (' ' :: text) = some ([], ' ' :: text) :=
    readWord_of_ends (by simp [endsWord])
  have hword := readWord_unquoted_append hcommand hblank
  have hlength : 0 < command.toList.length := by
    rw [List.length_pos_iff]
    simpa using hname
  rw [readWords_of_readWord hword (by simp; omega), readWords_blank rfl (by decide),
    List.append_nil]

/-- A command and a quoted text, which may have a start outside the quotes, are the two
words of a line. -/
theorem readWords_quoteLine {command start : String} (hcommand : ∀ c ∈ command.toList, IsInert c)
    (hname : command ≠ "") (hstart : ∀ c ∈ start.toList, IsInert c)
    (text : String) (following : List Char) :
    readWords ((command ++ " " ++ start ++ quote text).toList ++ '\n' :: following) =
      some ([unquoted command, unquoted start ++ allQuoted text.toList], following) := by
  have hline : (command ++ " " ++ start ++ quote text).toList ++ '\n' :: following =
      command.toList ++ ' ' :: (start.toList ++ (quoteChars text.toList ++
        '\n' :: following)) := by
    simp [quote]
  have hquote : readWord false (quoteChars text.toList ++ '\n' :: following) =
      some (allQuoted text.toList, '\n' :: following) :=
    readWord_quoteChars text.toList rfl
  have hargument := readWord_unquoted_append hstart hquote
  rw [hline, readWords_command hcommand hname,
    readWords_of_readWord hargument (by simp [quoteChars]; omega), readWords, if_pos rfl]
  rfl

end Shell

namespace Script

open Shell Desktopfile

/-- A line of a script has these words and no more, whatever the lines after it hold. -/
def LineReads (script : Script) (number : Nat) (words : List (List WordChar)) : Prop :=
  ∃ line, script.lines[number]? = some line ∧
    ∀ following, readWords (line.toList ++ '\n' :: following) = some (words, following)

theorem lineReads_quote {script : Script} {number : Nat} {command start text : String}
    (hline : script.lines[number]? = some (command ++ " " ++ start ++ quote text))
    (hcommand : ∀ c ∈ command.toList, IsInert c) (hname : command ≠ "")
    (hstart : ∀ c ∈ start.toList, IsInert c) :
    LineReads script number [unquoted command, unquoted start ++ allQuoted text.toList] :=
  ⟨_, hline, readWords_quoteLine hcommand hname hstart text⟩

theorem isInert_of_isNameChar {c : Char} (h : IsNameChar c) : IsInert c := by
  have hescape : c ≠ '\\' := by
    rintro rfl
    revert h
    unfold IsNameChar IsLetterOrUnderscore IsDigit IsAliasMark
    decide
  have hquote : c ≠ '\'' := by
    rintro rfl
    exact h.not_active (by simp)
  have hends : endsWord c = false := by
    rw [Bool.eq_false_iff]
    intro hends
    have hblank := h.isBlank_eq_false
    simp only [endsWord, Bool.or_eq_true, decide_eq_true_eq] at hends
    rcases hends with (rfl | rfl) | rfl <;> exact absurd hblank (by decide)
  exact ⟨hquote, hescape, hends⟩

theorem isInert_of_isNameChar_equals {name : String} (h : ∀ c ∈ name.toList, IsNameChar c) :
    ∀ c ∈ (name ++ "=").toList, IsInert c := by
  intro c hc
  rw [String.toList_append, List.mem_append] at hc
  rcases hc with hc | hc
  · exact isInert_of_isNameChar (h c hc)
  · obtain rfl : c = '=' := by simpa using hc
    decide

variable {configuration : Configuration} {workspace variant : String} {place : Nat}

theorem getElem?_append_add {α : Type} {first : List α} {count : Nat} (h : first.length = count)
    (second : List α) (place : Nat) : (first ++ second)[count + place]? = second[place]? := by
  subst h
  rw [List.getElem?_append_right (Nat.le_add_right _ _), Nat.add_sub_cancel_left]

theorem lines_render_variables (place : Nat) :
    (render configuration workspace variant).lines[preambleLength + place]? =
      (configuration.exports.toList.map variableLine ++
        (configuration.aliases.toList.map aliasLine ++ configuration.commands))[place]? := by
  rw [lines_render_sections]
  exact getElem?_append_add rfl _ place

theorem lines_render_aliases (place : Nat) :
    (render configuration workspace variant).lines[
        preambleLength + configuration.exports.size + place]? =
      (configuration.aliases.toList.map aliasLine ++ configuration.commands)[place]? := by
  rw [Nat.add_assoc, lines_render_variables]
  exact getElem?_append_add (List.length_map _) _ place

theorem lines_render_commands (place : Nat) :
    (render configuration workspace variant).lines[
        preambleLength + configuration.exports.size + configuration.aliases.size + place]? =
      configuration.commands[place]? := by
  rw [Nat.add_assoc, lines_render_aliases]
  exact getElem?_append_add (List.length_map _) _ place

theorem lineReads_names (configuration : Configuration) (workspace variant : String) :
    LineReads (render configuration workspace variant) startupFiles.length
        [unquoted "export", unquoted "DESKTOP_WORKSPACE=" ++ allQuoted workspace.toList] ∧
      LineReads (render configuration workspace variant) (startupFiles.length + 1)
        [unquoted "export", unquoted "DESKTOP_CONFIGURATION=" ++ allQuoted variant.toList] := by
  constructor
  · apply lineReads_quote
    · rfl
    all_goals simp [IsInert, endsWord]
  · apply lineReads_quote
    · rfl
    all_goals simp [IsInert, endsWord]

theorem lineReads_alias {name expansion : String} (hname : AliasName name)
    (h : configuration.aliases.toList[place]? = some (name, expansion)) :
    LineReads (render configuration workspace variant)
      (preambleLength + configuration.exports.size + place)
      [unquoted "alias", unquoted (name ++ "=") ++ allQuoted expansion.toList] := by
  obtain ⟨hplace, _⟩ := List.getElem?_eq_some_iff.mp h
  apply lineReads_quote
  · rw [lines_render_aliases, List.getElem?_append_left (by simpa using hplace),
      List.getElem?_map, h, Option.map_some, aliasLine]
    simp only [String.append_assoc]
    rfl
  · simp [IsInert, endsWord]
  · decide
  · exact isInert_of_isNameChar_equals hname.isNameChar

theorem lineReads_echo {message : String}
    (h : configuration.commands[place]? = some ("echo " ++ quote message)) :
    LineReads (render configuration workspace variant)
      (preambleLength + configuration.exports.size + configuration.aliases.size + place)
      [unquoted "echo", allQuoted message.toList] := by
  have hline : "echo " ++ quote message = "echo" ++ " " ++ "" ++ quote message := by
    rw [String.append_empty]
    rfl
  exact lineReads_quote ((lines_render_commands place).trans (hline ▸ h))
    (by simp [IsInert, endsWord]) (by decide) (by simp)

theorem commands_echo {platform : Platform} {body earlier later : List Statement}
    {position : Position} {message : String}
    (h : flattenBody platform body = earlier ++ .echo position message :: later) :
    (Configuration.ofFlattened platform body).commands[
        (earlier.filterMap Statement.command?).length]? = some ("echo " ++ quote message) := by
  have hcommands := (Configuration.describes_foldl_extend (flattenBody platform body)).commands
  rw [Configuration.ofFlattened, hcommands, h, List.filterMap_append]
  exact getElem?_append_add rfl _ 0

/-- A quoted text is read as one word that has its characters, all of them quoted, before
whatever may end a word.  So no two texts are quoted alike, and the lines of a script
that name the workspace and the variant, set an alias or echo a message have the words
that they were made from, whatever is in them. -/
theorem quote_reads_verbatim :
    (∀ (text : String) (following : List Char),
      (∀ c ∈ following.head?, endsWord c = true) →
        readWord false ((quote text).toList ++ following) =
          some (allQuoted text.toList, following)) ∧
    Function.Injective quote ∧
    (∀ (configuration : Configuration) (workspace variant : String),
      LineReads (render configuration workspace variant) startupFiles.length
          [unquoted "export", unquoted "DESKTOP_WORKSPACE=" ++ allQuoted workspace.toList] ∧
        LineReads (render configuration workspace variant) (startupFiles.length + 1)
          [unquoted "export", unquoted "DESKTOP_CONFIGURATION=" ++ allQuoted variant.toList]) ∧
    (∀ configuration : Configuration, configuration.IsEvaluated →
      ∀ (place : Nat) (name expansion : String),
        configuration.aliases.toList[place]? = some (name, expansion) →
          ∀ workspace variant, LineReads (render configuration workspace variant)
            (preambleLength + configuration.exports.size + place)
            [unquoted "alias", unquoted (name ++ "=") ++ allQuoted expansion.toList]) ∧
    ∀ (platform : Platform) (origin source : String) (document : Document)
      (environment : Environment), Document.parse origin source = .ok document →
      Environment.evaluate platform origin source = .ok environment →
      ∀ before declared after, document.variants = before ++ declared :: after →
        (∀ later ∈ after, later.name ≠ declared.name) →
          ∃ configuration, environment.get? declared.name = some configuration ∧
            ∀ earlier position message later,
              flattenBody platform declared.body =
                  earlier ++ .echo position message :: later →
                ∀ workspace variant, LineReads (render configuration workspace variant)
                  (preambleLength + configuration.exports.size + configuration.aliases.size +
                    (earlier.filterMap Statement.command?).length)
                  [unquoted "echo", allQuoted message.toList] := by
  refine ⟨?_, quote_injective, lineReads_names, ?_, ?_⟩
  · intro text following h
    rw [quote, String.toList_ofList]
    exact readWord_quoteChars text.toList (readWord_of_ends h)
  · intro configuration hevaluated place name expansion hplace workspace variant
    have hname : AliasName name :=
      hevaluated.namesAliases name (List.mem_map_of_mem (List.mem_of_getElem? hplace))
    exact lineReads_alias hname hplace
  · intro platform origin source document environment hparse hevaluate before declared after
      hvariants hlast
    refine ⟨.ofFlattened platform declared.body, ?_, ?_⟩
    · rw [Environment.evaluate_eq hparse] at hevaluate
      split at hevaluate
      · cases hevaluate
      · cases hevaluate
        rw [hvariants]
        exact Environment.get?_foldl_declare_last before declared hlast .empty
    · intro earlier position message later hbody workspace variant
      exact lineReads_echo (commands_echo hbody)

/-- The expansion and the message hold single quotes. -/
theorem quote_reads_single_quotes :
    ∃ configuration : Configuration,
      LineReads (render configuration "w" "v") 8
          [unquoted "alias", unquoted "g=" ++ allQuoted ['i', 't', '\'', 's']] ∧
        LineReads (render configuration "w" "v") 9 [unquoted "echo", allQuoted ['\'']] := by
  have htokens : tokenize "configuration :v do alias 'g', 'it\\'s'; echo '\\'' end" =
      .ok ⟨[⟨.word "configuration", ⟨1, 1⟩⟩, ⟨.symbol "v", ⟨1, 15⟩⟩, ⟨.word "do", ⟨1, 18⟩⟩,
        ⟨.word "alias", ⟨1, 21⟩⟩, ⟨.string "g", ⟨1, 27⟩⟩, ⟨.comma, ⟨1, 30⟩⟩,
        ⟨.string "it's", ⟨1, 32⟩⟩, ⟨.semicolon, ⟨1, 39⟩⟩, ⟨.word "echo", ⟨1, 41⟩⟩,
        ⟨.string "'", ⟨1, 46⟩⟩, ⟨.word "end", ⟨1, 51⟩⟩], ⟨1, 54⟩⟩ := by
    cbv
  have halias := Grammar.Derives.setAlias ⟨1, 21⟩ "alias" (.inr rfl)
    (.bare (.more ⟨1, 30⟩ (.string "g" ⟨1, 27⟩) Grammar.newlines_nil
      (.single (.string "it's" ⟨1, 32⟩))))
  have hecho := Grammar.Derives.echo ⟨1, 41⟩ (.bare (.single (.string "'" ⟨1, 46⟩)))
  have hgap : Grammar.Separators [⟨.semicolon, ⟨1, 39⟩⟩] :=
    Grammar.separators_cons.mpr ⟨rfl, Grammar.separators_nil⟩
  have hbody := Grammar.Derives.fullBody Grammar.separators_nil
    (.separated halias hgap (by simp) (.single hecho)) Grammar.separators_nil
  have hvariants := Grammar.Variants.cons
    (.mk ⟨1, 1⟩ (.bare (.single (.symbol "v" ⟨1, 15⟩))) (.doEnd ⟨1, 18⟩ ⟨1, 51⟩ hbody))
    Grammar.separators_nil .nil
  have hparse : Document.parse "D" "configuration :v do alias 'g', 'it\\'s'; echo '\\'' end" =
      .ok ⟨[⟨⟨1, 1⟩, "v", [.setAlias ⟨1, 21⟩ "g" "it's", .echo ⟨1, 41⟩ "'"]⟩]⟩ :=
    Grammar.parse_eq_ok_iff.mpr ⟨_, htokens, [], _, rfl, Grammar.separators_nil, hvariants⟩
  have hevaluate := Environment.evaluate_eq hparse .linux
  obtain ⟨-, -, -, haliases, hechoes⟩ := quote_reads_verbatim
  obtain ⟨configuration, hget, hmessages⟩ := hechoes .linux "D" _ _ _ hparse hevaluate [] _ []
    rfl (by simp)
  cases hget
  refine ⟨_, haliases _ ⟨.linux, "D", _, _, "v", hevaluate, rfl⟩ 0 "g" "it's" rfl "w" "v", ?_⟩
  exact hmessages [.setAlias ⟨1, 21⟩ "g" "it's"] ⟨1, 41⟩ "'" [] rfl "w" "v"

end Script

end Workspaces
