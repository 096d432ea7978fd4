import Workspaces.Proofs.Flattening
import Workspaces.Proofs.ShellWords
import Workspaces.Script
import Workspaces.Text.Blank

/-!
# Reading a script back

A line that gives a value to a name is cut at its first equals sign: what stands
before it is a keyword and the name, what stands after it is a word of the shell.
Given how many lines of each kind there are, a script is read back section by
section, without knowing what it was rendered from.  The script of an evaluated
configuration gives back the configuration and both names, so no two of them
have the same script.
-/

namespace Workspaces

/-- The text that a single word in single quotes stands for. -/
def Shell.ofSingleQuotes? (text : List Char) : Option String :=
  match readWord false text with
  | some (word, []) =>
    if word.all Prod.snd then some (String.ofList (word.map Prod.fst)) else none
  | _ => none

/-- The text in a single word in double quotes, without the backslashes that quote
characters in it. -/
def Shell.ofDoubleQuotes? : List Char → Option String
  | '"' :: text =>
    match readDoubleQuotes text with
    | some (word, []) => some (String.ofList (word.map Prod.fst))
    | _ => none
  | _ => none

theorem Shell.ofSingleQuotes?_quote (text : String) :
    ofSingleQuotes? (quote text).toList = some text := by
  have hquote : (quote text).toList = quoteChars text.toList ++ [] := by
    simp [quote]
  have hread : readWord false (quoteChars text.toList ++ []) = some (allQuoted text.toList, []) :=
    readWord_quoteChars text.toList rfl
  have hall : (allQuoted text.toList).all Prod.snd = true := by
    simp [allQuoted]
  rw [ofSingleQuotes?, hquote, hread]
  simp only [hall, if_true, map_fst_allQuoted, String.ofList_toList]

theorem Shell.ofDoubleQuotes?_quoteExpanding (value : String) :
    ofDoubleQuotes? (quoteExpanding value).toList = some value := by
  rw [toList_quoteExpanding, ofDoubleQuotes?, readDoubleQuotes_escapeActive value.toList []]
  simp only [map_fst_activeQuoted, String.ofList_toList]

namespace Script

/-! ## Assignments -/

/-- The parts of a line before and after its first equals sign. -/
def cutAtEquals? (line : String) : Option (List Char × List Char) :=
  match line.toList.dropWhile (· ≠ '=') with
  | [] => none
  | _ :: word => some (line.toList.takeWhile (· ≠ '='), word)

/-- The name after a keyword. -/
def nameAfter? (keyword : String) (text : List Char) : Option String :=
  if text.take keyword.length = keyword.toList then
    some (String.ofList (text.drop keyword.length))
  else none

/-- The name and the value of a line with a keyword, a name, an equals sign and a word. -/
def assignment? (keyword : String) (value? : List Char → Option String) (line : String) :
    Option (String × String) := do
  let (start, word) ← cutAtEquals? line
  let name ← nameAfter? keyword start
  let value ← value? word
  return (name, value)

theorem cutAtEquals?_append {start : String} (h : '=' ∉ start.toList) (word : String) :
    cutAtEquals? (start ++ "=" ++ word) = some (start.toList, word.toList) := by
  have hstart : ∀ c ∈ start.toList, decide (c ≠ '=') = true := by
    intro c hc
    have hne : c ≠ '=' := fun heq => h (heq ▸ hc)
    simpa using hne
  have hline : (start ++ "=" ++ word).toList = start.toList ++ '=' :: word.toList := by
    simp
  rw [cutAtEquals?, hline, List.dropWhile_append_of_pos hstart,
    List.takeWhile_append_of_pos hstart, List.dropWhile_cons_of_neg (by simp),
    List.takeWhile_cons_of_neg (by simp), List.append_nil]

theorem nameAfter?_append (keyword name : String) :
    nameAfter? keyword (keyword ++ name).toList = some name := by
  have hlength : keyword.length = keyword.toList.length := String.length_toList.symm
  rw [nameAfter?, String.toList_append, hlength, List.take_left, List.drop_left, if_pos rfl,
    String.ofList_toList]

theorem assignment?_line {keyword name : String} {value? : List Char → Option String}
    {word value : String} (hkeyword : '=' ∉ keyword.toList) (hname : '=' ∉ name.toList)
    (hvalue : value? word.toList = some value) :
    assignment? keyword value? (keyword ++ name ++ "=" ++ word) = some (name, value) := by
  have hstart : '=' ∉ (keyword ++ name).toList := by
    rw [String.toList_append, List.mem_append]
    exact not_or.mpr ⟨hkeyword, hname⟩
  rw [assignment?, cutAtEquals?_append hstart]
  simp only [Option.bind_eq_bind, Option.bind_some, nameAfter?_append, hvalue]
  rfl

end Script

/-! ## Names -/

/-- A name that the shell takes as it stands, and for no option. -/
structure IsInertName (name : String) : Prop where
  not_blank : ∀ c ∈ name.toList, isBlank c = false
  not_active : ∀ c ∈ name.toList, c ∉ ['\'', '"', '=', '/', '$', '`']
  not_dash : name.toList.head? ≠ some '-'

/-- A character that may stand in the name of an alias. -/
def IsNameChar (c : Char) : Prop :=
  IsLetterOrUnderscore c ∨ IsDigit c ∨ IsAliasMark c ∨ c = '-'

theorem IsNameChar.ne {c other : Char} (h : IsNameChar c) (hother : ¬ IsNameChar other) :
    c ≠ other := by
  rintro rfl
  exact hother h

theorem IsNameChar.not_active {c : Char} (h : IsNameChar c) :
    c ∉ ['\'', '"', '=', '/', '$', '`'] := by
  have hne (other : Char) (hother : ¬ IsNameChar other) : c ≠ other := h.ne hother
  unfold IsNameChar IsLetterOrUnderscore IsDigit IsAliasMark at hne
  simp only [List.mem_cons, List.not_mem_nil, or_false, not_or]
  exact ⟨hne _ (by decide), hne _ (by decide), hne _ (by decide), hne _ (by decide),
    hne _ (by decide), hne _ (by decide)⟩

/-- The characters of names lie between the blanks. -/
theorem IsNameChar.isBlank_eq_false {c : Char} (h : IsNameChar c) : isBlank c = false := by
  have hrange : 0x21 ≤ c.toNat ∧ c.toNat ≤ 0x7a := by
    rcases h with (h | h | rfl) | h | (rfl | rfl | rfl | rfl | rfl | rfl) | rfl
    · exact ⟨Nat.le_trans (by decide) h.1, Nat.le_trans h.2 (by decide)⟩
    · exact ⟨Nat.le_trans (by decide) h.1, Nat.le_trans h.2 (by decide)⟩
    · decide
    · exact ⟨Nat.le_trans (by decide) h.1, Nat.le_trans h.2 (by decide)⟩
    all_goals decide
  simp [isBlank, CodeRanges.contains, blankRanges]
  omega

theorem Matches.forall_mem {First Other P : Char → Prop} {name : String}
    (h : Matches First Other name) (hfirst : ∀ c, First c → P c) (hother : ∀ c, Other c → P c) :
    ∀ c ∈ name.toList, P c := by
  unfold Matches at h
  cases hname : name.toList with
  | nil =>
      simp
  | cons first others =>
      rw [hname] at h
      rw [List.forall_mem_cons]
      exact ⟨hfirst first h.1, fun c hc => hother c (h.2 c hc)⟩

theorem VariableName.isNameChar {name : String} (h : VariableName name) :
    ∀ c ∈ name.toList, IsNameChar c := by
  refine Matches.forall_mem (P := IsNameChar) h ?_ ?_
  · exact fun c hc => .inl hc
  · exact fun c hc => hc.imp id .inl

theorem AliasName.isNameChar {name : String} (h : AliasName name) :
    ∀ c ∈ name.toList, IsNameChar c := by
  refine Matches.forall_mem (P := IsNameChar) h ?_ ?_
  · intro c hc
    exact hc.imp id fun hc => hc.imp id .inl
  · exact fun c hc => hc

theorem AliasName.isInertName {name : String} (h : AliasName name) : IsInertName name where
  not_blank c hc := (h.isNameChar c hc).isBlank_eq_false
  not_active c hc := (h.isNameChar c hc).not_active
  not_dash := by
    intro hdash
    unfold AliasName Matches at h
    cases hname : name.toList with
    | nil =>
        rw [hname] at h
        exact h
    | cons first others =>
        rw [hname] at h hdash
        cases hdash
        revert h
        unfold IsLetterOrUnderscore IsDigit IsAliasMark
        simp

theorem not_mem_equals {name : String} (h : ∀ c ∈ name.toList, IsNameChar c) :
    '=' ∉ name.toList := by
  intro hequals
  exact (h '=' hequals).not_active (by simp)

namespace Script

/-! ## Sections -/

/-- What a script says, section by section. -/
structure Reading where
  workspace : Option (String × String)
  variant : Option (String × String)
  exports : Option (List (String × String))
  aliases : Option (List (String × String))
  commands : List String

/-- The number of lines before the variables. -/
def preambleLength : Nat := 8

/-- Reads a script in which so many variables and so many aliases are set. -/
def read (variableCount aliasCount : Nat) (script : Script) : Reading where
  workspace := script.lines[5]?.bind (assignment? "export " Shell.ofSingleQuotes?)
  variant := script.lines[6]?.bind (assignment? "export " Shell.ofSingleQuotes?)
  exports := ((script.lines.drop preambleLength).take variableCount).mapM
    (assignment? "export " Shell.ofDoubleQuotes?)
  aliases := ((script.lines.drop (preambleLength + variableCount)).take aliasCount).mapM
    (assignment? "alias " Shell.ofSingleQuotes?)
  commands := script.lines.drop (preambleLength + variableCount + aliasCount)

theorem assignment?_nameLine {key : String} (h : '=' ∉ key.toList) (name : String) :
    assignment? "export " Shell.ofSingleQuotes? (nameLine key name) = some (key, name) :=
  assignment?_line (by decide) h (Shell.ofSingleQuotes?_quote name)

theorem assignment?_variableLine {entry : String × String} (h : VariableName entry.1) :
    assignment? "export " Shell.ofDoubleQuotes? (variableLine entry) = some entry :=
  assignment?_line (by decide) (not_mem_equals h.isNameChar)
    (Shell.ofDoubleQuotes?_quoteExpanding entry.2)

theorem assignment?_aliasLine {entry : String × String} (h : AliasName entry.1) :
    assignment? "alias " Shell.ofSingleQuotes? (aliasLine entry) = some entry :=
  assignment?_line (by decide) (not_mem_equals h.isNameChar)
    (Shell.ofSingleQuotes?_quote entry.2)

theorem mapM_map_eq_some {α β : Type} {read? : β → Option α} {write : α → β} {items : List α}
    (h : ∀ item ∈ items, read? (write item) = some item) :
    (items.map write).mapM read? = some items := by
  induction items with
  | nil =>
      rfl
  | cons item items ih =>
      obtain ⟨hitem, hitems⟩ := List.forall_mem_cons.mp h
      rw [List.map_cons, List.mapM_cons, hitem, ih hitems]
      rfl

variable {configuration : Configuration}

/-- The lines before the variables. -/
def preamble (workspace variant : String) : List String :=
  startupFiles.map sourceLine ++
    [nameLine workspaceVariable workspace, nameLine variantVariable variant, promptLine]

theorem lines_render_sections (configuration : Configuration) (workspace variant : String) :
    (render configuration workspace variant).lines =
      preamble workspace variant ++ (configuration.exports.toList.map variableLine ++
        (configuration.aliases.toList.map aliasLine ++ configuration.commands)) := by
  simp [render, preamble]

theorem mapM_assignment?_variableLines (h : configuration.IsEvaluated) :
    (configuration.exports.toList.map variableLine).mapM
        (assignment? "export " Shell.ofDoubleQuotes?) = some configuration.exports.toList := by
  apply mapM_map_eq_some
  intro entry hentry
  exact assignment?_variableLine (h.exportsVariables entry.1 (List.mem_map_of_mem hentry))

theorem mapM_assignment?_aliasLines (h : configuration.IsEvaluated) :
    (configuration.aliases.toList.map aliasLine).mapM
        (assignment? "alias " Shell.ofSingleQuotes?) = some configuration.aliases.toList := by
  apply mapM_map_eq_some
  intro entry hentry
  exact assignment?_aliasLine (h.namesAliases entry.1 (List.mem_map_of_mem hentry))

/-- A script that has its lines in four sections is read section by section. -/
theorem read_sections {script : Script} {workspace variant : String}
    {exports aliases commands : List String}
    (h : script.lines = preamble workspace variant ++ (exports ++ (aliases ++ commands))) :
    read exports.length aliases.length script =
      ⟨some (workspaceVariable, workspace), some (variantVariable, variant),
        exports.mapM (assignment? "export " Shell.ofDoubleQuotes?),
        aliases.mapM (assignment? "alias " Shell.ofSingleQuotes?), commands⟩ := by
  have hdrop (count : Nat) : script.lines.drop (preambleLength + count) =
      (exports ++ (aliases ++ commands)).drop count := by
    rw [h, ← List.drop_drop]
    rfl
  have hexports : script.lines.drop preambleLength = exports ++ (aliases ++ commands) :=
    hdrop 0
  have haliases : script.lines.drop (preambleLength + exports.length) = aliases ++ commands := by
    rw [hdrop, List.drop_left]
  have hcommands :
      script.lines.drop (preambleLength + exports.length + aliases.length) = commands := by
    rw [← List.drop_drop, haliases, List.drop_left]
  have hworkspace : script.lines[5]? = some (nameLine workspaceVariable workspace) := by
    rw [h]
    rfl
  have hvariant : script.lines[6]? = some (nameLine variantVariable variant) := by
    rw [h]
    rfl
  rw [read, hexports, haliases, hcommands, hworkspace, hvariant, List.take_left,
    List.take_left, Option.bind_some, Option.bind_some, assignment?_nameLine (by decide),
    assignment?_nameLine (by decide)]

theorem read_render (h : configuration.IsEvaluated) (workspace variant : String) :
    read configuration.exports.size configuration.aliases.size
        (render configuration workspace variant) =
      ⟨some (workspaceVariable, workspace), some (variantVariable, variant),
        some configuration.exports.toList, some configuration.aliases.toList,
        configuration.commands⟩ := by
  have hread := read_sections (lines_render_sections configuration workspace variant)
  rw [List.length_map, List.length_map, mapM_assignment?_variableLines h,
    mapM_assignment?_aliasLines h] at hread
  exact hread

/-- The script of an evaluated configuration says what the configuration says: read
section by section it gives back both names, the variables under valid names, the
aliases under names that are inert in a shell, each in increasing order, and the
commands.  With the sizes of the sections known, no other configuration has it. -/
theorem render_says_configuration (h : configuration.IsEvaluated) (workspace variant : String) :
    (render configuration workspace variant).lines.length =
        8 + configuration.exports.size + configuration.aliases.size +
          configuration.commands.length ∧
      read configuration.exports.size configuration.aliases.size
          (render configuration workspace variant) =
        ⟨some ("DESKTOP_WORKSPACE", workspace), some ("DESKTOP_CONFIGURATION", variant),
          some configuration.exports.toList, some configuration.aliases.toList,
          configuration.commands⟩ ∧
      (∀ name ∈ configuration.exports.keys, VariableName name) ∧
      configuration.exports.keys.Pairwise (· < ·) ∧
      (∀ name ∈ configuration.aliases.keys, IsInertName name) ∧
      configuration.aliases.keys.Pairwise (· < ·) ∧
      ∀ other : Configuration, other.IsEvaluated →
        other.exports.size = configuration.exports.size →
        other.aliases.size = configuration.aliases.size →
        ∀ otherWorkspace otherVariant,
          render other otherWorkspace otherVariant = render configuration workspace variant →
            other = configuration ∧ otherWorkspace = workspace ∧ otherVariant = variant := by
  refine ⟨?_, read_render h workspace variant, h.exportsVariables,
    configuration.exports.increasing, ?_, configuration.aliases.increasing, ?_⟩
  · rw [lines_render_sections]
    simp only [List.length_append, List.length_map, Table.size]
    show 8 + _ = _
    omega
  · exact fun name hname => (h.namesAliases name hname).isInertName
  · intro other hother hexports haliases otherWorkspace otherVariant hsame
    have hread := read_render hother otherWorkspace otherVariant
    rw [hexports, haliases, hsame, read_render h workspace variant] at hread
    obtain ⟨exports, aliases, commands⟩ := configuration
    obtain ⟨otherExports, otherAliases, otherCommands⟩ := other
    simp only [Reading.mk.injEq, Option.some.injEq, Prod.mk.injEq, true_and] at hread
    obtain ⟨hworkspace, hvariant, hexports, haliases, hcommands⟩ := hread
    rw [Table.ext hexports, Table.ext haliases, hcommands]
    exact ⟨rfl, hworkspace.symm, hvariant.symm⟩

/-- The value holds an equals sign, a quote and a command, the expansion a single quote. -/
theorem render_says_quotes :
    ∃ configuration : Configuration, configuration.IsEvaluated ∧
      read 1 1 (render configuration "it's" "v") =
        ⟨some ("DESKTOP_WORKSPACE", "it's"), some ("DESKTOP_CONFIGURATION", "v"),
          some [("A", "=\"$(x)")], some [("g", "it's")], []⟩ := by
  have htokens : Desktopfile.tokenize
      "configuration :v do env 'A', '=\"$(x)'; alias 'g', 'it\\'s' end" =
        .ok ⟨[⟨.word "configuration", ⟨1, 1⟩⟩, ⟨.symbol "v", ⟨1, 15⟩⟩, ⟨.word "do", ⟨1, 18⟩⟩,
          ⟨.word "env", ⟨1, 21⟩⟩, ⟨.string "A", ⟨1, 25⟩⟩, ⟨.comma, ⟨1, 28⟩⟩,
          ⟨.string "=\"$(x)", ⟨1, 30⟩⟩, ⟨.semicolon, ⟨1, 38⟩⟩, ⟨.word "alias", ⟨1, 40⟩⟩,
          ⟨.string "g", ⟨1, 46⟩⟩, ⟨.comma, ⟨1, 49⟩⟩, ⟨.string "it's", ⟨1, 51⟩⟩,
          ⟨.word "end", ⟨1, 59⟩⟩], ⟨1, 62⟩⟩ := by
    cbv
  have hvariable := Desktopfile.Grammar.Derives.setVariable ⟨1, 21⟩
    (.bare (.more ⟨1, 28⟩ (.string "A" ⟨1, 25⟩) Desktopfile.Grammar.newlines_nil
      (.single (.string "=\"$(x)" ⟨1, 30⟩))))
  have halias := Desktopfile.Grammar.Derives.setAlias ⟨1, 40⟩ "alias" (.inr rfl)
    (.bare (.more ⟨1, 49⟩ (.string "g" ⟨1, 46⟩) Desktopfile.Grammar.newlines_nil
      (.single (.string "it's" ⟨1, 51⟩))))
  have hgap : Desktopfile.Grammar.Separators [⟨.semicolon, ⟨1, 38⟩⟩] :=
    Desktopfile.Grammar.separators_cons.mpr ⟨rfl, Desktopfile.Grammar.separators_nil⟩
  have hbody := Desktopfile.Grammar.Derives.fullBody Desktopfile.Grammar.separators_nil
    (.separated hvariable hgap (by simp) (.single halias)) Desktopfile.Grammar.separators_nil
  have hvariants := Desktopfile.Grammar.Variants.cons
    (.mk ⟨1, 1⟩ (.bare (.single (.symbol "v" ⟨1, 15⟩))) (.doEnd ⟨1, 18⟩ ⟨1, 59⟩ hbody))
    Desktopfile.Grammar.separators_nil .nil
  have hparse : Desktopfile.Document.parse "D"
      "configuration :v do env 'A', '=\"$(x)'; alias 'g', 'it\\'s' end" =
        .ok ⟨[⟨⟨1, 1⟩, "v", [.setVariable ⟨1, 21⟩ "A" "=\"$(x)",
          .setAlias ⟨1, 40⟩ "g" "it's"]⟩]⟩ :=
    Desktopfile.Grammar.parse_eq_ok_iff.mpr
      ⟨_, htokens, [], _, rfl, Desktopfile.Grammar.separators_nil, hvariants⟩
  have hevaluated : Configuration.IsEvaluated
      ((Configuration.empty.setVariable "A" "=\"$(x)").setAlias "g" "it's") := by
    refine ⟨.linux, "D", _, _, "v", Environment.evaluate_eq hparse .linux, ?_⟩
    rfl
  exact ⟨_, hevaluated, (render_says_configuration hevaluated "it's" "v").2.1⟩

end Script

end Workspaces
