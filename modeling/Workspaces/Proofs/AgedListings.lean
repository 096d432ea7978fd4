import Workspaces.Proofs.Ages
import Workspaces.Proofs.CheckedVariants
import Workspaces.Proofs.Recency
import Workspaces.Proofs.UnchangedFiles

/-!
# Listings with ages

A row of a listing ends with the age of the last use, in brackets, and the age can be read
from there whatever stands in front of it.  The rows are in the order of use and told at one
time, so no row names less than one above it.
-/

namespace Workspaces

/-! ## The age in a row -/

/-- What is told in the last brackets of a printed row. -/
def AgeReading.ofRow? (row : String) : Option AgeReading :=
  match splitOn ')' ((splitOn '(' row.toList).getLastD []) with
  | [inside, ending] =>
    match splitOn ' ' inside with
    | last :: used :: words =>
      if last = "last".toList ∧ used = "used".toList ∧ ending = ['\n'] then ofWords? words else none
    | _ => none
  | _ => none

namespace Age

def wordsInRow (age : Age) : List (List Char) := "last".toList :: "used".toList :: age.words

/-- What the brackets hold. -/
def inRow (age : Age) : List Char := joinWith [' '] age.wordsInRow

theorem all_isPlainWord_wordsInRow (age : Age) : age.wordsInRow.all isPlainWord = true := by
  rw [wordsInRow, List.all_cons, List.all_cons, age.all_isPlainWord_words]
  decide

theorem not_mem_inRow {mark : Char} (h : mark.isAlphanum = false) (hblank : mark ≠ ' ')
    (age : Age) : mark ∉ age.inRow := by
  intro hmem
  rcases mem_joinWith hmem with hmem | ⟨word, hword, hmem⟩
  · exact hblank (List.mem_singleton.mp hmem)
  · exact not_mem_of_all_isPlainWord age.all_isPlainWord_wordsInRow h word hword hmem

theorem inRow_eq (age : Age) : age.inRow = "last used ".toList ++ age.text.toList := by
  rw [toList_text]
  cases age <;> rfl

theorem splitOn_inRow (age : Age) : splitOn ' ' age.inRow = age.wordsInRow :=
  splitOn_joinWith (List.cons_ne_nil _ _)
    (not_mem_of_all_isPlainWord age.all_isPlainWord_wordsInRow (by decide))

end Age

/-- The age holds no brackets, so the last ones in the row are those around it. -/
theorem AgeReading.ofRow?_append {row : String} {front : List Char} {age : Age}
    (h : row.toList = front ++ '(' :: (age.inRow ++ [')', '\n'])) :
    ofRow? row = some age.reading := by
  have hinside : '(' ∉ age.inRow := age.not_mem_inRow (by decide) (by decide)
  have hopening : '(' ∉ age.inRow ++ [')', '\n'] := by
    simp [hinside]
  have hlast : (splitOn '(' row.toList).getLastD [] = age.inRow ++ [')', '\n'] := by
    rw [h, splitOn_append_separator, splitOn_of_not_mem hopening, List.getLastD_concat]
  have hclosing : splitOn ')' (age.inRow ++ [')', '\n']) = [age.inRow, ['\n']] :=
    splitOn_append (age.not_mem_inRow (by decide) (by decide)) ['\n']
  simp only [ofRow?, hlast, hclosing, age.splitOn_inRow, Age.wordsInRow, and_self, if_true,
    age.ofWords?_words]

/-- A notice ends with the last line of its message, in colours or without. -/
theorem Notice.exists_toList_textWith {notice : Notice} {front ending : List Char}
    (h : notice.message.toList = front ++ ending) (hending : '\n' ∉ ending)
    (mark unmark : String) :
    ∃ before, (notice.textWith mark unmark).toList = before ++ (ending ++ ['\n']) := by
  obtain ⟨pieces, piece, hsplit⟩ := exists_splitOn_append hending front
  have hlines : ∃ earlier start,
      notice.lines mark.toList unmark.toList = earlier ++ [start ++ ending] := by
    rw [lines, h, hsplit]
    cases pieces with
    | nil =>
        refine ⟨[], mark.toList ++ padLeft labelWidth notice.label.toList ++ unmark.toList ++
          ' ' :: piece, ?_⟩
        simp
    | cons first others =>
        refine ⟨(mark.toList ++ padLeft labelWidth notice.label.toList ++ unmark.toList ++
          ' ' :: first) :: others.map fun line => padLeft labelWidth [] ++ ' ' :: line,
          padLeft labelWidth [] ++ ' ' :: piece, ?_⟩
        simp
  obtain ⟨earlier, start, hlines⟩ := hlines
  refine ⟨earlier.flatMap (· ++ ['\n']) ++ start, ?_⟩
  rw [textWith, String.toList_ofList, hlines]
  simp

theorem Notice.exists_toList_textIn {notice : Notice} {front ending : List Char}
    (h : notice.message.toList = front ++ ending) (hending : '\n' ∉ ending) (colored : Bool) :
    ∃ before, (notice.textIn colored).toList = before ++ (ending ++ ['\n']) := by
  cases colored <;> exact exists_toList_textWith h hending _ _

namespace Workspace

variable (workspace : Workspace) (now : Instant)

theorem toList_whereabouts :
    (workspace.whereabouts now).toList = workspace.path.shown.toList ++ [' '] ++
      '(' :: ((Age.between workspace.lastUsedAt now).inRow ++ [')']) := by
  simp only [whereabouts, String.toList_append, Age.inRow_eq, List.append_assoc]
  rfl

/-- A row that ends with the whereabouts of a workspace tells the age of its last use. -/
theorem ofRow?_of_message {notice : Notice} {front : List Char}
    (h : notice.message.toList = front ++ (workspace.whereabouts now).toList) (colored : Bool) :
    AgeReading.ofRow? (notice.textIn colored) =
      some (Age.between workspace.lastUsedAt now).reading := by
  have hinside : '\n' ∉ (Age.between workspace.lastUsedAt now).inRow :=
    Age.not_mem_inRow (by decide) (by decide) _
  have hending : '\n' ∉ '(' :: ((Age.between workspace.lastUsedAt now).inRow ++ [')']) := by
    simp [hinside]
  rw [toList_whereabouts, ← List.append_assoc] at h
  obtain ⟨before, hbefore⟩ := Notice.exists_toList_textIn h hending colored
  have hrow : (notice.textIn colored).toList =
      before ++ '(' :: ((Age.between workspace.lastUsedAt now).inRow ++ [')', '\n']) := by
    simp [hbefore]
  exact AgeReading.ofRow?_append hrow

theorem ofRow?_row (colored : Bool) :
    AgeReading.ofRow? ((workspace.row now).textIn colored) =
      some (Age.between workspace.lastUsedAt now).reading := by
  have hmessage : (workspace.row now).message.toList =
      (workspace.description ++ "\n").toList ++ (workspace.whereabouts now).toList := by
    rw [row, Notice.listing, String.toList_append]
  exact workspace.ofRow?_of_message now hmessage colored

theorem ofRow?_shortRow (colored : Bool) :
    AgeReading.ofRow? ((workspace.shortRow now).textIn colored) =
      some (Age.between workspace.lastUsedAt now).reading := by
  have hmessage : (workspace.shortRow now).message.toList =
      [] ++ (workspace.whereabouts now).toList := by
    rw [shortRow, Notice.listing, List.nil_append]
  exact workspace.ofRow?_of_message now hmessage colored

end Workspace

/-! ## The order of the ages -/

/-- Printed rows end with ages, and no row names less than one above it. -/
def AgesAscend (rows : List Notice) : Prop :=
  ∃ readings : List AgeReading,
    (∀ colored, rows.map (fun row => AgeReading.ofRow? (row.textIn colored)) = readings.map some) ∧
      (readings.map AgeReading.seconds).Pairwise (· ≤ ·)

/-- The ages of the workspaces can be told without a contradiction.  Universal time shows the time
at which they are told, or no two workspaces were used around a midnight. -/
def AreTellable (workspaces : List Workspace) (now : Instant) : Prop :=
  now.IsUniversal ∨ ∀ earlier ∈ workspaces, ∀ later ∈ workspaces,
    ¬ Instant.AreAroundMidnight earlier.lastUsedAt later.lastUsedAt

section

variable {now : Instant} {workspaces listed : List Workspace}

theorem AreTellable.of_subset (h : AreTellable workspaces now) (hsubset : listed ⊆ workspaces) :
    AreTellable listed now := by
  rcases h with hnow | hapart
  · exact .inl hnow
  · exact .inr fun earlier hearlier later hlater =>
      hapart earlier (hsubset hearlier) later (hsubset hlater)

theorem pairwise_seconds_between (htellable : AreTellable workspaces now)
    (h : AreDescending workspaces)
    (hleap : ∀ workspace ∈ workspaces, workspace.lastUsedAt.isLeap = false) :
    workspaces.Pairwise fun above below =>
      (Age.between above.lastUsedAt now).seconds ≤ (Age.between below.lastUsedAt now).seconds := by
  apply h.imp_of_mem
  intro above below habove hbelow horder
  have hpair : now.IsUniversal ∨
      ¬ Instant.AreAroundMidnight below.lastUsedAt above.lastUsedAt :=
    htellable.imp_right fun hapart => hapart below hbelow above habove
  exact Age.seconds_between_le horder (hleap below hbelow) (hleap above habove) hpair

theorem agesAscend_of_descending {row : Workspace → Notice}
    (hrow : ∀ workspace colored, AgeReading.ofRow? ((row workspace).textIn colored) =
      some (Age.between workspace.lastUsedAt now).reading)
    (htellable : AreTellable workspaces now) (h : AreDescending workspaces)
    (hleap : ∀ workspace ∈ workspaces, workspace.lastUsedAt.isLeap = false) :
    AgesAscend (workspaces.map row) := by
  refine ⟨workspaces.map fun workspace => (Age.between workspace.lastUsedAt now).reading, ?_, ?_⟩
  · intro colored
    simp only [List.map_map, Function.comp_def, hrow]
  · simp only [List.pairwise_map, Age.seconds_reading]
    exact pairwise_seconds_between htellable h hleap

end

theorem Store.workspacesWithTag_eq_ok {store : Store} {tag : String} {tagged : List Workspace}
    (h : store.workspacesWithTag tag = .ok tagged) :
    tagged = store.byRecency.filter fun workspace => tag ∈ workspace.tags := by
  rw [workspacesWithTag] at h
  by_cases htag : tag ∈ store.tags
  · rw [if_pos htag] at h
    exact (Except.ok.inj h).symm
  · rw [if_neg htag] at h
    cases h

/-! ## What is printed -/

/-- The command succeeds and prints the notices. -/
def Command.Tells (command : Command) (machine : Machine) (notices : List Notice) : Prop :=
  ∃ told, (command.run : CommandM Unit).run machine = (.ok (), told) ∧
    told.printed = machine.printed ++ notices.map machine.shown

section

variable {machine : Machine} {session : Session}

/-- The time is asked for once, and all rows are told at it. -/
theorem run_now_forM_tell (row : Instant → Workspace → Notice) (workspaces : List Workspace)
    (machine : Machine) :
    ∃ told, ((do
        let now ← Host.now
        workspaces.forM fun workspace => (row now workspace).tell) : CommandM Unit).run machine =
          (.ok (), told) ∧
      told.printed = machine.printed ++
        (workspaces.map (row (machine.clock machine.readings))).map machine.shown := by
  obtain ⟨told, hrun, -, hprinted⟩ :=
    run_forM_tell (row (machine.clock machine.readings)) workspaces
      { machine with readings := machine.readings + 1 }
  refine ⟨told, (Machine.run_bind_of_ok (run_now machine)).trans hrun, ?_⟩
  rw [hprinted, List.map_map]
  rfl

theorem tells_list (hsession : machine.foundSession = .ok session)
    (h : session.store.byRecency ≠ []) :
    Command.list.Tells machine
      (session.store.byRecency.map (Workspace.row (machine.clock machine.readings))) := by
  rw [Command.Tells, run_command, hsession]
  dsimp only [Command.runIn, Session.listWorkspaces]
  cases hlisted : session.store.byRecency with
  | nil => exact absurd hlisted h
  | cons latest others => exact run_now_forM_tell Workspace.row _ machine

theorem tells_showTag {tag : String} {tagged : List Workspace}
    (hsession : machine.foundSession = .ok session)
    (htagged : session.store.workspacesWithTag tag = .ok tagged) (h : tagged ≠ []) :
    (Command.tags (.display (some tag) none)).Tells machine
      (tagged.map (Workspace.shortRow (machine.clock machine.readings))) := by
  rw [Command.Tells, run_command, hsession]
  dsimp only [Command.runIn, TagCommand.runIn, Session.showTarget, Session.showTag]
  rw [htagged]
  cases tagged with
  | nil => exact absurd rfl h
  | cons latest others => exact run_now_forM_tell Workspace.shortRow _ machine

end

/-- What the text of an age says is a function of the time that has passed, which is accurate
and grows with that time.  So in the listings of all workspaces and of those with a tag, at
any time that is no leap second, no row names less than one above it.  In a leap second that
is, this holds too if it is the last second of a day, or if no two workspaces were used around
a midnight.  These are the rows that the commands print, told at the time of the clock. -/
theorem ages_follow_order_of_use :
    (∃ reading : Nat → AgeReading,
      (∀ earlier later : Instant, earlier.isLeap = false → later.isLeap = false →
        AgeReading.ofText? (Age.between earlier later).text =
          some (reading (Instant.elapsedSeconds earlier later))) ∧
      (∀ elapsed, (reading elapsed).IsAccurate elapsed) ∧
      ∀ elapsed longer, elapsed ≤ longer → (reading elapsed).seconds ≤ (reading longer).seconds) ∧
    (∀ (store : Store) (now : Instant), AreTellable store.workspaces now →
      (∀ workspace ∈ store.workspaces, workspace.lastUsedAt.isLeap = false) →
        AgesAscend (store.byRecency.map (Workspace.row now)) ∧
          ∀ tag tagged, store.workspacesWithTag tag = .ok tagged →
            AgesAscend (tagged.map (Workspace.shortRow now))) ∧
    ∀ (machine : Machine) (session : Session), machine.foundSession = .ok session →
      (session.store.byRecency ≠ [] →
        Command.list.Tells machine
          (session.store.byRecency.map (Workspace.row (machine.clock machine.readings)))) ∧
        ∀ tag tagged, session.store.workspacesWithTag tag = .ok tagged → tagged ≠ [] →
          (Command.tags (.display (some tag) none)).Tells machine
            (tagged.map (Workspace.shortRow (machine.clock machine.readings))) := by
  refine ⟨⟨fun elapsed => (Age.ofSeconds elapsed).reading, ?_, Age.isAccurate_ofSeconds, ?_⟩,
    ?_, ?_⟩
  · intro earlier later hearlier hlater
    rw [Age.ofText?_text, Age.between_eq hearlier (Instant.isUniversal_of_not_leap hlater)]
  · intro elapsed longer h
    rw [Age.seconds_reading, Age.seconds_reading]
    exact Age.seconds_ofSeconds_mono h
  · intro store now htellable hleap
    have hdescending : AreDescending store.byRecency := store.isInOrderOfUse_byRecency.descending
    have hsubset : store.byRecency ⊆ store.workspaces := store.perm_byRecency.subset
    have hlisted : ∀ workspace ∈ store.byRecency, workspace.lastUsedAt.isLeap = false :=
      fun workspace hworkspace => hleap workspace (hsubset hworkspace)
    have htold : AreTellable store.byRecency now := htellable.of_subset hsubset
    refine ⟨agesAscend_of_descending (Workspace.ofRow?_row · now) htold hdescending hlisted, ?_⟩
    intro tag tagged htagged
    obtain rfl := Store.workspacesWithTag_eq_ok htagged
    exact agesAscend_of_descending (Workspace.ofRow?_shortRow · now)
      (htold.of_subset (List.filter_subset_self _)) (hdescending.filter _)
      fun workspace hworkspace => hlisted workspace (List.mem_filter.mp hworkspace).1
  · intro machine session hsession
    exact ⟨tells_list hsession, fun _ _ => tells_showTag hsession⟩

/-- At the beginning of 1970 these were used a year ago, a second less than a year ago, and
are to be used in a minute. -/
def Store.aged : Store :=
  ⟨currentVersion, Names.empty.insert "rust",
    [usedAtSecond (-31536000) "api", usedAtSecond (-31535999) "web", usedAtSecond 60 "cli"]⟩
where
  usedAtSecond (second : Int) (name : String) : Workspace :=
    ⟨name, "", .ofText "/src", .epoch, .epoch, (Instant.ofUnix? second 0).getD .epoch,
      Names.empty.insert "rust"⟩

theorem Store.byRecency_aged :
    aged.byRecency =
      [aged.usedAtSecond 60 "cli", aged.usedAtSecond (-31535999) "web",
        aged.usedAtSecond (-31536000) "api"] := by
  have hapi : AreDescending ([aged.usedAtSecond (-31536000) "api"] ++ []) := by decide
  have hweb : IsInOrderOfUse
      [aged.usedAtSecond (-31535999) "web", aged.usedAtSecond (-31536000) "api"]
      ([aged.usedAtSecond (-31536000) "api", aged.usedAtSecond (-31535999) "web"] ++ []) :=
    hapi.isInOrderOfUse.cons_latest (by decide)
  apply aged.isInOrderOfUse_byRecency.unique
  exact hweb.cons_latest (by decide)

/-- Twelve months fall short of a year, and are named above it. -/
theorem ages_follow_order_of_use_aged :
    (∃ reading : Nat → AgeReading,
      reading 31536000 = .past 1 .year false ∧ (reading 31536000).IsAccurate 31536000) ∧
    AgesAscend (Store.aged.byRecency.map (Workspace.row .epoch)) ∧
    AgesAscend (Store.aged.byRecency.map (Workspace.shortRow .epoch)) ∧
    (Store.aged.byRecency.map (Workspace.row .epoch)).map
        (fun row => AgeReading.ofRow? (row.textIn false)) =
      [some .justNow, some (.past 12 .month true), some (.past 1 .year false)] ∧
    ∃ machine : Machine,
      Command.list.Tells machine (Store.aged.byRecency.map (Workspace.row .epoch)) ∧
        (Command.tags (.display (some "rust") none)).Tells machine
          (Store.aged.byRecency.map (Workspace.shortRow .epoch)) := by
  obtain ⟨text, htext⟩ : ∃ text, Store.aged.text? = some text := ⟨_, rfl⟩
  have hleap : ∀ workspace ∈ Store.aged.workspaces, workspace.lastUsedAt.isLeap = false := by
    decide
  have htagged : Store.aged.workspacesWithTag "rust" = .ok Store.aged.byRecency := by
    rw [Store.workspacesWithTag, if_pos (by decide), Store.byRecency_aged]
    rfl
  have hne : Store.aged.byRecency ≠ [] := by
    rw [Store.byRecency_aged]
    exact List.cons_ne_nil _ _
  obtain ⟨⟨reading, hreading, haccurate, -⟩, hrows, htells⟩ := ages_follow_order_of_use
  obtain ⟨hlisted, hshort⟩ := hrows Store.aged .epoch (.inl (by decide)) hleap
  obtain ⟨hlist, hshow⟩ := htells _ _ (Machine.foundSession_withApi htext)
  refine ⟨⟨reading, ?_, haccurate _⟩, hlisted, hshort "rust" _ htagged, ?_,
    _, hlist hne, hshow "rust" _ htagged hne⟩
  · have hyear := hreading ((Instant.ofUnix? (-31536000) 0).getD .epoch) .epoch rfl rfl
    rw [Age.ofText?_text] at hyear
    exact (Option.some.inj hyear).symm
  · rw [Store.byRecency_aged]
    simp only [List.map_cons, List.map_nil, Workspace.ofRow?_row]
    rfl

/-- One workspace was used as a day began, the other one just before. -/
def Store.overnight : Store :=
  ⟨currentVersion, .empty, [usedAt 0 0 "web", usedAt (-1) 900000000 "api"]⟩
where
  usedAt (second : Int) (nanos : Nat) (name : String) : Workspace :=
    ⟨name, "", .ofText "/src", .epoch, .epoch, (Instant.ofUnix? second nanos).getD .epoch, .empty⟩

/-- A leap second after the first hour of that day. -/
def Instant.earlyLeap : Instant := (ofUnix? 3599 1000000000).getD .epoch

/-- In a leap second that universal time does not show, an hour is told to have passed since the
later use, and less since the earlier one. -/
theorem ages_cross_at_leap_second :
    (∀ workspace ∈ Store.overnight.workspaces,
      [workspace.createdAt, workspace.modifiedAt, workspace.lastUsedAt].all
        fun instant => !instant.isLeap) ∧
    Store.overnight.byRecency.map
        (fun workspace => (Age.between workspace.lastUsedAt Instant.earlyLeap).text) =
      ["1 hour ago", "59 minutes ago"] ∧
    ¬ AgesAscend (Store.overnight.byRecency.map (Workspace.row Instant.earlyLeap)) := by
  have hlisting : Store.overnight.byRecency = Store.overnight.workspaces :=
    Store.overnight.isInOrderOfUse_byRecency.unique (AreDescending.isInOrderOfUse (by decide))
  rw [hlisting]
  refine ⟨by decide, by decide, ?_⟩
  rintro ⟨readings, hreadings, hascend⟩
  have hages : (Store.overnight.workspaces.map fun workspace =>
      (Age.between workspace.lastUsedAt Instant.earlyLeap).reading) = readings := by
    have hplain := hreadings false
    simp only [List.map_map, Function.comp_def, Workspace.ofRow?_row] at hplain
    apply List.map_injective_iff.mpr (Option.some_injective _)
    rw [← hplain, List.map_map]
    rfl
  rw [← hages] at hascend
  revert hascend
  decide

end Workspaces
