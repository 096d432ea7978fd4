import Workspaces.Age
import Workspaces.Text.Split

/-!
# What ages say

The text of an age is read back as a count of a unit.  The time that it names falls short of
the time that has passed by less than one of that unit.  The unit is the largest one that fits,
so a time that fills a larger unit is told by at least one of it, and a time that does not is
shorter than that.  This is why an age never names less for a longer time.
-/

namespace Workspaces

/-! ## Reading an age -/

/-- What a text says of an age. -/
inductive AgeReading where
  | justNow
  /-- So many of a unit, which is named in the singular or in the plural, rightly or not. -/
  | past (count : Nat) (unit : AgeUnit) (isPlural : Bool)
deriving DecidableEq, Repr

/-- A word of letters and digits. -/
def isPlainWord (word : List Char) : Bool := word.all Char.isAlphanum

theorem not_mem_of_all_isPlainWord {words : List (List Char)} {mark : Char}
    (h : words.all isPlainWord = true) (hmark : mark.isAlphanum = false) :
    ∀ word ∈ words, mark ∉ word := by
  intro word hword hmem
  have hplain : isPlainWord word = true := List.all_eq_true.mp h word hword
  rw [List.all_eq_true.mp hplain mark hmem] at hmark
  cases hmark

namespace AgeUnit

def all : List AgeUnit := [minute, hour, day, month, year]

def noun (unit : AgeUnit) (isPlural : Bool) : List Char :=
  if isPlural then unit.name.toList ++ ['s'] else unit.name.toList

/-- The unit that a word names, and whether it names it in the plural. -/
def ofNoun? (word : List Char) : Option (AgeUnit × Bool) :=
  all.findSome? fun unit =>
    if word = unit.noun false then some (unit, false)
    else if word = unit.noun true then some (unit, true)
    else none

theorem ofNoun?_noun (unit : AgeUnit) (isPlural : Bool) :
    ofNoun? (unit.noun isPlural) = some (unit, isPlural) := by
  cases unit <;> cases isPlural <;> decide

theorem isPlainWord_noun (unit : AgeUnit) (isPlural : Bool) :
    isPlainWord (unit.noun isPlural) = true := by
  cases unit <;> cases isPlural <;> decide

end AgeUnit

namespace AgeReading

def ofCount? (word : List Char) : Option Nat :=
  if word ≠ [] ∧ word.all Char.isDigit then some (Nat.ofDigitChars 10 word 0) else none

def ofWords? : List (List Char) → Option AgeReading
  | [first, second] =>
    if first = "just".toList ∧ second = "now".toList then some justNow else none
  | [count, noun, direction] =>
    if direction = "ago".toList then
      match ofCount? count, AgeUnit.ofNoun? noun with
      | some count, some (unit, isPlural) => some (past count unit isPlural)
      | _, _ => none
    else none
  | _ => none

/-- What a text says, read word by word. -/
def ofText? (text : String) : Option AgeReading := ofWords? (splitOn ' ' text.toList)

/-- The time that is named. -/
def seconds : AgeReading → Nat
  | justNow => 0
  | past count unit _ => count * unit.seconds

/-- The time that may have passed besides: less than one of the unit, or less than a minute. -/
def precision : AgeReading → Nat
  | justNow => AgeUnit.minute.seconds
  | past _ unit _ => unit.seconds

/-- A reading is right for a time that has passed: the count is the one that fits, there is
something to count, and the unit is in the singular if there is one of it. -/
structure IsAccurate (reading : AgeReading) (elapsed : Nat) : Prop where
  seconds_le : reading.seconds ≤ elapsed
  lt_seconds_add : elapsed < reading.seconds + reading.precision
  count_pos : ∀ count unit isPlural, reading = past count unit isPlural → 1 ≤ count
  singular_iff : ∀ count unit isPlural, reading = past count unit isPlural →
    (isPlural = false ↔ count = 1)

theorem ofCount?_toDigits (count : Nat) : ofCount? (Nat.toDigits 10 count) = some count := by
  have hdigits : (Nat.toDigits 10 count).all Char.isDigit = true :=
    List.all_eq_true.mpr fun c => Nat.isDigit_of_mem_toDigits (by decide) (by decide)
  rw [ofCount?, if_pos ⟨Nat.toDigits_ne_nil, hdigits⟩, Nat.ofDigitChars_ten_toDigits]

end AgeReading

namespace Age

/-- What the text of an age is to be read as. -/
def reading : Age → AgeReading
  | justNow => .justNow
  | past count unit => .past count unit (count ≠ 1)

theorem seconds_reading (age : Age) : age.reading.seconds = age.seconds := by
  cases age <;> rfl

/-- The words of an age. -/
def words : Age → List (List Char)
  | justNow => ["just".toList, "now".toList]
  | past count unit => [Nat.toDigits 10 count, unit.noun (count ≠ 1), "ago".toList]

theorem toList_text (age : Age) : age.text.toList = joinWith [' '] age.words := by
  cases age with
  | justNow => decide
  | past count unit =>
      by_cases hone : count = 1
      · rw [text, if_pos hone, hone]
        cases unit <;> decide
      · rw [text, if_neg hone]
        simp [words, joinWith, AgeUnit.noun, hone, Nat.toString_eq_repr, Nat.toList_repr]

theorem all_isPlainWord_words (age : Age) : age.words.all isPlainWord = true := by
  cases age with
  | justNow => decide
  | past count unit =>
      have hcount : isPlainWord (Nat.toDigits 10 count) = true := by
        apply List.all_eq_true.mpr
        intro c hc
        simp [Char.isAlphanum, Nat.isDigit_of_mem_toDigits (by decide) (by decide) hc]
      rw [words, List.all_cons, List.all_cons, hcount, unit.isPlainWord_noun]
      decide

theorem splitOn_text (age : Age) : splitOn ' ' age.text.toList = age.words := by
  rw [toList_text]
  apply splitOn_joinWith
  · cases age <;> exact List.cons_ne_nil _ _
  · exact not_mem_of_all_isPlainWord age.all_isPlainWord_words (by decide)

theorem ofWords?_words (age : Age) : AgeReading.ofWords? age.words = some age.reading := by
  cases age with
  | justNow => decide
  | past count unit =>
      simp only [words, AgeReading.ofWords?, if_true, AgeReading.ofCount?_toDigits,
        AgeUnit.ofNoun?_noun, reading]

theorem ofText?_text (age : Age) : AgeReading.ofText? age.text = some age.reading := by
  rw [AgeReading.ofText?, splitOn_text, ofWords?_words]

end Age

/-! ## The unit that fits -/

namespace AgeUnit

variable {elapsed : Nat}

theorem seconds_pos (unit : AgeUnit) : 0 < unit.seconds := by
  cases unit <;> decide

/-- The unit of an age fits into it. -/
theorem seconds_fitting_le (h : 60 ≤ elapsed) : (fitting elapsed).seconds ≤ elapsed := by
  fun_cases fitting elapsed <;> simp only [seconds] <;> omega

theorem div_fitting_pos (h : 60 ≤ elapsed) : 0 < elapsed / (fitting elapsed).seconds :=
  Nat.div_pos (seconds_fitting_le h) (seconds_pos _)

/-- No larger unit fits. -/
theorem seconds_le_seconds_fitting {unit : AgeUnit} (h : unit.seconds ≤ elapsed) :
    unit.seconds ≤ (fitting elapsed).seconds := by
  fun_cases fitting elapsed <;> cases unit <;> simp only [seconds] at h ⊢ <;> omega

end AgeUnit

namespace Age

/-! ## The time that is named -/

variable {elapsed longer : Nat}

theorem ofSeconds_of_lt (h : elapsed < 60) : ofSeconds elapsed = justNow := by
  rw [ofSeconds, if_pos (by omega)]

theorem ofSeconds_of_le (h : 60 ≤ elapsed) :
    ofSeconds elapsed =
      past (elapsed / (AgeUnit.fitting elapsed).seconds) (AgeUnit.fitting elapsed) := by
  rw [ofSeconds, if_neg (by omega)]
  rfl

theorem seconds_ofSeconds_of_le (h : 60 ≤ elapsed) :
    (ofSeconds elapsed).seconds =
      elapsed / (AgeUnit.fitting elapsed).seconds * (AgeUnit.fitting elapsed).seconds := by
  rw [ofSeconds_of_le h]
  rfl

theorem isAccurate_ofSeconds (elapsed : Nat) : (ofSeconds elapsed).reading.IsAccurate elapsed := by
  rcases Nat.lt_or_ge elapsed 60 with h | h
  · rw [ofSeconds_of_lt h]
    exact {
      seconds_le := Nat.zero_le _
      lt_seconds_add := h
      count_pos := by rintro count unit isPlural ⟨⟩
      singular_iff := by rintro count unit isPlural ⟨⟩ }
  · rw [ofSeconds_of_le h]
    exact {
      seconds_le := Nat.div_mul_le_self _ _
      lt_seconds_add := Nat.lt_div_mul_add (AgeUnit.seconds_pos _)
      count_pos := by
        rintro count unit isPlural ⟨⟩
        exact AgeUnit.div_fitting_pos h
      singular_iff := by
        rintro count unit isPlural ⟨⟩
        simp }

theorem seconds_ofSeconds_le (elapsed : Nat) : (ofSeconds elapsed).seconds ≤ elapsed := by
  rw [← seconds_reading]
  exact (isAccurate_ofSeconds elapsed).seconds_le

/-- An age names at least one of the unit that fits. -/
theorem seconds_fitting_le_seconds (h : 60 ≤ elapsed) :
    (AgeUnit.fitting elapsed).seconds ≤ (ofSeconds elapsed).seconds := by
  rw [seconds_ofSeconds_of_le h]
  exact Nat.le_mul_of_pos_left _ (AgeUnit.div_fitting_pos h)

/-- An age names no less for a longer time.  If the unit for the longer time fits into the
shorter one too, both are told in it, and otherwise the shorter time is less than one of it. -/
theorem seconds_ofSeconds_mono (h : elapsed ≤ longer) :
    (ofSeconds elapsed).seconds ≤ (ofSeconds longer).seconds := by
  rcases Nat.lt_or_ge elapsed 60 with hshort | hlong
  · rw [ofSeconds_of_lt hshort]
    exact Nat.zero_le _
  have hlonger : 60 ≤ longer := Nat.le_trans hlong h
  rcases Nat.lt_or_ge elapsed (AgeUnit.fitting longer).seconds with hless | hfits
  · calc (ofSeconds elapsed).seconds
        ≤ elapsed := seconds_ofSeconds_le elapsed
      _ ≤ (AgeUnit.fitting longer).seconds := Nat.le_of_lt hless
      _ ≤ (ofSeconds longer).seconds := seconds_fitting_le_seconds hlonger
  · have hsame : (AgeUnit.fitting elapsed).seconds = (AgeUnit.fitting longer).seconds :=
      Nat.le_antisymm
        (AgeUnit.seconds_le_seconds_fitting (Nat.le_trans (AgeUnit.seconds_fitting_le hlong) h))
        (AgeUnit.seconds_le_seconds_fitting hfits)
    rw [seconds_ofSeconds_of_le hlong, seconds_ofSeconds_of_le hlonger, hsame]
    exact Nat.mul_le_mul_right _ (Nat.div_le_div_right h)

end Age

/-! ## The time between instants -/

namespace Instant

variable {earlier later now : Instant}

/-- The nanoseconds from the beginning of 1970. -/
def nanoseconds (instant : Instant) : Int := instant.seconds * nanosPerSecond + instant.nanos

/-- The whole seconds that have passed since an instant, none if it is still to come. -/
def elapsedSeconds (earlier later : Instant) : Nat :=
  ((later.nanoseconds - earlier.nanoseconds) / nanosPerSecond).toNat

/-- Universal time can show the instant: its leap seconds are the last seconds of days.  Instants
allow for a leap second after any minute. -/
def IsUniversal (instant : Instant) : Prop :=
  instant.isLeap = true → instant.secondOfDay = 86399

instance (instant : Instant) : Decidable instant.IsUniversal :=
  inferInstanceAs (Decidable (_ → _))

theorem isUniversal_of_not_leap (h : later.isLeap = false) : later.IsUniversal := by
  intro hleap
  rw [h] at hleap
  cases hleap

/-- Only a leap second at the later instant is taken off, if its time of day is earlier. -/
theorem leapBetween_of_not_leap (hearlier : earlier.isLeap = false) :
    leapBetween earlier later =
      if later.secondOfDay < earlier.secondOfDay ∧ later.isLeap = true then -1 else 0 := by
  rw [leapBetween, if_neg (by simp [hearlier])]

theorem leapBetween_eq_zero (hearlier : earlier.isLeap = false) (hlater : later.IsUniversal) :
    leapBetween earlier later = 0 := by
  have hday : earlier.secondOfDay < 86400 := Int.emod_lt_of_pos _ (by decide)
  have hafter : ¬ (later.secondOfDay < earlier.secondOfDay ∧ later.isLeap = true) := by
    rintro ⟨hlt, hleap⟩
    rw [hlater hleap] at hlt
    omega
  rw [leapBetween_of_not_leap hearlier, if_neg hafter]

theorem secondsBetween_eq (hearlier : earlier.isLeap = false) (hlater : later.IsUniversal) :
    secondsBetween earlier later =
      (later.nanoseconds - earlier.nanoseconds).tdiv nanosPerSecond := by
  rw [secondsBetween, leapBetween_eq_zero hearlier hlater]
  congr 1
  simp only [nanoseconds, nanosPerSecond]
  omega

/-- The earlier instant is in the last second of a day, the later one in the second after it. -/
def AreAroundMidnight (earlier later : Instant) : Prop :=
  later.seconds = earlier.seconds + 1 ∧ later.secondOfDay = 0

/-- If a leap second is taken off for the earlier instant alone, a day has ended between the
two, and they lie more than a second apart unless they are around its end. -/
theorem leapBetween_le (h : earlier ≤ later) (hearlier : earlier.isLeap = false)
    (hlater : later.isLeap = false)
    (hnow : now.IsUniversal ∨ ¬ AreAroundMidnight earlier later) :
    leapBetween later now ≤ leapBetween earlier now ∨
      (leapBetween later now = 0 ∧ leapBetween earlier now = -1 ∧
        earlier.seconds + 2 ≤ later.seconds) := by
  rcases hnow with hnow | hapart
  · rw [leapBetween_eq_zero hearlier hnow, leapBetween_eq_zero hlater hnow]
    exact .inl (Int.le_refl 0)
  · rw [leapBetween_of_not_leap hearlier, leapBetween_of_not_leap hlater]
    by_cases hoff : now.secondOfDay < earlier.secondOfDay ∧ now.isLeap = true
    · rw [if_pos hoff]
      by_cases hboth : now.secondOfDay < later.secondOfDay ∧ now.isLeap = true
      · rw [if_pos hboth]
        exact .inl (Int.le_refl _)
      · rw [if_neg hboth]
        have hwraps : later.secondOfDay < earlier.secondOfDay := by
          have hnot : ¬ now.secondOfDay < later.secondOfDay := fun hlt => hboth ⟨hlt, hoff.2⟩
          omega
        refine .inr ⟨rfl, rfl, ?_⟩
        rw [le_iff] at h
        simp only [AreAroundMidnight, secondOfDay] at hapart hwraps
        omega
    · rw [if_neg hoff]
      refine .inl ?_
      split <;> decide

/-- No more time is told since a later instant. -/
theorem secondsBetween_le (h : earlier ≤ later) (hearlier : earlier.isLeap = false)
    (hlater : later.isLeap = false)
    (hnow : now.IsUniversal ∨ ¬ AreAroundMidnight earlier later) :
    secondsBetween later now ≤ secondsBetween earlier now := by
  have hleap := leapBetween_le h hearlier hlater hnow
  have hnanos : earlier.nanos < nanosPerSecond := by simpa [isLeap] using hearlier
  have hless : later.nanos < nanosPerSecond := by simpa [isLeap] using hlater
  rw [le_iff] at h
  unfold nanosPerSecond at hnanos hless
  apply Int.tdiv_le_tdiv (by decide)
  simp only [nanosPerSecond]
  omega

end Instant

namespace Age

variable {earlier later now : Instant}

/-- The age of an instant is told by the time that has passed since. -/
theorem between_eq (hearlier : earlier.isLeap = false) (hlater : later.IsUniversal) :
    between earlier later = ofSeconds (Instant.elapsedSeconds earlier later) := by
  rw [between, Instant.secondsBetween_eq hearlier hlater, Instant.elapsedSeconds]
  generalize later.nanoseconds - earlier.nanoseconds = nanos
  rcases Int.lt_or_le nanos 0 with hnegative | hpositive
  · have hopposite : 0 ≤ (-nanos).tdiv nanosPerSecond :=
      Int.tdiv_nonneg (by omega) (by decide)
    have hfloor : nanos / (nanosPerSecond : Int) < 0 :=
      Int.ediv_neg_of_neg_of_pos hnegative (by decide)
    rw [Int.neg_tdiv] at hopposite
    rw [ofSeconds, ofSeconds, if_pos (by omega), if_pos (by omega)]
  · rw [Int.tdiv_eq_ediv_of_nonneg hpositive, Int.toNat_of_nonneg]
    exact Int.ediv_nonneg hpositive (by decide)

/-- A time still to come is told as no time. -/
theorem ofSeconds_toNat (seconds : Int) : ofSeconds seconds.toNat = ofSeconds seconds := by
  rcases Int.lt_or_le seconds 60 with h | h
  · rw [ofSeconds, ofSeconds, if_pos (by omega), if_pos h]
  · rw [Int.toNat_of_nonneg (by omega)]

/-- What was used later is told to be no older.  Only in a leap second that universal time does
not show, this can fail for two times of use around midnight. -/
theorem seconds_between_le (h : earlier ≤ later) (hearlier : earlier.isLeap = false)
    (hlater : later.isLeap = false)
    (hnow : now.IsUniversal ∨ ¬ Instant.AreAroundMidnight earlier later) :
    (between later now).seconds ≤ (between earlier now).seconds := by
  have hless := Instant.secondsBetween_le h hearlier hlater hnow
  rw [between, between, ← ofSeconds_toNat (Instant.secondsBetween later now),
    ← ofSeconds_toNat (Instant.secondsBetween earlier now)]
  exact seconds_ofSeconds_mono (Int.toNat_le_toNat hless)

end Age

end Workspaces
