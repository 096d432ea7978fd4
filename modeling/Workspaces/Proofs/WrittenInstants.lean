import Workspaces.Instant.Text
import Workspaces.Proofs.Calendar

/-!
# Instants read back

The text of an instant holds its date, its time of day and its nanoseconds as
numbers with fixed marks between them.  Every number is read up to the mark after
it, so the parts are read back one by one, and put together they are the instant
itself, leap seconds and years outside 0 to 9999 included.
-/

namespace Workspaces

/-! ## Numbers -/

theorem isDigit_of_mem_paddedDecimal {width n : Nat} {c : Char}
    (h : c ∈ paddedDecimal width n) : c.isDigit = true := by
  rcases List.mem_append.mp h with h | h
  · rw [(List.mem_replicate.mp h).2]
    decide
  · exact Nat.isDigit_of_mem_toDigits (by decide) (by decide) h

theorem paddedDecimal_ne_nil (width n : Nat) : paddedDecimal width n ≠ [] := by
  intro h
  have hpos : 0 < (Nat.toDigits 10 n).length := Nat.length_toDigits_pos
  rw [(List.append_eq_nil_iff.mp h).2] at hpos
  exact absurd hpos (by decide)

theorem length_paddedDecimal {width n : Nat} (h : (Nat.toDigits 10 n).length ≤ width) :
    (paddedDecimal width n).length = width := by
  simp only [paddedDecimal, List.length_append, List.length_replicate]
  omega

namespace Instant

theorem ofDecimal_eq (digits : List Char) : ofDecimal digits = Nat.ofDigitChars 10 digits 0 := by
  have hstep : (fun (value : Nat) (digit : Char) => value * 10 + (digit.toNat - '0'.toNat)) =
      fun value digit => 10 * value + (digit.toNat - '0'.toNat) := by
    funext value digit
    rw [Nat.mul_comm]
  rw [ofDecimal, hstep]
  rfl

theorem ofDecimal_paddedDecimal (width n : Nat) : ofDecimal (paddedDecimal width n) = n := by
  rw [ofDecimal_eq, paddedDecimal, Nat.ofDigitChars_append, Nat.ofDigitChars_replicate_zero,
    Nat.mul_zero, Nat.ofDigitChars_toDigits (by decide) (by decide)]

theorem takeWhile_isDigit_append {digits rest : List Char}
    (hdigits : ∀ c ∈ digits, c.isDigit = true)
    (hrest : ∀ c, rest.head? = some c → c.isDigit = false) :
    (digits ++ rest).takeWhile Char.isDigit = digits := by
  rw [List.takeWhile_append_of_pos hdigits]
  cases rest with
  | nil =>
      rw [List.takeWhile_nil, List.append_nil]
  | cons c rest =>
      rw [List.takeWhile_cons_of_neg (by simp [hrest c rfl]), List.append_nil]

theorem readDigits_append {digits rest : List Char} {most : Nat} (hne : digits ≠ [])
    (hdigits : ∀ c ∈ digits, c.isDigit = true) (hmost : digits.length ≤ most)
    (hrest : ∀ c, rest.head? = some c → c.isDigit = false) :
    readDigits most (digits ++ rest) = some (ofDecimal digits, rest) := by
  have htake : ((digits ++ rest).takeWhile Char.isDigit).take most = digits := by
    rw [takeWhile_isDigit_append hdigits hrest, List.take_of_length_le hmost]
  simp only [readDigits, htake, if_neg hne, List.drop_left]

theorem skipBlanks_of_not_blank {c : Char} (h : isBlank c = false) (text : List Char) :
    skipBlanks (c :: text) = c :: text :=
  List.dropWhile_cons_of_neg (by simp [h])

theorem isBlank_of_isDigit {c : Char} (h : c.isDigit = true) : isBlank c = false := by
  have hrange : 48 ≤ c.toNat ∧ c.toNat ≤ 57 := by
    simpa [Char.isDigit, UInt32.le_iff_toNat_le] using h
  simp [isBlank, CodeRanges.contains, blankRanges]
  omega

theorem exists_paddedDecimal_eq_cons (width n : Nat) :
    ∃ c digits, paddedDecimal width n = c :: digits ∧ c.isDigit = true := by
  cases hdigits : paddedDecimal width n with
  | nil =>
      exact absurd hdigits (paddedDecimal_ne_nil width n)
  | cons c digits =>
      have hc : c ∈ paddedDecimal width n := by
        simp [hdigits]
      exact ⟨c, digits, rfl, isDigit_of_mem_paddedDecimal hc⟩

theorem skipBlanks_paddedDecimal (width n : Nat) (rest : List Char) :
    skipBlanks (paddedDecimal width n ++ rest) = paddedDecimal width n ++ rest := by
  obtain ⟨c, digits, hdigits, hc⟩ := exists_paddedDecimal_eq_cons width n
  rw [hdigits]
  exact skipBlanks_of_not_blank (isBlank_of_isDigit hc) _

theorem readNumber_paddedDecimal {n : Nat} (h : n < 100) {rest : List Char}
    (hrest : ∀ c, rest.head? = some c → c.isDigit = false) :
    readNumber (paddedDecimal 2 n ++ rest) = some (n, rest) := by
  have hlength : (paddedDecimal 2 n).length = 2 :=
    length_paddedDecimal ((Nat.length_toDigits_le_iff (by decide) (by decide)).mpr h)
  rw [readNumber, skipBlanks_paddedDecimal, readDigits_append (paddedDecimal_ne_nil 2 n)
    (fun c => isDigit_of_mem_paddedDecimal) (Nat.le_of_eq hlength) hrest, ofDecimal_paddedDecimal]

theorem skipMark_cons {mark : Char} (h : isBlank mark = false) (rest : List Char) :
    skipMark mark (mark :: rest) = some rest := by
  rw [skipMark, skipBlanks_of_not_blank h]
  exact if_pos rfl

theorem readYear_of_isDigit {c : Char} (h : c.isDigit = true) (text : List Char) :
    readYear (c :: text) =
      (readDigits 4 (c :: text)).map fun (year, rest) => ((year : Int), rest) := by
  rw [readYear, skipBlanks_of_not_blank (isBlank_of_isDigit h)]
  split
  · rename_i heq
    cases heq
    exact absurd h (by decide)
  · rename_i heq
    cases heq
    exact absurd h (by decide)
  · rfl

theorem readYear_minus (digits : List Char) :
    readYear ('-' :: digits) =
      (readDigits digits.length digits).map fun (year, rest) => (-(year : Int), rest) := by
  rw [readYear, skipBlanks_of_not_blank (by decide)]
  rfl

theorem readYear_plus (digits : List Char) :
    readYear ('+' :: digits) =
      (readDigits digits.length digits).map fun (year, rest) => ((year : Int), rest) := by
  rw [readYear, skipBlanks_of_not_blank (by decide)]
  rfl

theorem readYear_yearText (year : Int) (rest : List Char) :
    readYear (yearText year ++ '-' :: rest) = some (year, '-' :: rest) := by
  have hmark : ∀ c, ('-' :: rest).head? = some c → c.isDigit = false := by
    rintro c hc
    cases hc
    decide
  have hread {most : Nat} (size : Nat) (hmost : (paddedDecimal 4 size).length ≤ most) :
      readDigits most (paddedDecimal 4 size ++ '-' :: rest) = some (size, '-' :: rest) := by
    rw [readDigits_append (paddedDecimal_ne_nil 4 size) (fun c => isDigit_of_mem_paddedDecimal)
      hmost hmark, ofDecimal_paddedDecimal]
  have hlong (size : Nat) :
      (paddedDecimal 4 size).length ≤ (paddedDecimal 4 size ++ '-' :: rest).length := by
    simp
  unfold yearText
  split
  · rename_i hyear
    have hlength : (paddedDecimal 4 year.toNat).length = 4 :=
      length_paddedDecimal ((Nat.length_toDigits_le_iff (by decide) (by decide)).mpr (by omega))
    have hsize := hread year.toNat (Nat.le_of_eq hlength)
    obtain ⟨c, digits, hdigits, hc⟩ := exists_paddedDecimal_eq_cons 4 year.toNat
    rw [hdigits, List.cons_append] at hsize ⊢
    rw [readYear_of_isDigit hc, hsize, Option.map_some]
    dsimp only
    rw [Int.toNat_of_nonneg hyear.1]
  · split
    · rename_i hyear
      have habs : -(year.natAbs : Int) = year := by
        omega
      rw [List.cons_append, readYear_minus, hread year.natAbs (hlong year.natAbs),
        Option.map_some]
      dsimp only
      rw [habs]
    · rename_i hyear
      have habs : (year.natAbs : Int) = year := by
        omega
      rw [List.cons_append, readYear_plus, hread year.natAbs (hlong year.natAbs),
        Option.map_some]
      dsimp only
      rw [habs]

/-! ## Dates and times -/

/-- A mark that stands between numbers. -/
theorem head?_mark_not_isDigit {mark : Char} (h : mark.isDigit = false) (rest : List Char) :
    ∀ c, (mark :: rest).head? = some c → c.isDigit = false := by
  rintro c hc
  cases hc
  exact h

theorem readDate_append {date : Date} (hmonth : date.month < 100) (hday : date.day < 100)
    {mark : Char} (hmark : mark.isDigit = false) (rest : List Char) :
    readDate (yearText date.year ++ '-' :: (paddedDecimal 2 date.month ++
      '-' :: (paddedDecimal 2 date.day ++ mark :: rest))) = some (date, mark :: rest) := by
  have hfirst := readNumber_paddedDecimal hmonth
    (head?_mark_not_isDigit (by decide : ('-').isDigit = false)
      (paddedDecimal 2 date.day ++ mark :: rest))
  have hsecond := readNumber_paddedDecimal hday (head?_mark_not_isDigit hmark rest)
  simp only [readDate, readYear_yearText, Option.bind_eq_bind, Option.bind_some,
    skipMark_cons (by decide : isBlank '-' = false), hfirst, hsecond]
  rfl

theorem readFraction_fractionText {nanos : Nat} (h : nanos < nanosPerSecond) :
    readFraction (fractionText nanos ++ ['Z']) = some (nanos, ['Z']) := by
  have hend := head?_mark_not_isDigit (by decide : ('Z').isDigit = false) []
  have hread (width n zeros : Nat) (hlength : (Nat.toDigits 10 n).length ≤ width)
      (hwidth : width + zeros = 9) :
      readFraction ('.' :: paddedDecimal width n ++ ['Z']) = some (10 ^ zeros * n, ['Z']) := by
    have htake : (paddedDecimal width n ++ ['Z']).takeWhile Char.isDigit =
        paddedDecimal width n :=
      takeWhile_isDigit_append (fun c => isDigit_of_mem_paddedDecimal) hend
    have hnine : (paddedDecimal width n ++ List.replicate 9 '0').take 9 =
        paddedDecimal width n ++ List.replicate zeros '0' := by
      rw [List.take_append, List.take_of_length_le (by rw [length_paddedDecimal hlength]; omega),
        length_paddedDecimal hlength, List.take_replicate]
      congr 2
      omega
    have hzeros : ofDecimal (paddedDecimal width n ++ List.replicate zeros '0') =
        10 ^ zeros * n := by
      rw [ofDecimal_eq, Nat.ofDigitChars_append, Nat.ofDigitChars_replicate_zero, ← ofDecimal_eq,
        ofDecimal_paddedDecimal]
    simp only [readFraction, List.cons_append, htake, if_neg (paddedDecimal_ne_nil width n),
      List.drop_left, ofFraction, hnine, hzeros]
  have hlength (width n : Nat) (hwidth : 0 < width) (hn : n < 10 ^ width) :
      (Nat.toDigits 10 n).length ≤ width :=
    (Nat.length_toDigits_le_iff (by decide) hwidth).mpr hn
  unfold nanosPerSecond at h
  unfold fractionText
  split
  · rename_i hzero
    rw [hzero]
    rfl
  split
  · rename_i hmilli
    rw [hread 3 _ 6 (hlength 3 _ (by decide) (by omega)) rfl]
    congr 2
    omega
  split
  · rename_i hmicro
    rw [hread 6 _ 3 (hlength 6 _ (by decide) (by omega)) rfl]
    congr 2
    omega
  · rw [hread 9 _ 0 (hlength 9 _ (by decide) (by omega)) rfl, Nat.pow_zero, Nat.one_mul]

theorem readTime_append {time : TimeOfDay} (hhour : time.hour < 100) (hminute : time.minute < 100)
    (hsecond : time.second < 100) (hnanos : time.nanos < nanosPerSecond) :
    readTime (paddedDecimal 2 time.hour ++ ':' :: (paddedDecimal 2 time.minute ++
      ':' :: (paddedDecimal 2 time.second ++ (fractionText time.nanos ++ ['Z'])))) =
        some (time, ['Z']) := by
  have hcolon (rest : List Char) := head?_mark_not_isDigit (by decide : (':').isDigit = false) rest
  have hfraction : ∀ c, (fractionText time.nanos ++ ['Z']).head? = some c → c.isDigit = false := by
    unfold fractionText
    split
    · exact head?_mark_not_isDigit (by decide) []
    split
    · exact head?_mark_not_isDigit (by decide) _
    split
    · exact head?_mark_not_isDigit (by decide) _
    · exact head?_mark_not_isDigit (by decide) _
  simp only [readTime, Option.bind_eq_bind, Option.bind_some,
    skipMark_cons (by decide : isBlank ':' = false), readNumber_paddedDecimal hhour (hcolon _),
    readNumber_paddedDecimal hminute (hcolon _), readNumber_paddedDecimal hsecond hfraction,
    readFraction_fractionText hnanos]
  rfl

theorem readZone_utc : readZone ['Z'] = some (0, []) := by
  decide

/-! ## Instants -/

/-- The time of day of an instant; a leap second is second 60. -/
def timeOfDay (instant : Instant) : TimeOfDay where
  hour := instant.secondOfDay.toNat / 3600
  minute := instant.secondOfDay.toNat / 60 % 60
  second := instant.secondOfDay.toNat % 60 + instant.nanos / nanosPerSecond
  nanos := instant.nanos % nanosPerSecond

def date (instant : Instant) : Date := Date.ofDays (instant.seconds / 86400)

theorem chars_eq (instant : Instant) :
    instant.chars = yearText instant.date.year ++ '-' :: (paddedDecimal 2 instant.date.month ++
      '-' :: (paddedDecimal 2 instant.date.day ++ 'T' ::
        (paddedDecimal 2 instant.timeOfDay.hour ++ ':' :: (paddedDecimal 2 instant.timeOfDay.minute ++
          ':' :: (paddedDecimal 2 instant.timeOfDay.second ++
            (fractionText instant.timeOfDay.nanos ++ ['Z'])))))) := by
  simp [chars, date, timeOfDay]

/-- A second that is written as second 60 is a leap second. -/
theorem second_eq (instant : Instant) :
    instant.timeOfDay.second ≤ 60 ∧
      min instant.timeOfDay.second 59 = instant.secondOfDay.toNat % 60 ∧
      instant.timeOfDay.nanos +
        (instant.timeOfDay.second - instant.secondOfDay.toNat % 60) * nanosPerSecond =
          instant.nanos := by
  have hleap := instant.leap_at_end
  have hnanos := instant.nanos_lt
  unfold nanosPerSecond at hleap hnanos
  simp only [timeOfDay, secondOfDay, nanosPerSecond]
  omega

theorem ofLocal?_date_timeOfDay (instant : Instant) :
    ofLocal? instant.date instant.timeOfDay 0 = some instant := by
  obtain ⟨hsecond, hmin, hnanos⟩ := instant.second_eq
  have hvalid : instant.date.isValid = true := Date.isValid_ofDays _
  have hhour : instant.timeOfDay.hour ≤ 23 := by
    simp only [timeOfDay, secondOfDay]
    omega
  have hminute : instant.timeOfDay.minute ≤ 59 := by
    simp only [timeOfDay]
    omega
  have hdays : instant.date.toDays = instant.seconds / 86400 := Date.toDays_ofDays _
  have hseconds : instant.seconds / 86400 * 86400 +
      (instant.timeOfDay.hour * 3600 + instant.timeOfDay.minute * 60 +
        instant.secondOfDay.toNat % 60 : Nat) = instant.seconds := by
    simp only [timeOfDay, secondOfDay]
    omega
  have hunix : ofUnix? instant.seconds instant.nanos = some instant :=
    dif_pos ⟨instant.in_range, instant.nanos_lt, instant.leap_at_end⟩
  rw [ofLocal?, if_pos ⟨hvalid, hhour, hminute, hsecond⟩]
  simp only [hmin, hnanos, hdays, hseconds, hunix, Int.sub_zero]

/-- The text of an instant tells the instant. -/
theorem ofChars?_chars (instant : Instant) : ofChars? instant.chars = some instant := by
  have hvalid : instant.date.isValid = true := Date.isValid_ofDays _
  obtain ⟨hmonth, hday⟩ : instant.date.month < 100 ∧ instant.date.day < 100 := by
    have hbounds : ((1 ≤ instant.date.month ∧ instant.date.month ≤ 12) ∧ 1 ≤ instant.date.day) ∧
        instant.date.day ≤ Date.daysInMonth instant.date.year instant.date.month := by
      simpa [Date.isValid] using hvalid
    have hlength : Date.daysInMonth instant.date.year instant.date.month ≤ 31 := by
      unfold Date.daysInMonth
      split
      · split <;> decide
      split <;> decide
    omega
  have hhour : instant.timeOfDay.hour < 100 := by
    simp only [timeOfDay, secondOfDay]
    omega
  have hminute : instant.timeOfDay.minute < 100 := by
    simp only [timeOfDay]
    omega
  have hsecond : instant.timeOfDay.second < 100 :=
    Nat.lt_of_le_of_lt instant.second_eq.1 (by decide)
  have hnanos : instant.timeOfDay.nanos < nanosPerSecond :=
    Nat.mod_lt _ (by decide)
  have hdate := readDate_append hmonth hday (by decide : ('T').isDigit = false)
    (paddedDecimal 2 instant.timeOfDay.hour ++ ':' :: (paddedDecimal 2 instant.timeOfDay.minute ++
      ':' :: (paddedDecimal 2 instant.timeOfDay.second ++
        (fractionText instant.timeOfDay.nanos ++ ['Z']))))
  have htime := readTime_append hhour hminute hsecond hnanos
  have hend : skipBlanks [] = [] := rfl
  simp only [ofChars?, chars_eq, hdate, htime, readZone_utc, hend, Option.bind_eq_bind,
    Option.bind_some, true_or, if_true, ofLocal?_date_timeOfDay]

theorem ofText?_ofList_chars (instant : Instant) :
    ofText? (String.ofList instant.chars) = some instant := by
  rw [ofText?, String.toList_ofList, ofChars?_chars]

end Instant

end Workspaces
