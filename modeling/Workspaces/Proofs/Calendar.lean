import Workspaces.Instant.Date

/-!
# Days and dates

The calendar is counted from the first of March: in a cycle of four hundred years
come centuries, in a century groups of four years, and each group and each cycle
ends with its leap day.  Every day has these coordinates, and the date that is
told for a day is read off them.  Telling the date of a day and counting the days
up to it undo each other, and the date is always one of the calendar.
-/

namespace Workspaces.Date

/-- A day by its place in the count of years that begin in March. -/
structure Place where
  cycle : Int
  century : Nat
  quad : Nat
  year : Nat
  /-- The day of the year, counted from the first of March. -/
  day : Nat

/-- The years that end with a leap day are the last of their group, and of the last
groups of the centuries only the last of the cycle. -/
structure Place.IsProper (place : Place) : Prop where
  century_le : place.century ≤ 3
  quad_le : place.quad ≤ 24
  year_le : place.year ≤ 3
  day_le : place.day ≤ 365
  leap : place.day = 365 → place.year = 3 ∧ (place.quad = 24 → place.century = 3)

def Place.marchYear (place : Place) : Int :=
  place.cycle * 400 + (100 * place.century + 4 * place.quad + place.year : Nat)

/-- The day that a place stands for, counted from the beginning of March of year 0. -/
def Place.marchDays (place : Place) : Int :=
  place.cycle * 146097 +
    (36524 * place.century + 1461 * place.quad + 365 * place.year + place.day : Nat)

/-- The month of a place, counted from March. -/
def Place.month (place : Place) : Nat := (5 * place.day + 2) / 153

def Place.dayOfMonth (place : Place) : Nat := place.day - (153 * place.month + 2) / 5 + 1

def Place.date (place : Place) : Date :=
  if place.month < 10 then ⟨place.marchYear, place.month + 3, place.dayOfMonth⟩
  else ⟨place.marchYear + 1, place.month - 9, place.dayOfMonth⟩

theorem exists_place (days : Int) :
    ∃ place : Place, place.IsProper ∧ place.marchDays = days + epochOffset ∧
      ofDays days = place.date := by
  have hcycle : (days + epochOffset) % 146097 = ((days + epochOffset) % 146097).toNat := by
    omega
  have hdayOfCycle : ((days + epochOffset) % 146097).toNat < 146097 := by
    omega
  refine ⟨⟨(days + epochOffset) / 146097, _, _, _, _⟩, ⟨?_, ?_, ?_, ?_, ?_⟩, ?_, rfl⟩
  all_goals
    simp only [Place.marchDays]
    generalize ((days + epochOffset) % 146097).toNat = dayOfCycle at hcycle hdayOfCycle ⊢
    omega

variable {place : Place}

theorem Place.IsProper.month_le (h : place.IsProper) : place.month ≤ 11 := by
  have hday := h.day_le
  unfold Place.month
  omega

/-- The days before a month and the day in it make the day of the year. -/
theorem Place.days_before_month (place : Place) :
    (153 * place.month + 2) / 5 + place.dayOfMonth = place.day + 1 := by
  unfold Place.dayOfMonth Place.month
  omega

theorem toDays_of_march (year : Int) {month : Nat} (hmonth : month ≤ 11) (day : Nat) :
    toDays (if month < 10 then ⟨year, month + 3, day⟩ else ⟨year + 1, month - 9, day⟩) =
      year / 400 * 146097 + year % 400 * 365 + year % 400 / 4 - year % 400 / 100 +
        ((153 * month + 2) / 5 + day - 1) - epochOffset := by
  by_cases h : month < 10
  · have hlate : ¬ month + 3 ≤ 2 := by omega
    rw [if_pos h]
    simp only [toDays, if_neg hlate, Nat.add_sub_cancel]
  · have hearly : month - 9 ≤ 2 := by omega
    have hback : month - 9 + 9 = month := by omega
    rw [if_neg h]
    simp only [toDays, if_pos hearly, hback, Int.add_sub_cancel]

theorem Place.IsProper.toDays_date (h : place.IsProper) :
    place.date.toDays = place.marchDays - epochOffset := by
  have hcentury := h.century_le
  have hquad := h.quad_le
  have hyear := h.year_le
  have hday := place.days_before_month
  have hcycle : place.marchYear / 400 = place.cycle := by
    unfold Place.marchYear
    omega
  have hyearOfCycle : place.marchYear % 400 =
      (100 * place.century + 4 * place.quad + place.year : Nat) := by
    unfold Place.marchYear
    omega
  rw [Place.date, toDays_of_march _ h.month_le, hcycle, hyearOfCycle, Place.marchDays]
  omega

/-- A year that ends in its last month with a leap day is a leap year. -/
theorem Place.IsProper.isLeapYear (h : place.IsProper) (hday : place.day = 365) :
    Date.isLeapYear (place.marchYear + 1) = true := by
  have hcentury := h.century_le
  have hquad := h.quad_le
  obtain ⟨hyear, hlast⟩ := h.leap hday
  have hfour : (place.marchYear + 1) % 4 = 0 := by
    unfold Place.marchYear
    omega
  have hhundred : (place.marchYear + 1) % 100 = 0 → (place.marchYear + 1) % 400 = 0 := by
    unfold Place.marchYear
    omega
  by_cases hcount : (place.marchYear + 1) % 100 = 0
  · simp [Date.isLeapYear, hfour, hcount, hhundred hcount]
  · simp [Date.isLeapYear, hfour, hcount]

theorem Place.day_date (place : Place) : place.date.day = place.dayOfMonth := by
  unfold Place.date
  split <;> rfl

theorem Place.IsProper.isValid_date (h : place.IsProper) : place.date.isValid = true := by
  have hmonth := h.month_le
  have hday := h.day_le
  have hdays := place.days_before_month
  have hpos : 1 ≤ place.dayOfMonth := by
    unfold Place.dayOfMonth
    omega
  have hlength : place.dayOfMonth ≤ daysInMonth place.date.year place.date.month := by
    have hdef : place.month = (5 * place.day + 2) / 153 := rfl
    unfold Place.date
    split
    · rename_i hlate
      dsimp only
      unfold daysInMonth
      split
      · omega
      split <;> omega
    · rename_i hearly
      dsimp only
      unfold daysInMonth
      split
      · by_cases hleap : place.day = 365
        · rw [if_pos (h.isLeapYear hleap)]
          omega
        · split <;> omega
      split <;> omega
  unfold isValid
  simp only [Bool.and_eq_true, decide_eq_true_eq, place.day_date]
  refine ⟨⟨⟨?_, ?_⟩, hpos⟩, hlength⟩
  all_goals
    unfold Place.date
    split <;> dsimp only <;> omega

theorem toDays_ofDays (days : Int) : (ofDays days).toDays = days := by
  obtain ⟨place, hproper, hdays, hdate⟩ := exists_place days
  rw [hdate, hproper.toDays_date, hdays]
  omega

theorem isValid_ofDays (days : Int) : (ofDays days).isValid = true := by
  obtain ⟨place, hproper, _, hdate⟩ := exists_place days
  rw [hdate]
  exact hproper.isValid_date

end Workspaces.Date
