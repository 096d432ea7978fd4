import Workspaces.Instant.Date

/-!
# Instants

A point in time is a second counted from 1970-01-01T00:00:00Z and the
nanoseconds since its beginning.  A leap second has no number of its own: it is
the second billion of nanoseconds of the last second of a minute, so it comes
after that second and before the next minute.
-/

namespace Workspaces

def nanosPerSecond : Nat := 1000000000

structure Instant where
  seconds : Int
  nanos : Nat
  /-- The years from -262143 to 262142 can be told. -/
  in_range : -8334601228800 ≤ seconds ∧ seconds ≤ 8210266876799
  nanos_lt : nanos < 2 * nanosPerSecond
  leap_at_end : nanosPerSecond ≤ nanos → seconds % 60 = 59

namespace Instant

@[ext] theorem ext {a b : Instant} (hs : a.seconds = b.seconds) (hn : a.nanos = b.nanos) :
    a = b := by
  cases a; cases b; cases hs; cases hn; rfl

instance : DecidableEq Instant := fun a b =>
  decidable_of_iff (a.seconds = b.seconds ∧ a.nanos = b.nanos)
    ⟨fun h => ext h.1 h.2, fun h => h ▸ ⟨rfl, rfl⟩⟩

def ofUnix? (seconds : Int) (nanos : Nat) : Option Instant :=
  if h : (-8334601228800 ≤ seconds ∧ seconds ≤ 8210266876799) ∧ nanos < 2 * nanosPerSecond ∧
      (nanosPerSecond ≤ nanos → seconds % 60 = 59) then
    some ⟨seconds, nanos, h.1, h.2.1, h.2.2⟩
  else none

/-- The beginning of 1970 in universal time. -/
def epoch : Instant := ⟨0, 0, by decide, by decide, by decide⟩

instance : Inhabited Instant := ⟨epoch⟩

def isLeap (instant : Instant) : Bool := nanosPerSecond ≤ instant.nanos

/-- Whether `a` is not later than `b`. -/
def isAtMost (a b : Instant) : Bool :=
  a.seconds < b.seconds || (a.seconds = b.seconds && a.nanos ≤ b.nanos)

instance : LE Instant := ⟨fun a b => a.isAtMost b = true⟩

instance (a b : Instant) : Decidable (a ≤ b) :=
  inferInstanceAs (Decidable (a.isAtMost b = true))

instance : LT Instant := ⟨fun a b => ¬ b ≤ a⟩

instance (a b : Instant) : Decidable (a < b) :=
  inferInstanceAs (Decidable (¬ b ≤ a))

theorem le_iff {a b : Instant} :
    a ≤ b ↔ a.seconds < b.seconds ∨ (a.seconds = b.seconds ∧ a.nanos ≤ b.nanos) := by
  show a.isAtMost b = true ↔ _
  simp [isAtMost]

theorem le_refl (a : Instant) : a ≤ a := le_iff.2 (.inr ⟨rfl, Nat.le_refl _⟩)

theorem le_trans {a b c : Instant} (hab : a ≤ b) (hbc : b ≤ c) : a ≤ c := by
  rw [le_iff] at *
  omega

theorem le_total (a b : Instant) : a ≤ b ∨ b ≤ a := by
  rw [le_iff, le_iff]
  omega

theorem le_antisymm {a b : Instant} (hab : a ≤ b) (hba : b ≤ a) : a = b := by
  rw [le_iff] at *
  exact ext (by omega) (by omega)

def secondOfDay (instant : Instant) : Int := instant.seconds % 86400

/-- The leap second that is counted between two instants.  It is told from the
times of day alone: only a leap second at the earlier of them counts. -/
def leapBetween (earlier later : Instant) : Int :=
  if earlier.secondOfDay < later.secondOfDay ∧ earlier.isLeap then 1
  else if later.secondOfDay < earlier.secondOfDay ∧ later.isLeap then -1
  else 0

/-- The time from `earlier` to `later` in whole seconds, cut toward zero. -/
def secondsBetween (earlier later : Instant) : Int :=
  let seconds := later.seconds - earlier.seconds + leapBetween earlier later
  let nanos : Int := later.nanos - earlier.nanos
  (seconds * nanosPerSecond + nanos).tdiv nanosPerSecond

end Instant

end Workspaces
