import Tenancy.Duration

/-! # Work that is done again and again

A ticker names the moments, in milliseconds, at which something is due once every interval.  There
is no ticker without an interval (`Ticker.start?`). -/

namespace Tenancy

/-- When something is due next, and at which interval. -/
structure Ticker where
  interval : Duration
  due : Nat
  interval_ne_zero : interval ≠ .ofSecs 0

namespace Ticker

/-- The ticker that is due at once. -/
def start? (interval : Duration) (now : Nat) : Option Ticker :=
  if h : interval = .ofSecs 0 then none else some ⟨interval, now, h⟩

/-- How late something may begin, in milliseconds, and still count as punctual. -/
def punctuality : Nat := 5

/-- The ticker after what is due began: it is due again one interval later, counted from the
    beginning where that was late. -/
def next (t : Ticker) (began : Nat) : Ticker :=
  { t with due := (if began > t.due + punctuality then began else t.due) + t.interval.millis }

theorem isSome_start?_iff {interval : Duration} {now : Nat} :
    (start? interval now).isSome ↔ interval ≠ .ofSecs 0 := by
  unfold start?
  split <;> simp_all

end Ticker

end Tenancy
