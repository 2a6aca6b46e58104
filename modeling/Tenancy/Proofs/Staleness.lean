import Mathlib.Order.MinMax
import Tenancy.Proofs.FoundRows
import Tenancy.Reconciliation

/-!
# Which rows are old enough

A pass looks at rows from before a cutoff, which lies as far back from now as its setting says. Not
every span can be taken from a point in time: spans are cut at the longest one, and a cutoff is never
before the least point in time. Neither changes which rows are found. A span that is cut is longer than
the time between any two points, and no row is before the least one.

## Key results

- `lt_cutoff_iff`: which points are before a cutoff
- `cutoff_le_cutoff`: a longer span gives an earlier cutoff
- `staleness_exact`: the cutoff and what it selects, for every span
-/

namespace Tenancy

namespace Timestamp

variable {a : Timestamp}

/-- The points in time that rows and cutoffs can hold. -/
structure Representable (t : Timestamp) : Prop where
  earliest_le : earliest ≤ t
  le_latest : t.nanos ≤ latest.nanos
  /-- A second put in is a second long. -/
  leap_le : t.leap ≤ Duration.nanosPerSec

theorem representable_iff (t : Timestamp) :
    t.Representable ↔ earliest ≤ t ∧ t.nanos ≤ latest.nanos ∧ t.leap ≤ Duration.nanosPerSec :=
  ⟨fun h => ⟨h.earliest_le, h.le_latest, h.leap_le⟩, fun ⟨h, h', h''⟩ => ⟨h, h', h''⟩⟩

instance (t : Timestamp) : Decidable t.Representable :=
  decidable_of_iff _ (representable_iff t).symm

theorem earliest_le_iff : earliest ≤ a ↔ earliest.nanos ≤ a.nanos := by
  have hleap : earliest.leap = 0 := rfl
  rw [le_iff]
  omega

end Timestamp

namespace Reconciliation

variable {now c : Timestamp} {d d' : Duration}

/-- The longest span is longer than the time between any two points. -/
theorem lt_maxSpan :
    Timestamp.latest.nanos - Timestamp.earliest.nanos + Duration.nanosPerSec <
      (maxSpanMillis * 1000000 : Nat) := by
  decide +kernel

theorem since_lt_maxSpan (hnow : now.Representable) (hc : c.Representable) :
    now.since c < (maxSpanMillis * 1000000 : Nat) := by
  have hmax := lt_maxSpan
  have hearliest := Timestamp.earliest_le_iff.mp hc.earliest_le
  have hlatest := hnow.le_latest
  have hleap := hnow.leap_le
  unfold Timestamp.since
  split
  · omega
  · split <;> omega

/-- Cutting a span is taking the shorter one of it and the longest one. -/
theorem nanos_clampSpan (d : Duration) :
    (clampSpan d).nanos = min d.nanos (maxSpanMillis * 1000000) := by
  rw [clampSpan]
  split
  next h => exact (Nat.min_eq_left h).symm
  next h => exact (Nat.min_eq_right (Nat.le_of_not_le h)).symm

/-- The cutoff is as far back as the span says, and not before the least point. -/
theorem cutoff_eq_max (now : Timestamp) (d : Duration) :
    cutoff now d = max Timestamp.earliest (now.sub (clampSpan d)) := by
  rw [cutoff, max_def]

theorem representable_cutoff (hnow : now.Representable) : (cutoff now d).Representable := by
  have hearliest : Timestamp.earliest.Representable := by decide +kernel
  rw [cutoff_eq_max]
  cases le_total Timestamp.earliest (now.sub (clampSpan d)) with
  | inl hle =>
    rw [max_eq_right hle]
    have hbefore := Timestamp.nanos_sub_le now (clampSpan d)
    have hleap := Timestamp.leap_sub_le now (clampSpan d)
    exact ⟨hle, hbefore.trans hnow.le_latest, hleap.trans hnow.leap_le⟩
  | inr hge =>
    rw [max_eq_left hge]
    exact hearliest

/-- A point is before the cutoff if and only if it is older than the span, whether the span is cut or
    not. -/
theorem lt_cutoff_iff (hnow : now.Representable) (hc : c.Representable) :
    c < cutoff now d ↔ (d.nanos : Int) < now.since c := by
  have hmax := since_lt_maxSpan hnow hc
  have hclamp := nanos_clampSpan d
  -- the first cut plays no part because no point is before the least one, the second because no two
  -- points are as far apart as the longest span
  rw [cutoff_eq_max, lt_max_iff, or_iff_right hc.earliest_le.not_gt, Timestamp.lt_sub_iff]
  omega

/-- A longer span gives an earlier cutoff. -/
theorem cutoff_le_cutoff (h : d.nanos ≤ d'.nanos) : cutoff now d' ≤ cutoff now d := by
  have hclamp : (clampSpan d).nanos ≤ (clampSpan d').nanos := by
    rw [nanos_clampSpan, nanos_clampSpan]
    omega
  rw [cutoff_eq_max, cutoff_eq_max]
  exact max_le_max_left _ (Timestamp.sub_le_sub hclamp)

/-- **The cutoff is exact for every span.** It is a point in time that can be held, however long the
    span. A row is from before it if and only if the time from the row to now is longer than the span,
    counted exactly: by the nanoseconds of both, unless the clock stands in a second put in, and then
    with what has begun of that second. So a longer span never finds more rows. -/
theorem staleness_exact (now : Timestamp) (hnow : now.Representable) (d : Duration) :
    (cutoff now d).Representable ∧
      (∀ c : Timestamp, c.Representable →
        (c < cutoff now d ↔ (d.nanos : Int) < now.since c) ∧
          (now.leap = 0 → (c < cutoff now d ↔ (d.nanos : Int) < now.nanos - c.nanos))) ∧
      ∀ d' : Duration, d.nanos ≤ d'.nanos → ∀ (s : Store) (m : ServiceModule),
        (s.stalledAudits m (cutoff now d')).Sublist (s.stalledAudits m (cutoff now d)) :=
  ⟨representable_cutoff hnow,
    fun _ hc => ⟨lt_cutoff_iff hnow hc,
      fun hleap => (lt_cutoff_iff hnow hc).trans (Timestamp.lt_since_iff hleap)⟩,
    fun _ hle s m => Store.stalledAudits_sublist (cutoff_le_cutoff hle) s m⟩

/-- A row that is ten minutes and one nanosecond old is stale after ten minutes, and not stale after
    the longest span that a setting can hold. -/
theorem staleness_exact_ten_minutes :
    (Timestamp.ofNanos 0).Representable ∧ (Timestamp.ofNanos (-600000000001)).Representable ∧
      Timestamp.ofNanos (-600000000001) < cutoff (.ofNanos 0) (.ofSecs 600) ∧
      ¬Timestamp.ofNanos (-600000000001) <
        cutoff (.ofNanos 0) ⟨18446744073709551615 * Duration.nanosPerSec + 999999999⟩ := by
  have hnow : (Timestamp.ofNanos 0).Representable := by decide +kernel
  have hrow : (Timestamp.ofNanos (-600000000001)).Representable := by decide +kernel
  refine ⟨hnow, hrow,
    (((staleness_exact _ hnow _).2.1 _ hrow).2 rfl).mpr (by decide +kernel), ?_⟩
  rw [((staleness_exact _ hnow _).2.1 _ hrow).2 rfl]
  decide +kernel

end Reconciliation

end Tenancy
