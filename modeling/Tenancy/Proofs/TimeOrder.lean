import Mathlib.Order.Defs.LinearOrder
import Tenancy.Timestamp

/-!
# The order of time

Points in time are in order by the nanosecond that was counted last and, inside a second put in, by how
much of it has begun. Spans are counted along this order: a point that lies in a second put in first goes
back over what has begun of it.

## Key results

- `Timestamp.lt_iff`, `Timestamp.le_iff`: the order, which is linear
- `Timestamp.lt_sub_iff`: which points are further back than a span
- `Timestamp.sub_le_sub`, `Timestamp.le_add`: longer spans lead further back, and time added leads on
-/

namespace Tenancy.Timestamp

variable {a b c now : Timestamp} {d d' : Duration}

theorem lt_iff : a < b ↔ a.nanos < b.nanos ∨ (a.nanos = b.nanos ∧ a.leap < b.leap) := by
  show a.isBefore b = true ↔ _
  simp only [isBefore, Bool.or_eq_true, Bool.and_eq_true, decide_eq_true_eq, beq_iff_eq]

theorem le_iff : a ≤ b ↔ a.nanos < b.nanos ∨ (a.nanos = b.nanos ∧ a.leap ≤ b.leap) := by
  show ¬b < a ↔ _
  rw [lt_iff]
  omega

instance : LinearOrder Timestamp where
  le_refl a := by rw [le_iff]; omega
  le_trans a b c h h' := by rw [le_iff] at h h' ⊢; omega
  le_antisymm a b h h' := by
    rw [le_iff] at h h'
    obtain ⟨nanos, leap⟩ := a
    obtain ⟨nanos', leap'⟩ := b
    dsimp only at h h'
    obtain rfl : nanos = nanos' := by omega
    obtain rfl : leap = leap' := by omega
    rfl
  le_total a b := by rw [le_iff, le_iff]; omega
  lt_iff_le_not_ge a b := by rw [lt_iff, le_iff, le_iff]; omega
  toDecidableLE := inferInstance
  toDecidableLT := inferInstance

/-! ## Spans -/

/-- How many nanoseconds before `now` a point lies. Of seconds put in, the one that `now` stands in is
    counted as far as it has begun. -/
def since (now c : Timestamp) : Int :=
  if c.nanos < now.nanos then now.nanos + now.leap - c.nanos
  else if c.nanos = now.nanos then now.leap - c.leap
  else now.nanos - c.nanos

/-- Outside of a second put in, the difference of the counted nanoseconds says how old a point is. -/
theorem lt_since_iff (hnow : now.leap = 0) :
    (d.nanos : Int) < now.since c ↔ (d.nanos : Int) < now.nanos - c.nanos := by
  unfold since
  split
  · omega
  · split <;> omega

/-- A point that lies a span back in the same second put in, or before it. -/
theorem sub_eq (now : Timestamp) (d : Duration) :
    d.nanos < now.leap ∧ now.sub d = ⟨now.nanos, now.leap - d.nanos⟩ ∨
      now.leap ≤ d.nanos ∧ now.sub d = ⟨now.nanos - (d.nanos - now.leap : Nat), 0⟩ := by
  unfold sub
  split
  next hinside => exact .inl ⟨hinside, rfl⟩
  next hbefore => exact .inr ⟨Nat.le_of_not_lt hbefore, rfl⟩

theorem nanos_sub_le (now : Timestamp) (d : Duration) : (now.sub d).nanos ≤ now.nanos := by
  unfold sub
  split
  · exact Int.le_refl _
  · exact Int.sub_le_self _ (Int.natCast_nonneg _)

theorem leap_sub_le (now : Timestamp) (d : Duration) : (now.sub d).leap ≤ now.leap := by
  unfold sub
  split
  · exact Nat.sub_le _ _
  · exact Nat.zero_le _

/-- The points before the one that lies a span back are those that are older than the span. -/
theorem lt_sub_iff : c < now.sub d ↔ (d.nanos : Int) < now.since c := by
  rw [lt_iff]
  unfold since
  rcases sub_eq now d with ⟨hinside, hsub⟩ | ⟨hbefore, hsub⟩ <;> rw [hsub] <;> dsimp only
  · -- the span does not lead out of the second put in
    split
    · omega
    · split <;> omega
  · split
    · omega
    · split <;> omega

/-- A longer span leads further back. -/
theorem sub_le_sub (h : d.nanos ≤ d'.nanos) : now.sub d' ≤ now.sub d := by
  rw [le_iff]
  rcases sub_eq now d with ⟨hinside, hsub⟩ | ⟨hbefore, hsub⟩ <;>
    rcases sub_eq now d' with ⟨hinside', hsub'⟩ | ⟨hbefore', hsub'⟩ <;>
    rw [hsub, hsub'] <;> dsimp only <;> omega

/-- Time added never leads back. -/
theorem le_add (t : Timestamp) (d : Duration) : t ≤ t.add d := by
  rw [le_iff]
  unfold add
  split
  · dsimp only [ofNanos]
    omega
  · split <;> dsimp only [ofNanos] <;> omega

end Tenancy.Timestamp
