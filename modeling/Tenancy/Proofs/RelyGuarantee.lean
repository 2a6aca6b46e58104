import Tenancy.Program

/-!
# Programs among others

A program makes its calls while others make theirs. Between two of its calls anything may happen
that it relies on; in return it makes only calls that it promised to make. `Program.Guarded` says so
of a program and the view it starts from, by recursion on the program, and so replaces program
counters: what is left of a program says where it is.

A view is whatever the surroundings consist of. `Surroundings` holds what may be answered to a call,
and with which view after it, beside the two sides of the agreement.

## Key results

- `Guarded.of_rely` / `Guarded.mono`: a guarded program stays so under what it relies on
- `Guarded.of_triple` / `Guarded.bind`: one call, and sequencing
- `Guarded.frame_of_makes`: what calls of the kind that a program makes do not change
- `guarded_lift_iff`: widening the calls of a program
-/

namespace Tenancy.Program

variable {C D : Type} {Reply : C → Type} {Answer : D → Type} {V α β : Type}

/-- What a program finds around it. -/
structure Surroundings (Reply : C → Type) (V : Type) where
  /-- A call may be answered like this, leading from one view to another. -/
  answers : V → (c : C) → Reply c → V → Prop
  /-- What others may do between two calls. -/
  rely : V → V → Prop
  /-- The calls that the program may make. -/
  guar : V → C → Prop

namespace Surroundings

/-- What others do in two goes they may do in one, and a view that they can lead to is one that they
    may leave as it is. -/
structure Steady (E : Surroundings Reply V) : Prop where
  trans : ∀ {v v' v''}, E.rely v v' → E.rely v' v'' → E.rely v v''
  refl : ∀ {v v'}, E.rely v v' → E.rely v' v'

/-- The surroundings as a program over narrower calls finds them. -/
def comap (E : Surroundings Answer V) (wider : C → D) (reply : (c : C) → Answer (wider c) → Reply c) :
    Surroundings Reply V where
  answers v c r v' := ∃ a, E.answers v (wider c) a v' ∧ r = reply c a
  rely := E.rely
  guar v c := E.guar v (wider c)

theorem Steady.comap {E : Surroundings Answer V} (h : E.Steady) (wider : C → D)
    (reply : (c : C) → Answer (wider c) → Reply c) : (E.comap wider reply).Steady :=
  ⟨h.trans, h.refl⟩

/-- One call: wherever `P` held before others had their turn, the call may be made, and `Q` holds
    after every answer. -/
def Triple (E : Surroundings Reply V) (P : V → Prop) (c : C) (Q : Reply c → V → Prop) : Prop :=
  ∀ v v', P v → E.rely v v' → E.guar v' c ∧ ∀ r v'', E.answers v' c r v'' → Q r v''

end Surroundings

/-- A result is right, and stays so whatever others do. -/
def Settled (E : Surroundings Reply V) (post : V → α → Prop) (a : α) (v : V) : Prop :=
  ∀ v', E.rely v v' → post v' a

/-- The program makes only calls that it may make, whatever others do meanwhile and whatever it is
    answered, and ends with a result that is right. -/
def Guarded (E : Surroundings Reply V) (post : V → α → Prop) : Program Reply α → V → Prop
  | done a, v => Settled E post a v
  | ask c k, v =>
    ∀ v', E.rely v v' → E.guar v' c ∧ ∀ r v'', E.answers v' c r v'' → Guarded E post (k r) v''

/-- Every call that the program makes is of a kind, whatever it is answered. -/
def Makes (P : C → Prop) : Program Reply α → Prop
  | done _ => True
  | ask c k => P c ∧ ∀ r, (k r).Makes P

/-- A program makes the calls of its parts. -/
theorem Makes.bind {P : C → Prop} {p : Program Reply α} {f : α → Program Reply β} (h : p.Makes P)
    (hf : ∀ a, (f a).Makes P) : (p >>= f).Makes P := by
  induction p with
  | done a => exact hf a
  | ask c k ih => exact ⟨h.1, fun r => ih r (h.2 r)⟩

theorem makes_true (p : Program Reply α) : p.Makes fun _ => True := by
  induction p with
  | done a => trivial
  | ask c k ih => exact ⟨trivial, ih⟩

namespace Guarded

variable {E : Surroundings Reply V} {post post' : V → α → Prop} {p : Program Reply α} {v v' : V}

/-- A program that is guarded wherever others lead is guarded before. -/
theorem of_rely (hE : E.Steady) (h : ∀ v', E.rely v v' → Guarded E post p v') :
    Guarded E post p v := by
  -- a program's first point takes a turn of others into account, so one turn is used twice
  cases p with
  | done a => exact fun v' hv => h v' hv v' (hE.refl hv)
  | ask c k => exact fun v' hv => h v' hv v' (hE.refl hv)

/-- A guarded program stays so under what it relies on. -/
theorem mono (hE : E.Steady) (h : Guarded E post p v) (hv : E.rely v v') : Guarded E post p v' := by
  -- the turn that others had and the one that they take next are one turn
  cases p with
  | done a => exact fun v'' hv' => h v'' (hE.trans hv hv')
  | ask c k => exact fun v'' hv' => h v'' (hE.trans hv hv')

theorem imp (h : Guarded E post p v) (himp : ∀ v a, post v a → post' v a) :
    Guarded E post' p v := by
  induction p generalizing v with
  | done a => exact fun v' hv => himp v' a (h v' hv)
  | ask c k ih =>
    intro v' hv
    obtain ⟨hguar, hnext⟩ := h v' hv
    exact ⟨hguar, fun r v'' hr => ih r (hnext r v'' hr)⟩

/-- A program followed by another is guarded when the second is guarded wherever the first ends. -/
theorem bind (hE : E.Steady) {f : α → Program Reply β} {post' : V → β → Prop}
    (h : Guarded E (fun v a => Guarded E post' (f a) v) p v) : Guarded E post' (p >>= f) v := by
  induction p generalizing v with
  | done a =>
    -- the second program begins where others may have had a turn since the first ended
    exact of_rely hE h
  | ask c k ih =>
    intro v' hv
    obtain ⟨hguar, hnext⟩ := h v' hv
    exact ⟨hguar, fun r v'' hr => ih r (hnext r v'' hr)⟩

theorem map {f : α → β} {post' : V → β → Prop}
    (h : Guarded E (fun v a => post' v (f a)) p v) : Guarded E post' (f <$> p) v := by
  induction p generalizing v with
  | done a => exact h
  | ask c k ih =>
    intro v' hv
    obtain ⟨hguar, hnext⟩ := h v' hv
    exact ⟨hguar, fun r v'' hr => ih r (hnext r v'' hr)⟩

/-- What neither others nor calls of the kind that the program makes change holds at the end if it
    holds at the beginning. -/
theorem frame_of_makes {P : C → Prop} {F : V → Prop} (hmakes : p.Makes P)
    (hrely : ∀ v v', F v → E.rely v v' → F v')
    (hown : ∀ v c r v', F v → P c → E.guar v c → E.answers v c r v' → F v')
    (h : Guarded E post p v) (hF : F v) : Guarded E (fun v a => F v ∧ post v a) p v := by
  induction p generalizing v with
  | done a => exact fun v' hv => ⟨hrely v v' hF hv, h v' hv⟩
  | ask c k ih =>
    intro v' hv
    obtain ⟨hguar, hnext⟩ := h v' hv
    have hF' := hrely v v' hF hv
    exact ⟨hguar, fun r v'' hr =>
      ih r (hmakes.2 r) (hnext r v'' hr) (hown v' c r v'' hF' hmakes.1 hguar hr)⟩

/-- What neither others nor the program's own calls change holds at the end if it holds at the
    beginning. -/
theorem frame {F : V → Prop} (hrely : ∀ v v', F v → E.rely v v' → F v')
    (hown : ∀ v c r v', F v → E.guar v c → E.answers v c r v' → F v')
    (h : Guarded E post p v) (hF : F v) : Guarded E (fun v a => F v ∧ post v a) p v :=
  h.frame_of_makes p.makes_true hrely (fun v c r v' hF _ => hown v c r v' hF) hF

/-- A call, followed by what is guarded wherever the call leads. -/
theorem of_triple {P : V → Prop} {c : C} {Q : Reply c → V → Prop} {k : Reply c → Program Reply α}
    (h : E.Triple P c Q) (hv : P v) (hnext : ∀ r v', Q r v' → Guarded E post (k r) v') :
    Guarded E post (ask c k) v := by
  intro v' hrely
  obtain ⟨hguar, hleads⟩ := h v v' hv hrely
  exact ⟨hguar, fun r v'' hr => hnext r v'' (hleads r v'' hr)⟩

end Guarded

/-- A program over wider calls is guarded where the narrower one is. -/
theorem guarded_lift_iff {E : Surroundings Answer V} {wider : C → D}
    {reply : (c : C) → Answer (wider c) → Reply c} {post : V → α → Prop} {p : Program Reply α}
    {v : V} :
    Guarded E post (p.lift wider reply) v ↔ Guarded (E.comap wider reply) post p v := by
  induction p generalizing v with
  | done a => exact Iff.rfl
  | ask c k ih =>
    constructor
    · intro h v' hv
      obtain ⟨hguar, hnext⟩ := h v' hv
      refine ⟨hguar, ?_⟩
      rintro r v'' ⟨a, ha, rfl⟩
      exact (ih (reply c a)).mp (hnext a v'' ha)
    · intro h v' hv
      obtain ⟨hguar, hnext⟩ := h v' hv
      exact ⟨hguar, fun a v'' ha => (ih (reply c a)).mpr (hnext _ v'' ⟨a, ha, rfl⟩)⟩

end Tenancy.Program
