import Tenancy.Proofs.Interleaving
import Tenancy.Proofs.Outline
import Tenancy.Proofs.StoreEffect

/-!
# Operations one after the other

An operation that runs alone finds the stores between two of its calls as the first of them left
them. What is known of guarded programs then says something about a whole run, whichever of its calls
fail. `Operation.apply` runs one attempt or one pass to its end.

## Key results

- `runWith_of_guarded`: a guarded program keeps what its calls keep, and ends with a right result
- `exists_runWith_bind`, `exists_runWith_of_bind`: failing calls of a program and of its two parts
- `exists_runWith_eq_runRefusing`: calls that fail by what they ask for, as calls that fail by number
- `Provisioning.runOn_attempt`: what an attempt does when no call fails
- `Operation.inv_applyAll`: what every operation keeps holds after any sequence of them
-/

namespace Tenancy

open Program (Guarded Surroundings)

/-- The stores as a program finds them that runs alone: nobody changes them, and what its own calls
    keep is known of them. -/
def alone (known : Store → Prop) (allowed : Store → StoreCall → Prop) :
    Surroundings StoreCall.Reply Store where
  answers s c r s' := (r = .ok (s.apply c).1 ∧ s' = (s.apply c).2) ∨ (∃ e, r = .error e) ∧ s' = s
  rely s s' := s' = s ∧ known s
  guar := allowed

variable {known : Store → Prop} {allowed : Store → StoreCall → Prop} {s : Store}

theorem alone_steady : (alone known allowed).Steady where
  trans h h' := ⟨h'.1.trans h.1, h.2⟩
  refl h := ⟨rfl, h.1 ▸ h.2⟩

/-- A call of a program that runs alone takes effect, or fails and changes nothing. -/
theorem alone_apply {c : StoreCall} {P : Store → Prop} {Q : c.Reply → Store → Prop}
    (hguar : ∀ s, known s → P s → allowed s c)
    (hok : ∀ s, known s → P s → Q (.ok (s.apply c).1) (s.apply c).2)
    (herror : ∀ s e, known s → P s → Q (.error e) s) : (alone known allowed).Triple P c Q := by
  rintro s s' hP ⟨rfl, hknown⟩
  refine ⟨hguar s' hknown hP, ?_⟩
  rintro r s'' (⟨rfl, rfl⟩ | ⟨⟨e, rfl⟩, rfl⟩)
  · exact hok s' hknown hP
  · exact herror _ e hknown hP

/-- A call of a program that runs alone, where what is known before it holds whatever the stores. -/
theorem alone_triple {c : StoreCall} {P : Prop} {Q : c.Reply → Prop}
    (hguar : ∀ s, known s → P → allowed s c)
    (hok : ∀ s, known s → P → Q (.ok (s.apply c).1)) (herror : ∀ e, P → Q (.error e)) :
    (alone known allowed).Triple (fun _ => P) c fun r _ => Q r :=
  alone_apply hguar hok fun _ e _ => herror e

/-- A guarded program that runs alone keeps what its calls keep, and its result is right, whichever
    of its calls fail. -/
theorem runWith_of_guarded {α : Type} {post : Store → α → Prop} {p : StoreProgram α}
    (hkeeps : ∀ s c, known s → allowed s c → known (s.apply c).2)
    (h : Guarded (alone known allowed) post p s) (hs : known s) (fails : Nat → Option DbError)
    (index : Nat) :
    known (p.runWith fails index s).2 ∧
      post (p.runWith fails index s).2 (p.runWith fails index s).1 := by
  induction p generalizing s index with
  | done a => exact ⟨hs, h s ⟨rfl, hs⟩⟩
  | ask c k ih =>
    -- others have no turn: the first call meets the stores as they are
    obtain ⟨hallowed, hnext⟩ := h s ⟨rfl, hs⟩
    rw [StoreProgram.runWith]
    split
    · next e _ => exact ih _ (hnext _ s (.inr ⟨⟨e, rfl⟩, rfl⟩)) hs (index + 1)
    · exact ih _ (hnext _ _ (.inl ⟨rfl, rfl⟩)) (hkeeps s c hs hallowed) (index + 1)

/-! ## Operations -/

/-- A job that is done from its beginning to its end. -/
structure Operation where
  job : Interleaving.Job
  /-- Which store calls fail, counted from zero. -/
  fails : Nat → Option DbError
  /-- The time of all of it. -/
  now : Timestamp

namespace Operation

/-- The stores after an operation. -/
def apply (m : ServiceModule) (s : Store) (op : Operation) : Store :=
  let s := { s with clock := op.now }
  match op.job with
  | .provision owner t displayName actor =>
    ((Provisioning.attempt m owner t displayName actor).runWith op.fails 0 s).2
  | .reconcile staleAfter =>
    ((Reconciliation.pass m (Reconciliation.cutoff op.now staleAfter)).runWith op.fails 0 s).2

/-- The stores after one operation after the other. -/
def applyAll (m : ServiceModule) (s : Store) (ops : List Operation) : Store :=
  ops.foldl (apply m) s

/-- What every operation keeps holds after any sequence of them. -/
theorem inv_applyAll {m : ServiceModule} {I : Store → Prop} {ops : List Operation}
    (hkeeps : ∀ s, ∀ op ∈ ops, I s → I (apply m s op)) (hs : I s) : I (applyAll m s ops) := by
  induction ops generalizing s with
  | nil => exact hs
  | cons op ops ih =>
    exact ih (fun s op' hop' => hkeeps s op' (List.mem_cons_of_mem _ hop'))
      (hkeeps s op List.mem_cons_self hs)

end Operation

/-! ## Calls that fail by their number -/

/-- How the calls before `index` fail does not matter for a run that counts from there. -/
private theorem runWith_congr {α : Type} {fails fails' : Nat → Option DbError} {index : Nat}
    (h : ∀ i, index ≤ i → fails i = fails' i) (p : StoreProgram α) (s : Store) :
    p.runWith fails index s = p.runWith fails' index s := by
  induction p generalizing index s with
  | done a => rfl
  | ask c k ih =>
    have hnext : ∀ i, index + 1 ≤ i → fails i = fails' i := fun i hi => h i (by omega)
    rw [StoreProgram.runWith, StoreProgram.runWith, h index (Nat.le_refl index)]
    split
    · exact ih _ hnext s
    · exact ih _ hnext _

/-- How the call with a number fails can be chosen for a run that counts from after it. -/
theorem exists_runWith_of_first {α : Type} {p : StoreProgram α} {index : Nat} {s : Store}
    {outcome : α × Store} (h : ∃ fails, p.runWith fails (index + 1) s = outcome)
    (first : Option DbError) :
    ∃ fails : Nat → Option DbError, fails index = first ∧
      p.runWith fails (index + 1) s = outcome := by
  obtain ⟨fails, hrest⟩ := h
  refine ⟨fun i => if i = index then first else fails i, if_pos rfl, ?_⟩
  rw [← hrest]
  exact runWith_congr (fun i hi => if_neg (by omega)) p s

/-- Calls can be counted from any number. -/
theorem runWith_add {α : Type} (fails : Nat → Option DbError) (p : StoreProgram α) (index n : Nat)
    (s : Store) :
    p.runWith fails (index + n) s = p.runWith (fun i => fails (i + n)) index s := by
  induction p generalizing index s with
  | done a => rfl
  | ask c k ih =>
    rw [StoreProgram.runWith, StoreProgram.runWith]
    have hnext : index + n + 1 = index + 1 + n := by omega
    cases fails (index + n) with
    | some e => simp only [hnext, ih]
    | none => simp only [hnext, ih]

/-- The second of two programs counts its calls on from those of the first. -/
theorem exists_runWith_bind {α β : Type} (fails : Nat → Option DbError) (p : StoreProgram α)
    (f : α → StoreProgram β) (index : Nat) (s : Store) :
    ∃ next, (p >>= f).runWith fails index s =
      (f (p.runWith fails index s).1).runWith fails next (p.runWith fails index s).2 := by
  induction p generalizing index s with
  | done a => exact ⟨index, rfl⟩
  | ask c k ih =>
    rw [Program.ask_bind, StoreProgram.runWith, StoreProgram.runWith]
    cases fails index with
    | some e => exact ih (.error e) (index + 1) s
    | none => exact ih (.ok (s.apply c).1) (index + 1) (s.apply c).2

/-- How calls fail can be chosen for each of two programs. -/
theorem exists_runWith_of_bind {α β : Type} (fails : Nat → Option DbError) {p : StoreProgram α}
    {f : α → StoreProgram β} {index : Nat} {s : Store} {outcome : β × Store}
    (h : ∀ next, ∃ fails', (f (p.runWith fails index s).1).runWith fails' next
      (p.runWith fails index s).2 = outcome) :
    ∃ fails', (p >>= f).runWith fails' index s = outcome := by
  induction p generalizing index s with
  | done a => exact h index
  | ask c k ih =>
    rw [StoreProgram.runWith] at h
    -- the first call fails as it does in the run of the first program
    cases hfirst : fails index with
    | some e =>
      rw [hfirst] at h
      obtain ⟨fails', hindex, hrest⟩ := exists_runWith_of_first (ih (.error e) h) (some e)
      exact ⟨fails', by simp only [Program.ask_bind, StoreProgram.runWith, hindex, hrest]⟩
    | none =>
      rw [hfirst] at h
      obtain ⟨fails', hindex, hrest⟩ := exists_runWith_of_first (ih (.ok (s.apply c).1) h) none
      exact ⟨fails', by simp only [Program.ask_bind, StoreProgram.runWith, hindex, hrest]⟩

/-! ## Calls that fail by what they ask for -/

/-- Runs a program against the stores; `refused` says which calls fail, whenever they are made, and
    how. A call that fails has no effect. -/
def StoreProgram.runRefusing {α : Type} (refused : StoreCall → Option DbError) :
    StoreProgram α → Store → α × Store
  | .done a, s => (a, s)
  | .ask c k, s =>
    match refused c with
    | some e => runRefusing refused (k (.error e)) s
    | none => runRefusing refused (k (.ok (s.apply c).1)) (s.apply c).2

/-- A run in which calls are refused is one in which calls fail by their number. -/
theorem exists_runWith_eq_runRefusing {α : Type} (refused : StoreCall → Option DbError)
    (p : StoreProgram α) (index : Nat) (s : Store) :
    ∃ fails, p.runWith fails index s = p.runRefusing refused s := by
  induction p generalizing index s with
  | done a => exact ⟨fun _ => none, rfl⟩
  | ask c k ih =>
    -- the first call has the number `index`, and the rest of the program counts on from it
    cases hc : refused c with
    | some e =>
      obtain ⟨fails, hindex, hrest⟩ := exists_runWith_of_first (ih (.error e) (index + 1) s) (some e)
      exact ⟨fails, by simp only [StoreProgram.runWith, StoreProgram.runRefusing, hindex, hc, hrest]⟩
    | none =>
      obtain ⟨fails, hindex, hrest⟩ :=
        exists_runWith_of_first (ih (.ok (s.apply c).1) (index + 1) (s.apply c).2) none
      exact ⟨fails, by simp only [StoreProgram.runWith, StoreProgram.runRefusing, hindex, hc, hrest]⟩

/-! ## An attempt whose calls succeed -/

namespace Store

/-- The stores after one call after the other. -/
def applyAll (s : Store) (calls : List StoreCall) : Store :=
  calls.foldl (fun s c => (s.apply c).2) s

/-- Calls that write no column of a tenant leave the tenant's registered name. -/
theorem registered?_applyAll {m : ServiceModule} {t : TenantId} {calls : List StoreCall}
    (h : ∀ c ∈ calls, ∀ schema, c ≠ .setModuleSchema t m schema) :
    (s.applyAll calls).registered? m t = s.registered? m t := by
  induction calls generalizing s with
  | nil => rfl
  | cons c calls ih =>
    calc ((s.apply c).2.applyAll calls).registered? m t = (s.apply c).2.registered? m t :=
          ih fun c' hc' => h c' (List.mem_cons_of_mem _ hc')
      _ = s.registered? m t := s.registered?_apply_of_ne (h c List.mem_cons_self)

theorem isSome_tenant?_applyAll (s : Store) (calls : List StoreCall) (t : TenantId) :
    ((s.applyAll calls).tenant? t).isSome = (s.tenant? t).isSome := by
  induction calls generalizing s with
  | nil => rfl
  | cons c calls ih => exact (ih (s.apply c).2).trans (s.isSome_tenant?_apply c t)

end Store

theorem runOn_ask {α : Type} (c : StoreCall) (k : c.Reply → StoreProgram α) (s : Store) :
    StoreProgram.runOn (.ask c k) s = (k (.ok (s.apply c).1)).runOn (s.apply c).2 :=
  runWith_add (fun _ => none) (k (.ok (s.apply c).1)) 0 1 (s.apply c).2

theorem runOn_bind {α β : Type} (p : StoreProgram α) (f : α → StoreProgram β) (s : Store) :
    StoreProgram.runOn (p >>= f) s = (f (p.runOn s).1).runOn (p.runOn s).2 := by
  induction p generalizing s with
  | done a => rfl
  | ask c k ih => rw [Program.ask_bind, runOn_ask, runOn_ask, ih]

namespace Provisioning

variable {m : ServiceModule} {t : TenantId} {displayName : Option String} {schema : String}
  {record : TenantRecord}

private theorem runOn_register (id : Int) (hrow : (s.tenant? t).isSome = true) :
    (register m t schema (.ok id)).runOn s = (.ok schema, s.applyAll
      [.setModuleSchema t m schema, .updateAudit (.entry id) .success none]) := by
  have hanswer : (s.apply (.setModuleSchema t m schema)).1 = 1 := if_pos hrow
  rw [register, ask, Program.call_bind, runOn_ask, hanswer]
  rfl

private theorem runOn_create (owner : String) (id : Int) (hrow : (s.tenant? t).isSome = true) :
    (create m owner t schema (.ok id)).runOn s = (.ok schema, s.applyAll
      [.ensureSchema t schema owner, .updateAudit (.entry id) .schemaCreated none,
        .setModuleSchema t m schema, .updateAudit (.entry id) .success none]) := by
  rw [create, ask, Program.call_bind, runOn_ask]
  show StoreProgram.runOn (.ask (.updateAudit (.entry id) .schemaCreated none)
    fun _ => register m t schema (.ok id)) _ = _
  rw [runOn_ask, runOn_register id]
  · rfl
  · rwa [Store.isSome_tenant?_apply, Store.isSome_tenant?_apply]

/-- An attempt for a tenant that has a row, where no call fails: it creates the schema, registers it
    and returns it. -/
theorem runOn_attempt (owner actor : String) (hrow : s.tenant? t = some record)
    (hschema : schemaFor m record t displayName = schema) :
    (attempt m owner t displayName actor).runOn s = (.ok schema, s.applyAll
      [.insertAudit ⟨t, m, schema, actor⟩, .ensureSchema t schema owner,
        .updateAudit (.entry (s.lastAudit + 1)) .schemaCreated none, .setModuleSchema t m schema,
        .updateAudit (.entry (s.lastAudit + 1)) .success none]) := by
  have hanswer : s.apply (.findTenant t) = (some record, s) := by rw [Store.apply, hrow]
  rw [attempt, ask, Program.call_bind, runOn_ask, hanswer]
  show StoreProgram.runOn (.ask (.insertAudit ⟨t, m, schemaFor m record t displayName, actor⟩)
    fun inserted => create m owner t (schemaFor m record t displayName) inserted) s = _
  -- the row gets the id after the last one
  rw [hschema, runOn_ask]
  show StoreProgram.runOn (create m owner t schema (.ok (s.lastAudit + 1))) _ = _
  rw [runOn_create]
  · rfl
  · rw [Store.isSome_tenant?_apply, hrow, Option.isSome_some]

end Provisioning

end Tenancy
