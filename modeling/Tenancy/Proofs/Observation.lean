import Tenancy.Proofs.Sequential

/-!
# Runs as they are observed

What can be observed of a program that runs alone is its result, the stores that it leaves, and its
calls in their order, with the failure of each that failed. Which calls fail is told for each kind
of call: the first of the kind, the second, and so on. So the calls of one kind can be told to fail
without a word about the others, whether or not those are made.

## Key results

- `exists_runWith_eq_observe`: what is observed is a run in which calls fail by their number
- `observe_of_guarded`: a guarded program keeps what its calls keep, and ends with a right result
- `filter_calls_of_makes`, `result_of_returns`: what a program never does is not observed
-/

namespace Tenancy

open Program (Guarded)

/-- The kind of a call: what it asks for, whatever it asks it about. -/
inductive StoreCall.Kind where
  | findTenant
  | isActive
  | hasModule
  | setModuleSchema
  | insertAudit
  | updateAudit
  | latestAudit
  | stalledAudits
  | ensureSchema
  | schemaExists
  deriving DecidableEq, Repr

/-- The kind of a call. -/
def StoreCall.kind : StoreCall → Kind
  | findTenant _ => .findTenant
  | isActive _ => .isActive
  | hasModule _ _ => .hasModule
  | setModuleSchema _ _ _ => .setModuleSchema
  | insertAudit _ => .insertAudit
  | updateAudit _ _ _ => .updateAudit
  | latestAudit _ _ => .latestAudit
  | stalledAudits _ _ => .stalledAudits
  | ensureSchema _ _ _ => .ensureSchema
  | schemaExists _ => .schemaExists

/-- Whether calls of a kind are about the audit log. -/
def StoreCall.Kind.isAudit : Kind → Bool
  | insertAudit | updateAudit | latestAudit | stalledAudits => true
  | _ => false

/-- Which calls fail, and how; the calls of each kind are counted from zero. -/
abbrev Faults := StoreCall.Kind → Nat → Option DbError

/-- A call that was made. -/
structure Made where
  call : StoreCall
  /-- How it failed, if it did. -/
  failure : Option DbError
  deriving DecidableEq

/-- How many calls of a kind were made. -/
def Made.count (made : List Made) (kind : StoreCall.Kind) : Nat := made.countP (·.call.kind = kind)

/-- What is observed of a run. -/
structure Observed (α : Type) where
  result : α
  store : Store
  /-- The calls made, first one first. -/
  calls : List Made

namespace StoreProgram

variable {α : Type}

/-- Observes a program that runs alone, after the calls in `made`. A failed call has no effect. -/
def observe (faults : Faults) : StoreProgram α → List Made → Store → Observed α
  | .done a, made, s => ⟨a, s, made⟩
  | .ask c k, made, s =>
    match faults c.kind (Made.count made c.kind) with
    | some e => observe faults (k (.error e)) (made ++ [⟨c, some e⟩]) s
    | none => observe faults (k (.ok (s.apply c).1)) (made ++ [⟨c, none⟩]) (s.apply c).2

variable {faults : Faults} {made : List Made} {s : Store}

theorem observe_failed {c : StoreCall} {k : c.Reply → StoreProgram α} {e : DbError}
    (h : faults c.kind (Made.count made c.kind) = some e) :
    observe faults (.ask c k) made s = observe faults (k (.error e)) (made ++ [⟨c, some e⟩]) s := by
  rw [observe, h]

theorem observe_applied {c : StoreCall} {k : c.Reply → StoreProgram α}
    (h : faults c.kind (Made.count made c.kind) = none) :
    observe faults (.ask c k) made s =
      observe faults (k (.ok (s.apply c).1)) (made ++ [⟨c, none⟩]) (s.apply c).2 := by
  rw [observe, h]

/-- What is observed is a run in which calls fail by their number. -/
theorem exists_runWith_eq_observe (faults : Faults) (p : StoreProgram α) (index : Nat)
    (made : List Made) (s : Store) :
    ∃ fails, p.runWith fails index s =
      ((observe faults p made s).result, (observe faults p made s).store) := by
  -- the rest of the run tells how calls fail from the next number on, and this call has this number
  induction p generalizing index made s with
  | done a => exact ⟨fun _ => none, rfl⟩
  | ask c k ih =>
    cases hc : faults c.kind (Made.count made c.kind) with
    | some e =>
      obtain ⟨fails, hindex, hrest⟩ := exists_runWith_of_first
        (ih (.error e) (index + 1) (made ++ [⟨c, some e⟩]) s) (some e)
      exact ⟨fails, by rw [observe_failed hc, runWith, hindex]; exact hrest⟩
    | none =>
      obtain ⟨fails, hindex, hrest⟩ := exists_runWith_of_first
        (ih (.ok (s.apply c).1) (index + 1) (made ++ [⟨c, none⟩]) (s.apply c).2) none
      exact ⟨fails, by rw [observe_applied hc, runWith, hindex]; exact hrest⟩

/-- A guarded program that runs alone keeps what its calls keep, and its result is right. -/
theorem observe_of_guarded {known : Store → Prop} {allowed : Store → StoreCall → Prop}
    {post : Store → α → Prop} {p : StoreProgram α}
    (hkeeps : ∀ s c, known s → allowed s c → known (s.apply c).2)
    (h : Guarded (alone known allowed) post p s) (hs : known s) (faults : Faults)
    (made : List Made) :
    known (observe faults p made s).store ∧
      post (observe faults p made s).store (observe faults p made s).result := by
  obtain ⟨fails, hrun⟩ := exists_runWith_eq_observe faults p 0 made s
  have hend := runWith_of_guarded hkeeps h hs fails 0
  rwa [hrun] at hend

/-- Calls that a program does not make are not observed. -/
theorem filter_calls_of_makes {p : StoreProgram α} {q : StoreCall → Bool}
    (h : p.Makes fun c => q c = false) (faults : Faults) (made : List Made) (s : Store) :
    (observe faults p made s).calls.filter (q ·.call) = made.filter (q ·.call) := by
  induction p generalizing made s with
  | done a => rfl
  | ask c k ih =>
    obtain ⟨hc, hnext⟩ := h
    have hskip : ∀ failure, (made ++ [Made.mk c failure]).filter (q ·.call) =
        made.filter (q ·.call) := by
      simp [hc]
    cases hfault : faults c.kind (Made.count made c.kind) with
    | some e => rw [observe_failed hfault, ih _ (hnext _), hskip]
    | none => rw [observe_applied hfault, ih _ (hnext _), hskip]

end StoreProgram

namespace Program

variable {C : Type} {Reply : C → Type} {α : Type}

/-- Every result of the program, whatever its calls are answered, is of a kind. -/
def Returns (Q : α → Prop) : Program Reply α → Prop
  | done a => Q a
  | ask _ k => ∀ r, (k r).Returns Q

end Program

/-- What a program returns is of the kind that all its results are of. -/
theorem StoreProgram.result_of_returns {α : Type} {Q : α → Prop} {p : StoreProgram α}
    (h : p.Returns Q) (faults : Faults) (made : List Made) (s : Store) :
    Q (observe faults p made s).result := by
  induction p generalizing made s with
  | done a => exact h
  | ask c k ih =>
    cases hfault : faults c.kind (Made.count made c.kind) with
    | some e => rw [observe_failed hfault]; exact ih _ (h _) _ _
    | none => rw [observe_applied hfault]; exact ih _ (h _) _ _

/-! ## An attempt, call by call -/

namespace Provisioning

variable {m : ServiceModule} {owner : String} {t : TenantId} {schema : String}
  {displayName : Option String} {actor : String} {inserted : Except DbError Int}
  {P : StoreCall → Prop}

/-- What an attempt does after the reply to the creation of its schema. -/
def afterCreation (m : ServiceModule) (t : TenantId) (schema : String)
    (inserted : Except DbError Int) :
    Except DbError Unit → StoreProgram (Except ProvisioningError String)
  | .error e => do
    mark (failureTarget inserted t m) .failed (some e.message)
    return .error (.schemaCreation t schema e (auditFailure inserted t))
  | .ok () => do
    markOwn inserted .schemaCreated
    register m t schema inserted

/-- What it does after the reply to its lookup. -/
def afterLookup (m : ServiceModule) (owner : String) (t : TenantId) (displayName : Option String)
    (actor : String) :
    Except DbError (Option TenantRecord) → StoreProgram (Except ProvisioningError String)
  | .error e => .done (.error (.registryRead t e))
  | .ok none => .done (.error (.unknownTenant t))
  | .ok (some record) =>
    .ask (.insertAudit ⟨t, m, schemaFor m record t displayName, actor⟩)
      (create m owner t (schemaFor m record t displayName))

theorem create_eq : create m owner t schema inserted =
    .ask (.ensureSchema t schema owner) (afterCreation m t schema inserted) := by
  rw [create, ask, Program.call_bind]
  congr 1
  funext reply
  rcases reply with e | ⟨⟩ <;> rfl

theorem attempt_eq : attempt m owner t displayName actor =
    .ask (.findTenant t) (afterLookup m owner t displayName actor) := by
  rw [attempt, ask, Program.call_bind]
  congr 1
  funext reply
  rcases reply with e | (_ | record) <;> rfl

section Lookup

open StoreProgram

variable {faults : Faults} {s : Store}

/-- An attempt that finds its tenant tries to add its row, and goes on to its schema either way. -/
theorem observe_attempt_of_found {record : TenantRecord} (hfind : faults .findTenant 0 = none)
    (hrow : s.tenant? t = some record) : ∃ inserted failure s',
      observe faults (attempt m owner t displayName actor) [] s =
        observe faults (create m owner t (schemaFor m record t displayName) inserted)
          [⟨.findTenant t, none⟩,
            ⟨.insertAudit ⟨t, m, schemaFor m record t displayName, actor⟩, failure⟩] s' ∧
      inserted.toOption.isNone = failure.isSome := by
  rw [attempt_eq, observe_applied hfind, show (s.apply (.findTenant t)).1 = some record from hrow,
    afterLookup]
  cases hfault : faults .insertAudit 0 with
  | some e => exact ⟨.error e, some e, s, observe_failed hfault, rfl⟩
  | none => exact ⟨.ok _, none, _, observe_applied hfault, rfl⟩

/-- An attempt that does not find its tenant ends with that. -/
theorem found_or_ended (m : ServiceModule) (owner : String) (t : TenantId)
    (displayName : Option String) (actor : String) (faults : Faults) (s : Store) :
    (faults .findTenant 0 = none ∧ ∃ record, s.tenant? t = some record) ∨
      ∃ e, (observe faults (attempt m owner t displayName actor) [] s).result = .error e ∧
        ∀ u name cause audit, e ≠ .schemaCreation u name cause audit := by
  rw [attempt_eq]
  cases hfind : faults .findTenant 0 with
  | some e =>
    rw [observe_failed hfind]
    exact .inr ⟨_, rfl, nofun⟩
  | none =>
    rw [observe_applied hfind]
    cases hrow : s.tenant? t with
    | none =>
      rw [show (s.apply (.findTenant t)).1 = none from hrow]
      exact .inr ⟨_, rfl, nofun⟩
    | some record => exact .inl ⟨rfl, record, rfl⟩

end Lookup

theorem register_makes (hwrite : P (.setModuleSchema t m schema))
    (hmark : ∀ target status error, P (.updateAudit target status error)) :
    (register m t schema inserted).Makes P := by
  refine ⟨hwrite, fun reply => ?_⟩
  rcases reply with e | (_ | rows)
  · trivial
  · trivial
  · cases inserted with
    | error e => trivial
    | ok id => exact ⟨hmark _ _ _, fun _ => trivial⟩

/-- After the creation of its schema an attempt writes the registry and the audit log. -/
theorem afterCreation_makes (hwrite : P (.setModuleSchema t m schema))
    (hmark : ∀ target status error, P (.updateAudit target status error))
    (reply : Except DbError Unit) : (afterCreation m t schema inserted reply).Makes P := by
  rcases reply with e | ⟨⟩
  · exact ⟨hmark _ _ _, fun _ => trivial⟩
  · cases inserted with
    | error e => exact register_makes hwrite hmark
    | ok id => exact ⟨hmark _ _ _, fun _ => register_makes hwrite hmark⟩

/-- From the creation of its schema on an attempt makes no other calls. -/
theorem create_makes (hensure : P (.ensureSchema t schema owner))
    (hwrite : P (.setModuleSchema t m schema))
    (hmark : ∀ target status error, P (.updateAudit target status error)) :
    (create m owner t schema inserted).Makes P := by
  rw [create_eq]
  exact ⟨hensure, afterCreation_makes hwrite hmark⟩

section Results

variable {Q : Except ProvisioningError String → Prop}

private theorem register_returns (hok : Q (.ok schema))
    (hupdate : ∀ detail, Q (.error (.registryUpdate t schema detail))) :
    (register m t schema inserted).Returns Q := by
  intro reply
  rcases reply with e | (_ | rows)
  · exact hupdate _
  · exact hupdate _
  · cases inserted with
    | error e => exact hok
    | ok id => exact fun _ => hok

/-- How an attempt ends that has chosen its schema. -/
theorem create_returns (hok : Q (.ok schema))
    (hupdate : ∀ detail, Q (.error (.registryUpdate t schema detail)))
    (hcreation : ∀ e, Q (.error (.schemaCreation t schema e (auditFailure inserted t)))) :
    (create m owner t schema inserted).Returns Q := by
  rw [create_eq]
  intro reply
  rcases reply with e | ⟨⟩
  · exact fun _ => hcreation e
  · cases inserted with
    | error e => exact register_returns hok hupdate
    | ok id => exact fun _ => register_returns hok hupdate

end Results

end Provisioning

end Tenancy
