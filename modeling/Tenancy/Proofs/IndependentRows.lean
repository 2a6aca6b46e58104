import Mathlib.Data.List.Pairwise
import Tenancy.Proofs.RowWork

/-!
# Rows of a pass do not notice each other

The rows that a pass works on are those of different tenants. Work on one of them asks for its
schema, for its tenant's row and for changes to that row and to itself. No such call notices a call
that is made for another row, so two rows can change places, and which calls fail for one of them does
not matter to the other.

`workThrough` works on rows one after the other, where calls fail by row: each row counts its own
calls. That is what a pass does after its query, with calls that fail by their number.

## Key results

- `runWith_comm`: two programs whose calls do not notice each other
- `workThrough_perm`, `outcome_workThrough`, `report_eq_tally`: the order of the rows does not
  matter, each comes to what it comes to alone, and is counted by that
- `exists_runWith_eq_workThrough`, `exists_workThrough_eq_runWith`: runs of a pass work through rows
- `rows_independent`: all of it, with what is said of a row by its outcome
-/

namespace Tenancy

/-! ## Calls that do not notice each other -/

/-- Two calls of which either may come first: they answer the same, and leave the same. -/
structure StoreCall.Independent (c d : StoreCall) : Prop where
  first : ∀ s : Store, ((s.apply d).2.apply c).1 = (s.apply c).1
  second : ∀ s : Store, ((s.apply c).2.apply d).1 = (s.apply d).1
  stores : ∀ s : Store, ((s.apply c).2.apply d).2 = ((s.apply d).2.apply c).2

theorem StoreCall.Independent.symm {c d : StoreCall} (h : c.Independent d) : d.Independent c :=
  ⟨h.second, h.first, fun s => (h.stores s).symm⟩

section Programs

variable {α β : Type} {p : StoreProgram α} {q : StoreProgram β} {c d : StoreCall}

/-- A call that no call of a program notices may be made before it or after it. -/
private theorem runWith_apply (h : p.Makes fun c => c.Independent d) (fails : Nat → Option DbError)
    (index : Nat) (s : Store) :
    p.runWith fails index (s.apply d).2 =
        ((p.runWith fails index s).1, ((p.runWith fails index s).2.apply d).2) ∧
      ((p.runWith fails index s).2.apply d).1 = (s.apply d).1 := by
  induction p generalizing index s with
  | done a => exact ⟨rfl, rfl⟩
  | ask c k ih =>
    obtain ⟨hc, hrest⟩ := h
    rw [StoreProgram.runWith, StoreProgram.runWith]
    cases fails index with
    | some err => exact ih (.error err) (hrest _) (index + 1) s
    | none =>
      obtain ⟨hsame, hanswer⟩ := ih (.ok (s.apply c).1) (hrest _) (index + 1) (s.apply c).2
      dsimp only
      rw [hc.first, ← hc.stores]
      exact ⟨hsame, hanswer.trans (hc.second s)⟩

/-- Two programs whose calls do not notice each other may be run in either order, whichever of their
    calls fail. -/
theorem runWith_comm (h : q.Makes fun d => p.Makes fun c => c.Independent d)
    (fails fails' : Nat → Option DbError) (index index' : Nat) (s : Store) :
    (p.runWith fails index (q.runWith fails' index' s).2).1 = (p.runWith fails index s).1 ∧
      q.runWith fails' index' (p.runWith fails index s).2 =
        ((q.runWith fails' index' s).1, (p.runWith fails index (q.runWith fails' index' s).2).2) := by
  induction q generalizing index' s with
  | done b => exact ⟨rfl, rfl⟩
  | ask d k ih =>
    obtain ⟨hd, hrest⟩ := h
    rw [StoreProgram.runWith, StoreProgram.runWith]
    cases fails' index' with
    | some err => exact ih (.error err) (hrest _) (index' + 1) s
    | none =>
      -- the first call of the one moves past the other
      obtain ⟨hmoved, hanswer⟩ := runWith_apply hd fails index s
      have hnext := ih (.ok (s.apply d).1) (hrest _) (index' + 1) (s.apply d).2
      rw [hmoved] at hnext
      dsimp only at hnext ⊢
      rw [hanswer]
      exact hnext

end Programs

namespace Reconciliation

variable {m : ServiceModule} {e e' : Audit.Entry} {s : Store} {rows order : List Audit.Entry}
  {fails fails' : Nat → Option DbError} {faults faults' : Audit.Entry → Nat → Option DbError}
  {cutoff : Timestamp}

/-! ## Calls for a row -/

/-- The calls of the work on a row. -/
inductive About (m : ServiceModule) (e : Audit.Entry) : StoreCall → Prop where
  | look : About m e (.schemaExists e.schema)
  | read : About m e (.findTenant e.tenant)
  | write : About m e (.setModuleSchema e.tenant m e.schema)
  | mark (status : Audit.Status) (error : Option String) :
    About m e (.updateAudit (.entry e.id) status error)

/-- Rows of different tenants, with different ids. -/
structure Apart (e e' : Audit.Entry) : Prop where
  tenant : e.tenant ≠ e'.tenant
  id : e.id ≠ e'.id

instance : Std.Symm Apart := ⟨fun _ _ h => ⟨h.tenant.symm, h.id.symm⟩⟩

/-- Rows of the log that are of different tenants are apart. -/
theorem pairwise_apart (hs : s.Keyed) (hlog : ∀ e ∈ rows, e ∈ s.audits)
    (htenants : (rows.map (·.tenant)).Nodup) : rows.Pairwise Apart := by
  refine (List.pairwise_map.mp htenants).imp_of_mem fun {e e'} he he' hne => ⟨hne, fun hid => hne ?_⟩
  rw [hs.eq_of_id_eq (hlog e he) (hlog e' he') hid]

theorem pairwise_stalledAudits (hs : s.Keyed) (m : ServiceModule) (cutoff : Timestamp) :
    (s.stalledAudits m cutoff).Pairwise Apart :=
  pairwise_apart hs (fun _ he => (Store.mem_of_mem_stalledAudits he).1)
    (hs.nodup_tenants_stalledAudits m cutoff)

/-- The columns of two tenants are written. -/
private theorem setModuleSchema_comm (s : Store) {t u : TenantId} (htu : t ≠ u) (m : ServiceModule)
    (schema schema' : String) :
    (s.setModuleSchema t m schema).setModuleSchema u m schema' =
      (s.setModuleSchema u m schema').setModuleSchema t m schema := by
  have hrow : ∀ r : TenantRecord,
      (r.write t m schema s.clock).write u m schema' s.clock =
        (r.write u m schema' s.clock).write t m schema s.clock := by
    intro r
    by_cases ht : r.tenant = t
    · simp [TenantRecord.write, TenantRecord.withSchema, ht, htu]
    · by_cases hu : r.tenant = u
      · simp [TenantRecord.write, TenantRecord.withSchema, hu, htu.symm]
      · simp [TenantRecord.write, ht, hu]
  simp only [Store.setModuleSchema_eq, List.map_map, Function.comp_def, hrow]

/-- Two rows of the log are marked. -/
private theorem updateAudit_comm (s : Store) {id id' : Int} (hid : id ≠ id')
    (status status' : Audit.Status) (error error' : Option String) :
    (s.updateAudit (.entry id) status error).updateAudit (.entry id') status' error' =
      (s.updateAudit (.entry id') status' error').updateAudit (.entry id) status error := by
  have hrow : ∀ e : Audit.Entry,
      (Audit.Target.entry id').update status' error' ((Audit.Target.entry id).update status error e) =
        (Audit.Target.entry id).update status error
          ((Audit.Target.entry id').update status' error' e) := by
    intro e
    by_cases he : e.id = id
    · simp [Audit.Target.update, Audit.Target.covers, Audit.Entry.mark, he, hid]
    · by_cases he' : e.id = id'
      · simp [Audit.Target.update, Audit.Target.covers, Audit.Entry.mark, he', hid.symm]
      · simp [Audit.Target.update, Audit.Target.covers, he, he']
  simp only [Store.updateAudit_eq, List.map_map, Function.comp_def, hrow]

/-- How many rows have an id is not a matter of what was marked. -/
private theorem length_covers_updateAudit (s : Store) (id : Int) (target : Audit.Target)
    (status : Audit.Status) (error : Option String) :
    ((s.updateAudit target status error).audits.filter (Audit.Target.entry id).covers).length =
      (s.audits.filter (Audit.Target.entry id).covers).length := by
  have hcovers : (Audit.Target.entry id).covers ∘ target.update status error =
      (Audit.Target.entry id).covers := by
    funext e
    simp only [Audit.Target.covers, Function.comp_apply,
      (target.continues_update status error e).id_eq]
  rw [Store.updateAudit_eq, List.filter_map, List.length_map, hcovers]

/-- No call for a row changes which schemas exist. -/
private theorem independent_look {d : StoreCall} (hd : About m e' d) (schema : String) :
    (StoreCall.schemaExists schema).Independent d := by
  cases hd <;> exact ⟨fun _ => rfl, fun _ => rfl, fun _ => rfl⟩

/-- Marking a row changes nothing of the registry. -/
private theorem independent_mark (he : Apart e e') {d : StoreCall} (hd : About m e' d)
    (status : Audit.Status) (error : Option String) :
    (StoreCall.updateAudit (.entry e.id) status error).Independent d := by
  cases hd with
  | look => exact ⟨fun _ => rfl, fun _ => rfl, fun _ => rfl⟩
  | read => exact ⟨fun _ => rfl, fun _ => rfl, fun _ => rfl⟩
  | write => exact ⟨fun _ => rfl, fun _ => rfl, fun _ => rfl⟩
  | mark status' error' =>
    exact ⟨fun s => length_covers_updateAudit s _ _ _ _,
      fun s => length_covers_updateAudit s _ _ _ _, fun s => updateAudit_comm s he.id _ _ _ _⟩

/-- A column is written while another tenant's row is read. -/
private theorem independent_read (he : Apart e e') :
    (StoreCall.findTenant e.tenant).Independent (.setModuleSchema e'.tenant m e'.schema) where
  first s := by
    refine (Store.tenant?_setModuleSchema s e'.tenant e.tenant m e'.schema).trans ?_
    simp only [he.tenant, if_false]
    exact Option.map_id'
  second _ := rfl
  stores _ := rfl

private theorem independent_write (he : Apart e e') :
    (StoreCall.setModuleSchema e.tenant m e.schema).Independent
      (.setModuleSchema e'.tenant m e'.schema) where
  first s := by
    have hrow := s.isSome_tenant?_apply (.setModuleSchema e'.tenant m e'.schema) e.tenant
    exact if_congr (by rw [hrow]) rfl rfl
  second s := by
    have hrow := s.isSome_tenant?_apply (.setModuleSchema e.tenant m e.schema) e'.tenant
    exact if_congr (by rw [hrow]) rfl rfl
  stores s := setModuleSchema_comm s he.tenant m e.schema e'.schema

/-- Calls for rows that are apart do not notice each other. -/
theorem About.independent {c d : StoreCall} (hc : About m e c) (he : Apart e e')
    (hd : About m e' d) : c.Independent d := by
  have hsymm : Apart e' e := symm he
  cases hc with
  | look => exact independent_look hd e.schema
  | mark status error => exact independent_mark he hd status error
  | read =>
    cases hd with
    | look => exact (independent_look (m := m) .read e'.schema).symm
    | read => exact ⟨fun _ => rfl, fun _ => rfl, fun _ => rfl⟩
    | write => exact independent_read he
    | mark status error => exact (independent_mark (m := m) hsymm .read status error).symm
  | write =>
    cases hd with
    | look => exact (independent_look .write e'.schema).symm
    | read => exact (independent_read hsymm).symm
    | write => exact independent_write he
    | mark status error => exact (independent_mark hsymm .write status error).symm

/-- Work on a row and work on another, in either order, whichever of their calls fail. -/
theorem entry_comm (he : Apart e e') (fails fails' : Nat → Option DbError) (s : Store) :
    ((entry m e).runWith fails 0 ((entry m e').runWith fails' 0 s).2).1 =
        ((entry m e).runWith fails 0 s).1 ∧
      (entry m e').runWith fails' 0 ((entry m e).runWith fails 0 s).2 =
        (((entry m e').runWith fails' 0 s).1,
          ((entry m e).runWith fails 0 ((entry m e').runWith fails' 0 s).2).2) := by
  have hmakes : (entry m e').Makes fun d => (entry m e).Makes fun c => c.Independent d := by
    have hcalls : ∀ d, About m e' d → (entry m e).Makes fun c => c.Independent d := fun d hd =>
      entry_makes m e (About.look.independent he hd) (About.read.independent he hd)
        (About.write.independent he hd) fun status error =>
          (About.mark status error).independent he hd
    exact entry_makes m e' (hcalls _ .look) (hcalls _ .read) (hcalls _ .write)
      fun status error => hcalls _ (.mark status error)
  exact runWith_comm hmakes fails fails' 0 0 s

/-! ## What is counted -/

/-- How many rows were counted. -/
def Report.total (r : Report) : Nat := r.repaired + r.confirmed + r.failed + r.conflicts + r.errors

/-- Whether some call for a row failed. -/
def isError : Except DbError Outcome → Bool
  | .ok _ => false
  | .error _ => true

/-- The report that counts outcomes, each in the counter of its kind. -/
def Report.tally (outcomes : List (Except DbError Outcome)) : Report where
  repaired := outcomes.count (.ok .repaired)
  confirmed := outcomes.count (.ok .confirmed)
  failed := outcomes.count (.ok .failed)
  conflicts := outcomes.count (.ok .conflict)
  errors := outcomes.countP isError

theorem Report.tally_concat (outcomes : List (Except DbError Outcome))
    (outcome : Except DbError Outcome) :
    tally (outcomes ++ [outcome]) = (tally outcomes).count outcome := by
  rcases outcome with err | _ | _ | _ | _ <;> simp [tally, count, isError]

/-- Outcomes that are counted one after the other. -/
theorem Report.foldl_count_eq_tally (outcomes : List (Except DbError Outcome)) :
    outcomes.foldl count {} = tally outcomes := by
  induction outcomes using List.reverseRecOn with
  | nil => rfl
  | append_singleton outcomes outcome ih => rw [List.foldl_concat, ih, tally_concat]

/-- No outcome is counted twice or left out. -/
theorem Report.total_tally (outcomes : List (Except DbError Outcome)) :
    (tally outcomes).total = outcomes.length := by
  induction outcomes using List.reverseRecOn with
  | nil => rfl
  | append_singleton outcomes outcome ih =>
    rw [tally_concat, List.length_append, ← ih]
    rcases outcome with err | _ | _ | _ | _ <;> simp only [count, total, List.length_singleton] <;>
      omega

/-! ## Working through rows -/

/-- What was counted so far and the stores, with the work on one more row. The calls for a row fail as
    `faults` says, counted from zero for each row. -/
def workOn (m : ServiceModule) (faults : Audit.Entry → Nat → Option DbError) (state : Report × Store)
    (e : Audit.Entry) : Report × Store :=
  (state.1.count ((entry m e).runWith (faults e) 0 state.2).1,
    ((entry m e).runWith (faults e) 0 state.2).2)

/-- Works on rows one after the other. -/
def workThrough (m : ServiceModule) (faults : Audit.Entry → Nat → Option DbError)
    (rows : List Audit.Entry) (state : Report × Store) : Report × Store :=
  rows.foldl (workOn m faults) state

theorem workThrough_cons (m : ServiceModule) (faults : Audit.Entry → Nat → Option DbError)
    (e : Audit.Entry) (rows : List Audit.Entry) (state : Report × Store) :
    workThrough m faults (e :: rows) state = workThrough m faults rows (workOn m faults state e) :=
  rfl

theorem workThrough_concat (m : ServiceModule) (faults : Audit.Entry → Nat → Option DbError)
    (rows : List Audit.Entry) (e : Audit.Entry) (state : Report × Store) :
    workThrough m faults (rows ++ [e]) state = workOn m faults (workThrough m faults rows state) e :=
  List.foldl_append

/-- What the work on every row keeps, the work on all of them keeps. -/
theorem workThrough_invariant {P : Store → Prop}
    (hkeeps : ∀ e ∈ rows, ∀ s result, P s → Worked (faults e) m e s result → P result.2)
    {state : Report × Store} (hs : P state.2) : P (workThrough m faults rows state).2 := by
  induction rows generalizing state with
  | nil => exact hs
  | cons e rows ih =>
    rw [workThrough_cons]
    refine ih (fun e' he' => hkeeps e' (List.mem_cons_of_mem _ he')) ?_
    exact hkeeps e List.mem_cons_self _ _ hs (worked_entry (faults e) m e 0 state.2)

theorem Report.count_comm (r : Report) (a b : Except DbError Outcome) :
    (r.count a).count b = (r.count b).count a := by
  rcases a with err | _ | _ | _ | _ <;> rcases b with err' | _ | _ | _ | _ <;> rfl

variable {report : Report} {state : Report × Store} {before after : List Audit.Entry}

/-- Two rows change places. -/
private theorem workOn_comm (he : Apart e e') :
    workOn m faults (workOn m faults state e) e' = workOn m faults (workOn m faults state e') e := by
  obtain ⟨houtcome, hother⟩ := entry_comm (m := m) he (faults e) (faults e') state.2
  simp only [workOn, houtcome, hother]
  rw [Report.count_comm]

/-- The order of the rows does not matter. -/
theorem workThrough_perm (m : ServiceModule) (faults : Audit.Entry → Nat → Option DbError)
    (hrows : rows.Pairwise Apart) (horder : order.Perm rows) (state : Report × Store) :
    workThrough m faults order state = workThrough m faults rows state := by
  refine (horder.symm.foldl_eq' (fun e he e' he' state => ?_) state).symm
  by_cases hsame : e = e'
  · rw [hsame]
  · exact workOn_comm (hrows.forall he he' hsame)

/-- A row comes to what it comes to alone, whatever other rows were worked on before. -/
theorem outcome_workThrough (m : ServiceModule) (faults : Audit.Entry → Nat → Option DbError)
    (fails : Nat → Option DbError) (hrows : ∀ row ∈ rows, Apart e row) (state : Report × Store) :
    ((entry m e).runWith fails 0 (workThrough m faults rows state).2).1 =
      ((entry m e).runWith fails 0 state.2).1 := by
  induction rows generalizing state with
  | nil => rfl
  | cons row rows ih =>
    have hrest := ih (fun row' hrow' => hrows row' (List.mem_cons_of_mem _ hrow'))
      (workOn m faults state row)
    exact hrest.trans (entry_comm (hrows row List.mem_cons_self) fails (faults row) state.2).1

/-- What is counted of the rows is what each of them comes to alone. -/
theorem report_workThrough (hrows : rows.Pairwise Apart) (report : Report) (s : Store) :
    (workThrough m faults rows (report, s)).1 =
      rows.foldl (fun r e => r.count ((entry m e).runWith (faults e) 0 s).1) report := by
  induction rows generalizing report s with
  | nil => rfl
  | cons row rows ih =>
    obtain ⟨hothers, hrest⟩ := List.pairwise_cons.mp hrows
    refine (ih hrest _ _).trans (List.foldl_ext _ _ _ fun r e he => ?_)
    rw [(entry_comm (symm (hothers e he)) (faults e) (faults row) s).1]

/-- The rows are counted by what each of them comes to alone. -/
theorem report_eq_tally (hrows : rows.Pairwise Apart) (s : Store) :
    (workThrough m faults rows ({}, s)).1 =
      .tally (rows.map fun e => ((entry m e).runWith (faults e) 0 s).1) := by
  rw [report_workThrough hrows, ← Report.foldl_count_eq_tally, List.foldl_map]

/-- A row stays as it is while others are worked on. -/
theorem mem_workThrough (m : ServiceModule) (faults : Audit.Entry → Nat → Option DbError)
    (hrows : ∀ row ∈ rows, Apart e row) (he : e ∈ state.2.audits) :
    e ∈ (workThrough m faults rows state).2.audits :=
  workThrough_invariant (P := fun s => e ∈ s.audits)
    (fun row hrow _ _ hmem hworked => hworked.mem_of_id_ne hmem (hrows row hrow).id) he

theorem keyed_workThrough (m : ServiceModule) (faults : Audit.Entry → Nat → Option DbError)
    (rows : List Audit.Entry) (hs : state.2.Keyed) : (workThrough m faults rows state).2.Keyed :=
  workThrough_invariant (P := Store.Keyed) (fun _ _ _ _ hkeyed hworked => hworked.keyed hkeyed) hs

/-! ## Runs of a pass -/

theorem workThrough_congr (h : ∀ e ∈ rows, faults e = faults' e) (state : Report × Store) :
    workThrough m faults rows state = workThrough m faults' rows state :=
  List.foldl_ext _ _ _ fun state e he => by rw [workOn, workOn, h e he]

/-- However calls fail by row, they can fail by their number. -/
theorem exists_runWith_eq_workThrough (m : ServiceModule)
    (faults : Audit.Entry → Nat → Option DbError) (rows : List Audit.Entry) (report : Report)
    (index : Nat) (s : Store) :
    ∃ fails, (entries m rows report).runWith fails index s =
      workThrough m faults rows (report, s) := by
  induction rows generalizing report index s with
  | nil => exact ⟨fun _ => none, rfl⟩
  | cons e rows ih =>
    -- the calls for the first row count from `index`
    have hfirst : (entry m e).runWith (fun i => faults e (i - index)) index s =
        (entry m e).runWith (faults e) 0 s := by
      have hcount := runWith_add (fun i => faults e (i - index)) (entry m e) 0 index s
      simpa only [Nat.zero_add, Nat.add_sub_cancel] using hcount
    refine exists_runWith_of_bind (fun i => faults e (i - index)) fun next => ?_
    rw [hfirst]
    exact ih _ next _

/-- However calls fail by their number, they fail by row, if no row is worked on twice. -/
theorem exists_workThrough_eq_runWith (fails : Nat → Option DbError) (hrows : rows.Nodup)
    (report : Report) (index : Nat) (s : Store) :
    ∃ faults, (entries m rows report).runWith fails index s =
      workThrough m faults rows (report, s) := by
  induction rows generalizing report index s with
  | nil => exact ⟨fun _ _ => none, rfl⟩
  | cons e rows ih =>
    obtain ⟨hnew, hrest⟩ := List.nodup_cons.mp hrows
    obtain ⟨next, hnext⟩ := exists_runWith_bind fails (entry m e)
      (fun outcome => entries m rows (report.count outcome)) index s
    obtain ⟨faults, hfaults⟩ := ih hrest (report.count ((entry m e).runWith fails index s).1) next
      ((entry m e).runWith fails index s).2
    refine ⟨fun row => if row = e then fun i => fails (i + index) else faults row, ?_⟩
    rw [entries, hnext, hfaults]
    have hfirst := runWith_add fails (entry m e) 0 index s
    rw [Nat.zero_add] at hfirst
    rw [workThrough_cons, workOn, if_pos rfl, ← hfirst]
    refine workThrough_congr (fun row hrow => ?_) _
    have hne : row ≠ e := fun heq => hnew (heq ▸ hrow)
    exact (if_neg hne).symm

/-- What a pass does after its query was answered. -/
def afterQuery (m : ServiceModule) :
    Except DbError (List Audit.Entry) → StoreProgram (Except DbError Report)
  | .error err => return .error err
  | .ok rows => do
    let report ← entries m rows {}
    return .ok report

theorem pass_eq_ask (m : ServiceModule) (cutoff : Timestamp) :
    pass m cutoff = .ask (.stalledAudits m cutoff) (afterQuery m) := by
  rw [pass, ask, Program.call_bind]
  congr 1
  funext r
  cases r <;> rfl

theorem runWith_afterQuery (fails : Nat → Option DbError) (m : ServiceModule)
    (rows : List Audit.Entry) (index : Nat) (s : Store) :
    (afterQuery m (.ok rows)).runWith fails index s =
      (.ok ((entries m rows {}).runWith fails index s).1,
        ((entries m rows {}).runWith fails index s).2) := by
  obtain ⟨next, hnext⟩ := exists_runWith_bind fails (entries m rows {})
    (fun report => (.done (.ok report) : StoreProgram (Except DbError Report))) index s
  exact hnext

/-- What is said of a row that a pass has worked on, by its outcome: of the stores before and after the
    work on it, and of those at the end of the pass. -/
structure Accounted (m : ServiceModule) (e : Audit.Entry) (outcome : Except DbError Outcome)
    (before after final : Store) : Prop where
  /-- Rows that failed or met a conflict leave all tenants as they were. -/
  untouched : outcome = .ok .failed ∨ outcome = .ok .conflict → after.tenants = before.tenants
  /-- A row with an error stays as it is; at most its name is registered, where none was. -/
  error : ∀ err, outcome = .error err → e ∈ final.audits ∧ after.audits = before.audits ∧
    (after.tenants = before.tenants ∨ before.registered? m e.tenant = none ∧
      after.tenants = (before.setModuleSchema e.tenant m e.schema).tenants)
  /-- A row that was repaired or confirmed ends as a success, with its name registered. -/
  settled : outcome = .ok .repaired ∨ outcome = .ok .confirmed →
    final.registered? m e.tenant = Text.nonBlank? e.schema ∧ e.mark .success none ∈ final.audits

/-- What becomes of a row, wherever it stands among those worked on. -/
private theorem accounted_workThrough (hrows : (before ++ e :: after).Pairwise Apart)
    (he : e ∈ s.audits) :
    let turn := (workThrough m faults before (report, s)).2
    let worked := (entry m e).runWith (faults e) 0 turn
    worked.1 = ((entry m e).runWith (faults e) 0 s).1 ∧
      Accounted m e worked.1 turn worked.2
        (workThrough m faults (before ++ e :: after) (report, s)).2 := by
  intro turn worked
  obtain ⟨hothers, -⟩ := List.pairwise_cons.mp (List.perm_middle.pairwise hrows fun h => symm h)
  -- the row could as well be the last one
  have hlast : (before ++ after ++ [e]).Perm (before ++ e :: after) :=
    (List.perm_append_singleton e (before ++ after)).trans List.perm_middle.symm
  have hend := workThrough_perm m faults hrows hlast (report, s)
  rw [workThrough_concat] at hend
  rw [← hend]
  have houtcome : worked.1 = ((entry m e).runWith (faults e) 0 s).1 :=
    outcome_workThrough m faults (faults e)
      (fun row hrow => hothers row (List.mem_append_left _ hrow)) (report, s)
  have hsame : ((entry m e).runWith (faults e) 0
      (workThrough m faults (before ++ after) (report, s)).2).1 = worked.1 :=
    (outcome_workThrough m faults (faults e) hothers (report, s)).trans houtcome.symm
  have hmem : e ∈ (workThrough m faults (before ++ after) (report, s)).2.audits :=
    mem_workThrough m faults hothers he
  have hturn : Worked (faults e) m e turn worked := worked_entry (faults e) m e 0 turn
  have hworked := worked_entry (faults e) m e 0
    (workThrough m faults (before ++ after) (report, s)).2
  refine ⟨houtcome, hturn.tenants_eq, fun err herror => ⟨?_, hturn.of_error herror⟩, fun hsettled => ?_⟩
  · exact (hworked.of_error (hsame.trans herror)).1 ▸ hmem
  · exact hworked.of_settled (hsame ▸ hsettled) hmem

/-- However calls fail by row, a pass can meet these failures. -/
theorem exists_runWith_pass_eq (m : ServiceModule) (faults : Audit.Entry → Nat → Option DbError)
    (cutoff : Timestamp) (s : Store) :
    ∃ fails, (pass m cutoff).runWith fails 0 s =
      (.ok (workThrough m faults (s.stalledAudits m cutoff) ({}, s)).1,
        (workThrough m faults (s.stalledAudits m cutoff) ({}, s)).2) := by
  have hrows := exists_runWith_eq_workThrough m faults (s.stalledAudits m cutoff) {} (0 + 1) s
  obtain ⟨fails, hquery, hrest⟩ := exists_runWith_of_first hrows none
  refine ⟨fails, ?_⟩
  rw [pass_eq_ask, StoreProgram.runWith, hquery]
  show (afterQuery m (.ok (s.stalledAudits m cutoff))).runWith fails (0 + 1) s = _
  rw [runWith_afterQuery, hrest]

/-- A pass whose query succeeds works through the rows that it finds, however its calls fail. -/
theorem exists_workThrough_eq_pass (hs : s.Keyed) (hquery : fails 0 = none) (m : ServiceModule)
    (cutoff : Timestamp) :
    ∃ faults, (pass m cutoff).runWith fails 0 s =
      (.ok (workThrough m faults (s.stalledAudits m cutoff) ({}, s)).1,
        (workThrough m faults (s.stalledAudits m cutoff) ({}, s)).2) := by
  obtain ⟨faults, hfaults⟩ := exists_workThrough_eq_runWith fails
    (List.Nodup.of_map (·.id) (hs.nodup_stalledAudits (m := m) cutoff)) {} 1 s
  refine ⟨faults, ?_⟩
  rw [pass_eq_ask, StoreProgram.runWith, hquery]
  show (afterQuery m (.ok (s.stalledAudits m cutoff))).runWith fails (0 + 1) s = _
  rw [runWith_afterQuery, hfaults]

/-- Rows of different tenants, in any order and with any faults for each of them: a pass ends with the
    same report and the same stores, each row comes to what it comes to alone, and the report counts
    these outcomes.
    The faults of a pass are always of this form (`exists_workThrough_eq_pass`). -/
theorem rows_independent (m : ServiceModule) (faults : Audit.Entry → Nat → Option DbError)
    (hs : s.Keyed) (hlog : ∀ e ∈ rows, e ∈ s.audits) (htenants : (rows.map (·.tenant)).Nodup) :
    let ended := workThrough m faults rows ({}, s)
    (∀ order, order.Perm rows → workThrough m faults order ({}, s) = ended ∧
        ∃ fails, (afterQuery m (.ok order)).runWith fails 1 s = (.ok ended.1, ended.2)) ∧
      (∀ cutoff, rows = s.stalledAudits m cutoff →
        ∃ fails, (pass m cutoff).runWith fails 0 s = (.ok ended.1, ended.2)) ∧
      ended.1 = .tally (rows.map fun e => ((entry m e).runWith (faults e) 0 s).1) ∧
      ended.1.total = rows.length ∧
      ∀ before e after, (before ++ e :: after).Perm rows →
        let turn := (workThrough m faults before ({}, s)).2
        let worked := (entry m e).runWith (faults e) 0 turn
        worked.1 = ((entry m e).runWith (faults e) 0 s).1 ∧
          Accounted m e worked.1 turn worked.2 ended.2 := by
  intro ended
  have hapart := pairwise_apart hs hlog htenants
  have hsame : ∀ order, order.Perm rows → workThrough m faults order ({}, s) = ended :=
    fun order horder => workThrough_perm m faults hapart horder ({}, s)
  have hreport : ended.1 = _ := report_eq_tally hapart s
  refine ⟨fun order horder => ⟨hsame order horder, ?_⟩, fun cutoff hfound => ?_, hreport, ?_, ?_⟩
  · obtain ⟨fails, hfails⟩ := exists_runWith_eq_workThrough m faults order {} 1 s
    rw [hsame order horder] at hfails
    exact ⟨fails, by rw [runWith_afterQuery, hfails]⟩
  · have hpass := exists_runWith_pass_eq m faults cutoff s
    rwa [← hfound] at hpass
  · rw [hreport, Report.total_tally, List.length_map]
  · intro before e after horder
    rw [← hsame _ horder]
    have he : e ∈ rows := horder.subset (List.mem_append_right _ List.mem_cons_self)
    exact accounted_workThrough (horder.symm.pairwise hapart fun h => symm h) (hlog e he)

/-- The row of an attempt that stopped before it registered its schema. -/
def stalledRow (m : ServiceModule) (id : Int) (t : TenantId) (schema : String) : Audit.Entry where
  id := id
  tenant := t
  moduleName := m.name
  action := Audit.provisionAction
  schema := schema
  status := .schemaCreated
  error := none
  actor := none
  createdAt := .ofNanos 0

/-- Fifteen tenants with a stalled row each. The registry names the schema of the second and the third,
    the schemas of the next three do not exist, and the registry names another schema for the four
    tenants after them. -/
def crowd : Store :=
  let column (n : Nat) : Option String :=
    if n = 1 ∨ n = 2 then some " ops_acme " else if 6 ≤ n ∧ n ≤ 9 then some "ops_other" else none
  let schema (n : Nat) : String := if 3 ≤ n ∧ n ≤ 5 then "ops_gone" else "ops_acme"
  { tenants := (List.range 15).map fun n =>
      { TenantRecord.unnamed .operations ⟨.ofNat 128 n⟩ with schemas := { operations := column n } }
    audits := (List.range 15).map fun n =>
      stalledRow .operations (n + 1 : Nat) ⟨.ofNat 128 n⟩ (schema n)
    lastAudit := 15
    schemas := ["ops_acme", "ops_other"]
    clock := .ofNanos 1 }

/-- The rows of the last five tenants cannot be marked. From the last row to the first, each kind of
    outcome is counted another number of times, and the last tenant has a schema while its row still says
    that it has none. -/
theorem rows_independent_crowd :
    let rows := crowd.stalledAudits .operations (.ofNanos 1)
    let faults : Audit.Entry → Nat → Option DbError := fun e i =>
      if 11 ≤ e.id ∧ i = 3 then some .poolTimedOut else none
    let ended := workThrough .operations faults rows.reverse ({}, crowd)
    crowd.Keyed ∧ (∀ e ∈ rows, e ∈ crowd.audits) ∧ (rows.map (·.tenant)).Nodup ∧
      ended.1 = { repaired := 1, confirmed := 2, failed := 3, conflicts := 4, errors := 5 } ∧
      ended.2.registered? .operations ⟨14⟩ = some "ops_acme" ∧
      stalledRow .operations 15 ⟨14⟩ "ops_acme" ∈ ended.2.audits := by
  intro rows faults ended
  have hkeyed : crowd.Keyed := ⟨by decide, by decide⟩
  have hlog : ∀ e ∈ rows, e ∈ crowd.audits := fun _ he => (Store.mem_of_mem_stalledAudits he).1
  have htenants : (rows.map (·.tenant)).Nodup := hkeyed.nodup_tenants_stalledAudits _ _
  obtain ⟨hsame, -, hreport, -, hrows⟩ :=
    rows_independent .operations faults hkeyed hlog htenants
  have hended : ended = workThrough .operations faults rows ({}, crowd) :=
    (hsame rows.reverse rows.reverse_perm).1
  have hlast := hrows (rows.take 14) (stalledRow .operations 15 ⟨14⟩ "ops_acme") []
    (List.Perm.of_eq (by decide +kernel))
  refine ⟨hkeyed, hlog, htenants, ?_, ?_, ?_⟩
  · rw [hended]
    exact hreport.trans (by decide +kernel)
  · rw [hended]
    decide +kernel
  · rw [hended]
    exact (hlast.2.error .poolTimedOut (by decide +kernel)).1

end Reconciliation

end Tenancy
