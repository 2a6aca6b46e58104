import Mathlib.Data.List.Infix
import Tenancy.Proofs.Contract

/-!
# Jobs that follow one another

Jobs of a kind follow one another where each begins after those begun before it are over. A task is
over when it has returned or was dropped. Then at most one task of the kind is under way at every
moment of the run.

## Key results

- `State.atMostOne_run`: at most one task of the kind is under way
-/

namespace Tenancy.Interleaving

/-- The task has returned or was dropped. -/
def Task.isOver (task : Task) : Bool :=
  task.dropped ||
    match task.rest with
    | .done _ => true
    | .ask _ _ => false

namespace Task

variable {task : Task}

theorem dropped_eq_false (h : task.isOver = false) : task.dropped = false := by
  unfold isOver at h
  exact (Bool.or_eq_false_iff.mp h).1

theorem isOver_of_rest {c : ServiceCall} {k : c.Reply → ServiceProgram Outcome}
    (h : task.rest = .ask c k) : task.isOver = task.dropped := by
  simp [isOver, h]

/-- A task that was not dropped is over when it has returned. -/
theorem exists_done_of_isOver (hlive : task.dropped = false) (h : task.isOver = true) :
    ∃ outcome, task.rest = .done outcome := by
  unfold isOver at h
  rw [hlive, Bool.false_or] at h
  split at h
  · next outcome hrest => exact ⟨outcome, hrest⟩
  · cases h

end Task

namespace State

variable {m : ServiceModule} {kind : Job → Prop} {S : State} {move : Move}

/-- Jobs of a kind follow one another: each begins where those begun before it are over. -/
def Successive (m : ServiceModule) (kind : Job → Prop) : State → List Move → Prop
  | _, [] => True
  | S, move :: moves =>
    (∀ id p job, move = .start id p job → kind job → ∀ i task, S.tasks i = some task →
      kind task.job → task.isOver = true) ∧ Successive m kind (S.step m move) moves

/-- Moves that begin no job of a kind begin none too early. -/
theorem successive_of_admits {moves : List Move}
    (h : ∀ move ∈ moves, move.Admits fun _ job => ¬kind job) : Successive m kind S moves := by
  induction moves generalizing S with
  | nil => trivial
  | cons move moves ih =>
    refine ⟨fun id p job hmove hjob => ?_, ih fun move' hmem => h move' (List.mem_cons_of_mem _ hmem)⟩
    have hadmits := h move List.mem_cons_self
    rw [hmove] at hadmits
    exact absurd hjob hadmits

theorem successive_append {moves later : List Move} :
    Successive m kind S (moves ++ later) ↔
      Successive m kind S moves ∧ Successive m kind (S.run m moves) later := by
  induction moves generalizing S with
  | nil => exact ⟨fun h => ⟨trivial, h⟩, fun h => h.2⟩
  | cons move moves ih =>
    rw [List.cons_append, run_cons]
    constructor
    · rintro ⟨hfirst, hrest⟩
      exact ⟨⟨hfirst, (ih.mp hrest).1⟩, (ih.mp hrest).2⟩
    · rintro ⟨⟨hfirst, hmoves⟩, hlater⟩
      exact ⟨hfirst, ih.mpr ⟨hmoves, hlater⟩⟩

/-- A job may begin where the tasks of all moves so far are over. -/
theorem successive_append_start {s : Store} {moves later : List Move} {id : TaskId} {p : ProcessId}
    {job : Job} (h : Successive m kind (idle s) moves)
    (hover : ∀ move ∈ moves, ∀ i q other, move = .start i q other →
      (((idle s).run m moves).tasks i).all (·.isOver) = true)
    (hlater : ∀ move ∈ later, move.Admits fun _ job => ¬kind job) :
    Successive m kind (idle s) (moves ++ .start id p job :: later) := by
  refine successive_append.mpr ⟨h, fun _ _ _ _ _ i task hi _ => ?_, successive_of_admits hlater⟩
  have hisOver := hover _ (start_mem_of_tasks hi) i _ _ rfl
  rwa [hi, Option.all_some] at hisOver

/-- At most one task of a kind is under way. -/
def AtMostOne (kind : Job → Prop) (S : State) : Prop :=
  ∀ i j task other, S.tasks i = some task → S.tasks j = some other → kind task.job →
    kind other.job → task.isOver = false → other.isOver = false → i = j

/-- A task that is under way after a move was before it, or the move began it. -/
theorem underWay_of_step {i : TaskId} {task' : Task} (h : (S.step m move).tasks i = some task')
    (hunder : task'.isOver = false) :
    (∃ task, S.tasks i = some task ∧ task.job = task'.job ∧ task.isOver = false) ∨
      ∃ p, move = .start i p task'.job := by
  have hchange := S.step_change m move
  generalize S.step m move = S' at h hchange
  -- a task that the move does not concern is the one that it was
  have hupdate : ∀ {id : TaskId} {changed : Task},
      S'.tasks = Function.update S.tasks id (some changed) →
      (i = id → changed = task' →
        (∃ task, S.tasks i = some task ∧ task.job = task'.job ∧ task.isOver = false) ∨
          ∃ p, move = .start i p task'.job) →
      (∃ task, S.tasks i = some task ∧ task.job = task'.job ∧ task.isOver = false) ∨
        ∃ p, move = .start i p task'.job := by
    intro id changed htasks hself
    rw [htasks] at h
    by_cases hi : i = id
    · rw [hi, Function.update_self] at h
      exact hself hi (Option.some.inj h)
    · rw [Function.update_of_ne hi] at h
      exact .inl ⟨task', h, rfl, hunder⟩
  cases hchange with
  | still hstore hlog htasks => exact .inl ⟨task', htasks ▸ h, rfl, hunder⟩
  | ticked now hmove hstore hlog htasks => exact .inl ⟨task', htasks ▸ h, rfl, hunder⟩
  | started id p job hmove hnew hstore hlog htasks =>
    refine hupdate htasks fun hi hsame => .inr ⟨p, ?_⟩
    rw [hmove, hi, ← hsame]
  | answered id task c k r v hid hlive hrest hanswer hstore hlog htasks =>
    refine hupdate htasks fun hi hsame => .inl ⟨task, hi ▸ hid, hsame ▸ rfl, ?_⟩
    rw [Task.isOver_of_rest hrest, hlive]
  | dropped id task hid hstore hlog htasks =>
    refine hupdate htasks fun _ hsame => ?_
    rw [← hsame] at hunder
    cases Task.dropped_eq_false hunder
  | droppedApplied id task c k hid hlive hrest hstore hlog htasks =>
    refine hupdate htasks fun _ hsame => ?_
    rw [← hsame] at hunder
    cases Task.dropped_eq_false hunder

theorem AtMostOne.step (h : S.AtMostOne kind)
    (hstart : ∀ id p job, move = .start id p job → kind job → ∀ i task, S.tasks i = some task →
      kind task.job → task.isOver = true) : (S.step m move).AtMostOne kind := by
  -- a task that is begun is the only one of its kind, since those before it are over
  have hfirst : ∀ {i p job j task}, move = .start i p job → kind job → S.tasks j = some task →
      kind task.job → task.isOver = false → False := by
    intro i p job j task hmove hjob hj hkind hunder
    rw [hstart i p job hmove hjob j task hj hkind] at hunder
    cases hunder
  intro i j task other hi hj hkind hotherKind hunder hotherUnder
  rcases underWay_of_step hi hunder with ⟨task₀, hi₀, hjob, hunder₀⟩ | ⟨p, hmove⟩
  · rcases underWay_of_step hj hotherUnder with ⟨other₀, hj₀, hotherJob, hotherUnder₀⟩ | ⟨q, hmove⟩
    · exact h i j task₀ other₀ hi₀ hj₀ (hjob ▸ hkind) (hotherJob ▸ hotherKind) hunder₀ hotherUnder₀
    · exact (hfirst hmove hotherKind hi₀ (hjob ▸ hkind) hunder₀).elim
  · rcases underWay_of_step hj hotherUnder with ⟨other₀, hj₀, hotherJob, hotherUnder₀⟩ | ⟨q, hmove'⟩
    · exact (hfirst hmove hkind hj₀ (hotherJob ▸ hotherKind) hotherUnder₀).elim
    · rw [hmove] at hmove'
      exact (Move.start.inj hmove').1

/-- At every moment of a run in which jobs of a kind follow one another, at most one of them is under
    way. -/
theorem AtMostOne.of_successive (h : S.AtMostOne kind) {moves : List Move}
    (hmoves : Successive m kind S moves) {part : List Move} (hpart : part <+: moves) :
    (S.run m part).AtMostOne kind := by
  induction moves generalizing S part with
  | nil =>
    rw [List.prefix_nil.mp hpart]
    exact h
  | cons move moves ih =>
    cases part with
    | nil => exact h
    | cons first part =>
      obtain ⟨rfl, hrest⟩ := List.cons_prefix_cons.mp hpart
      rw [run_cons]
      exact ih (h.step hmoves.1) hmoves.2 hrest

theorem atMostOne_run {s : Store} {moves : List Move}
    (hmoves : Successive m kind (idle s) moves) {part : List Move} (hpart : part <+: moves) :
    ((idle s).run m part).AtMostOne kind :=
  AtMostOne.of_successive (fun _ _ _ _ hi => by cases hi) hmoves hpart

end State

end Tenancy.Interleaving
