import Mathlib.Data.List.Induction
import Tenancy.Proofs.Installations

/-!
# One successful installation

What a caller did tells how far it is: an attempt reads files until one has a text, runs that text
as a script if it is not blank, and returns what came of it. `Story` says which phase goes with
which acts, and each move keeps it. An attempt needs the turn, and nobody has the turn once the
procedure is installed; so scripts are run one at a time, and none after the first success.

## Key results

- `State.inv_run`: what holds of every caller after any moves
- `Story.ok_iff`, `Story.error_iff`, `Story.reads_of_began`: what the acts of a caller say of its
  result and of its script
- `installed_once`: how any number of callers install
-/

namespace Tenancy.Installation

open Installer (Ending afterRun afterRead reading)

variable {paths : List String}

/-! ## How far an attempt is -/

/-- What a read said, as an attempt takes it. -/
def Act.read? : Act → Option (String × Except FileError String)
  | .read path reply => some (path, Installer.textOf reply)
  | _ => none

/-- What the reads among the acts of a caller said, first one first. -/
def readsOf (acts : List Act) : List (String × Except FileError String) :=
  acts.reverse.filterMap Act.read?

/-- The failure of the last of some reads. -/
def lastFailure (reads : List (String × Except FileError String)) : Option FileError :=
  reads.getLast?.bind fun read => match read.2 with
    | .error e => some e
    | .ok _ => none

/-- No read gave a text. -/
def Refused (reads : List (String × Except FileError String)) : Prop :=
  ∀ read ∈ reads, ∃ e, read.2 = .error e

/-- The acts of an attempt that has looked for its script under some paths in vain, and has those in
    `todo` still before it. -/
structure Searching (paths todo : List String) (acts : List Act) : Prop where
  paths : (readsOf acts).map (·.1) ++ todo = paths
  refused : Refused (readsOf acts)
  looked : .looked false ∈ acts
  notFound : .looked true ∉ acts
  notBegan : ∀ script, .began script ∉ acts
  notEnded : ∀ script reply, .ended script reply ∉ acts

/-- What is left to do for a caller that has done this much and was not dropped. -/
inductive Live (paths : List String) : List Act → Phase → Prop
  | waiting : Live paths [] .waiting
  | reading {acts : List Act} {path : String} {rest : List String}
      (h : Searching paths (path :: rest) acts) :
      Live paths acts
        (.attempting (reading paths (path :: rest) (lastFailure (readsOf acts))))
  | running {acts : List Act} {path script : String} {rest : List String}
      {reply : Except FileError Bytes} (h : Searching paths (path :: rest) acts)
      (htext : Installer.textOf reply = .ok script)
      (hscript : (Text.nonBlank? script).isSome = true) :
      Live paths (.began script :: .read path reply :: acts)
        (.attempting (.ask (.runScript script) afterRun))

/-- What comes of a caller that has done this and returned. -/
inductive Over (paths : List String) : List Act → Except InstallError Unit → Prop
  | found : Over paths [.looked true] (.ok ())
  | missing {acts : List Act} (h : Searching paths [] acts) :
      Over paths acts (.error (Installer.notLoaded paths (lastFailure (readsOf acts))))
  | blank {acts : List Act} {path script : String} {rest : List String}
      {reply : Except FileError Bytes} (h : Searching paths (path :: rest) acts)
      (htext : Installer.textOf reply = .ok script) (hscript : Text.nonBlank? script = none) :
      Over paths (.read path reply :: acts) (.error (.empty path))
  | ran {acts : List Act} {path script : String} {rest : List String}
      {reply : Except FileError Bytes} (h : Searching paths (path :: rest) acts)
      (htext : Installer.textOf reply = .ok script)
      (hscript : (Text.nonBlank? script).isSome = true)
      (result : Except DbError Unit) :
      Over paths (.ended script result :: .began script :: .read path reply :: acts)
        (result.mapError .execute)

/-- The phase that goes with what a caller did. -/
def Story (paths : List String) (acts : List Act) : Option Phase → Prop
  | none => acts = []
  | some (.returned result) => Over paths acts result
  | some .dropped => ∃ phase, Live paths acts phase
  | some phase => Live paths acts phase

/-! ## What an act leads to -/

theorem readsOf_cons_read (path : String) (reply : Except FileError Bytes) (acts : List Act) :
    readsOf (.read path reply :: acts) = readsOf acts ++ [(path, Installer.textOf reply)] := by
  simp [readsOf, Act.read?]

theorem lastFailure_append (reads : List (String × Except FileError String)) (path : String)
    (e : FileError) : lastFailure (reads ++ [(path, .error e)]) = some e := by
  simp [lastFailure]

/-- A path in vain more. -/
theorem Searching.read {path : String} {rest : List String} {acts : List Act}
    (h : Searching paths (path :: rest) acts) {reply : Except FileError Bytes} {e : FileError}
    (herror : Installer.textOf reply = .error e) :
    Searching paths rest (.read path reply :: acts) where
  paths := by
    rw [readsOf_cons_read, List.map_append, List.append_assoc]
    exact h.paths
  refused read hread := by
    rw [readsOf_cons_read] at hread
    cases List.mem_append.mp hread with
    | inl hold => exact h.refused read hold
    | inr hnew => exact ⟨e, List.mem_singleton.mp hnew ▸ herror⟩
  looked := List.mem_cons_of_mem _ h.looked
  notFound := by simpa using h.notFound
  notBegan := by simpa using h.notBegan
  notEnded := by simpa using h.notEnded

/-- The program that a caller goes on with after what it did. -/
inductive Next (paths : List String) : List Act → InstallProgram Ending → Prop
  | found : Next paths [.looked true] (.done (.ok (), true))
  | searching {acts : List Act} {todo : List String} (h : Searching paths todo acts) :
      Next paths acts (reading paths todo (lastFailure (readsOf acts)))
  | loaded {acts : List Act} {path script : String} {rest : List String}
      {reply : Except FileError Bytes} (h : Searching paths (path :: rest) acts)
      (htext : Installer.textOf reply = .ok script)
      (hscript : (Text.nonBlank? script).isSome = true) :
      Next paths (.read path reply :: acts) (.ask (.runScript script) afterRun)
  | blank {acts : List Act} {path script : String} {rest : List String}
      {reply : Except FileError Bytes} (h : Searching paths (path :: rest) acts)
      (htext : Installer.textOf reply = .ok script) (hscript : Text.nonBlank? script = none) :
      Next paths (.read path reply :: acts) (.done (.error (.empty path), false))
  | ran {acts : List Act} {path script : String} {rest : List String}
      {reply : Except FileError Bytes} (h : Searching paths (path :: rest) acts)
      (htext : Installer.textOf reply = .ok script)
      (hscript : (Text.nonBlank? script).isSome = true)
      (result : Except DbError Unit) :
      Next paths (.ended script result :: .began script :: .read path reply :: acts)
        (afterRun result)

/-- A look leads to an attempt, or to the end where the procedure is installed. -/
theorem next_looked (paths : List String) (installed : Bool) :
    Next paths [.looked installed] (Installer.ensure paths installed) := by
  rw [Installer.ensure_eq]
  cases installed with
  | true => exact .found
  | false =>
    have hstart : Searching paths paths [.looked false] :=
      ⟨rfl, nofun, List.mem_cons_self, by simp, by simp, by simp⟩
    exact .searching hstart

/-- A read leads to the next path, to the run of a script, or to the end at a blank script. -/
theorem next_read {acts : List Act} {path : String} {rest : List String}
    (h : Searching paths (path :: rest) acts) (reply : Except FileError Bytes) :
    Next paths (.read path reply :: acts) (afterRead paths path rest reply) := by
  rw [afterRead]
  cases htext : Installer.textOf reply with
  | error e =>
    have hnext := Next.searching (h.read htext)
    rwa [readsOf_cons_read, htext, lastFailure_append] at hnext
  | ok script =>
    dsimp only
    split
    · next hscript => exact .loaded h htext hscript
    · next hscript => exact .blank h htext (by simpa using hscript)

/-! ## Invariants -/

/-- An act after others: who looks sees whether a run has succeeded, and nothing else is done after
    one has. -/
def Timely (earlier : List Event) : Act → Prop
  | .looked installed => installed = true ↔ Succeeded earlier
  | _ => ¬Succeeded earlier

/-- Every act of a log came in time. -/
def Orderly : List Event → Prop
  | [] => True
  | e :: earlier => Timely earlier e.act ∧ Orderly earlier

/-- What holds at every moment. -/
structure Inv (paths : List String) (S : State) : Prop where
  story : ∀ id, Story paths (S.story id) (S.callers id)
  turn : ∀ id, S.turn = some id ↔ ∃ rest, S.callers id = some (.attempting rest)
  idle : S.installed = true → S.turn = none
  installed : S.installed = true ↔ Succeeded S.log
  orderly : Orderly S.log

namespace State

variable {S : State} {id j : CallerId} {act : Act}

@[simp] theorem story_note_self : (S.note id act).story id = act :: S.story id := by
  simp [story, note]

theorem story_note_of_ne (h : j ≠ id) : (S.note id act).story j = S.story j := by
  simp [story, note, h.symm]

theorem succeeded_note : Succeeded (S.note id act).log ↔ act.succeeds = true ∨ Succeeded S.log := by
  simp [Succeeded, note]

end State

/-- What holds of a state while a caller is about to change its phase. -/
structure Between (paths : List String) (S : State) (id : CallerId) : Prop where
  story : ∀ j, j ≠ id → Story paths (S.story j) (S.callers j)
  turn : ∀ j, j ≠ id → (S.turn = some j ↔ ∃ rest, S.callers j = some (.attempting rest))
  orderly : Orderly S.log

namespace Between

variable {S : State} {id : CallerId} {act : Act}

theorem of_inv (h : Inv paths S) (id : CallerId) : Between paths S id :=
  ⟨fun j _ => h.story j, fun j _ => h.turn j, h.orderly⟩

theorem note (h : Between paths S id) (hact : Timely S.log act) :
    Between paths (S.note id act) id where
  story j hj := by
    rw [State.story_note_of_ne hj]
    exact h.story j hj
  turn := h.turn
  orderly := ⟨hact, h.orderly⟩

/-- The caller changes its phase. -/
theorem story_update (h : Between paths S id) {phase : Phase}
    (hstory : Story paths (S.story id) (some phase)) (j : CallerId) :
    Story paths (S.story j) (Function.update S.callers id (some phase) j) := by
  by_cases hj : j = id
  · subst hj
    rwa [Function.update_self]
  · rw [Function.update_of_ne hj]
    exact h.story j hj

/-- The caller stops. -/
theorem finish (h : Between paths S id) (phase : Phase) (hphase : ∀ rest, phase ≠ .attempting rest)
    (hstory : Story paths (S.story id) (some phase)) {installed : Bool}
    (hturn : installed = true → S.turn = none ∨ S.turn = some id)
    (hinstalled : installed = true ↔ Succeeded S.log) :
    Inv paths { S.finish id phase with installed := installed } where
  story := h.story_update hstory
  turn j := by
    show (if S.turn = some id then none else S.turn) = some j ↔
      ∃ rest, Function.update S.callers id (some phase) j = some (.attempting rest)
    by_cases hj : j = id
    · -- who has stopped has no turn, whether or not it had one
      subst hj
      rw [Function.update_self]
      constructor
      · intro hturn
        split at hturn
        · cases hturn
        · next hnot => exact absurd hturn hnot
      · rintro ⟨rest, hrest⟩
        exact absurd (Option.some.inj hrest) (hphase rest)
    · rw [Function.update_of_ne hj, ← h.turn j hj]
      split
      · next hid => simp [hid, Ne.symm hj]
      · rfl
  idle hinst := by
    show (if S.turn = some id then none else S.turn) = none
    split
    · rfl
    · next hnot => exact (hturn hinst).resolve_right hnot
  installed := hinstalled
  orderly := h.orderly

/-- The caller returns. -/
theorem returned (h : Between paths S id) {result : Except InstallError Unit} {installed : Bool}
    (hover : Over paths (S.story id) result) (hturn : S.turn = none ∨ S.turn = some id)
    (hinstalled : (S.installed || installed) = true ↔ Succeeded S.log) :
    Inv paths (S.resume id (.done (result, installed))) :=
  h.finish (.returned result) nofun hover (fun _ => hturn) hinstalled

/-- The caller returns, and the cell stays empty. -/
theorem returned_empty (h : Between paths S id) {result : Except InstallError Unit}
    (hover : Over paths (S.story id) result) (hturn : S.turn = none ∨ S.turn = some id)
    (hinstalled : S.installed = false) (hlog : ¬Succeeded S.log) :
    Inv paths (S.resume id (.done (result, false))) :=
  h.returned hover hturn (by simp [hinstalled, hlog])

/-- The caller goes on to its next call. -/
theorem attempt (h : Between paths S id) {rest : InstallProgram Ending}
    (hlive : Live paths (S.story id) (.attempting rest)) (hturn : S.turn = none ∨ S.turn = some id)
    (hinstalled : S.installed = false) (hlog : ¬Succeeded S.log) :
    Inv paths { S with
      turn := some id
      callers := Function.update S.callers id (some (.attempting rest)) } where
  story := h.story_update hlive
  turn j := by
    show some id = some j ↔
      ∃ rest', Function.update S.callers id (some (.attempting rest)) j = some (.attempting rest')
    by_cases hj : j = id
    · subst hj
      simp
    · -- nobody else attempts, as nobody else has the turn
      rw [Function.update_of_ne hj, ← h.turn j hj]
      rcases hturn with hturn | hturn <;> simp [hturn, Ne.symm hj]
  idle hinst := absurd hinst (by simpa using hinstalled)
  installed := by simp [hinstalled, hlog]
  orderly := h.orderly

end Between

namespace Inv

variable {S : State} {id : CallerId} {act : Act} {p : InstallProgram Ending}

/-- A caller that found nothing installed acts before any success. -/
private theorem not_succeeded (hact : Timely S.log act) (hfound : act ≠ .looked true) :
    ¬Succeeded S.log := by
  cases act with
  | looked installed =>
    have hnot : installed ≠ true := fun hinstalled => hfound (hinstalled ▸ rfl)
    exact fun hsucceeded => hnot (hact.mpr hsucceeded)
  | _ => exact hact

/-- A caller goes on after something it did. -/
theorem resume (h : Inv paths S) (hnext : Next paths (act :: S.story id) p)
    (hact : Timely S.log act) (hturn : S.turn = none ∨ S.turn = some id) :
    Inv paths ((S.note id act).resume id p) := by
  have hbetween : Between paths (S.note id act) id := (Between.of_inv h id).note hact
  have hstory : (S.note id act).story id = act :: S.story id := State.story_note_self
  have hlog : Succeeded (S.note id act).log ↔ act.succeeds = true ∨ S.installed = true := by
    rw [State.succeeded_note, h.installed]
  generalize hacts : act :: S.story id = acts at hnext hstory
  -- an act of a caller that found nothing leaves the cell empty, unless it is a success
  have hempty : act ≠ .looked true → act.succeeds = false →
      S.installed = false ∧ ¬Succeeded (S.note id act).log := by
    intro hfound hfails
    have hnot := not_succeeded hact hfound
    rw [← h.installed] at hnot
    rw [hlog, hfails]
    exact ⟨by simpa using hnot, by simpa using hnot⟩
  cases hnext with
  | found =>
    obtain ⟨rfl, -⟩ := List.cons.inj hacts
    refine hbetween.returned (hstory ▸ .found) hturn ?_
    rw [Bool.or_true, hlog, h.installed]
    simpa [Act.succeeds] using hact.mp rfl
  | @searching acts todo hsearching =>
    -- the act was a look that found nothing or a read, so no run has succeeded
    have hmem : act ∈ acts := hacts ▸ List.mem_cons_self
    have hfound : act ≠ .looked true := fun heq => hsearching.notFound (heq ▸ hmem)
    have hfails : act.succeeds = false := by
      cases act with
      | ended script reply => exact absurd hmem (hsearching.notEnded script reply)
      | _ => rfl
    obtain ⟨hinstalled, hnot⟩ := hempty hfound hfails
    cases todo with
    | nil =>
      rw [Installer.reading_nil]
      have hover := Over.missing hsearching
      rw [← hstory] at hover
      rw [← hstory]
      exact hbetween.returned_empty hover hturn hinstalled hnot
    | cons path rest =>
      have hlive := Live.reading hsearching
      rw [Installer.reading_cons, ← hstory] at hlive
      rw [Installer.reading_cons]
      exact hbetween.attempt hlive hturn hinstalled hnot
  | @loaded acts path script rest reply hsearching htext hscript =>
    obtain ⟨rfl, -⟩ := List.cons.inj hacts
    obtain ⟨hinstalled, hnot⟩ := hempty nofun rfl
    -- the read and the begin of the run are one step
    have hbegan : Between paths ((S.note id (.read path reply)).note id (.began script)) id :=
      hbetween.note hnot
    refine hbegan.attempt ?_ hturn hinstalled ?_
    · rw [State.story_note_self, hstory]
      exact .running hsearching htext hscript
    · rw [State.succeeded_note]
      simpa [Act.succeeds] using hnot
  | blank hsearching htext hscript =>
    obtain ⟨rfl, -⟩ := List.cons.inj hacts
    obtain ⟨hinstalled, hnot⟩ := hempty nofun rfl
    exact hbetween.returned_empty (hstory ▸ .blank hsearching htext hscript) hturn hinstalled hnot
  | ran hsearching htext hscript result =>
    obtain ⟨rfl, -⟩ := List.cons.inj hacts
    have hover := hstory ▸ Over.ran hsearching htext hscript result
    rcases result with e | ⟨⟩
    · obtain ⟨hinstalled, hnot⟩ := hempty nofun rfl
      exact hbetween.returned_empty hover hturn hinstalled hnot
    · refine hbetween.returned hover hturn ?_
      rw [Bool.or_true, hlog]
      simp [Act.succeeds]

/-- What an attempt that waits for the reply about a file has done. -/
private theorem searching_of_reading {acts : List Act} {path : String}
    {k : Except FileError Bytes → InstallProgram Ending}
    (h : Live paths acts (.attempting (.ask (.readFile path) k))) :
    ∃ rest, Searching paths (path :: rest) acts ∧ k = afterRead paths path rest := by
  generalize hphase : Phase.attempting (.ask (.readFile path) k) = phase at h
  cases h with
  | waiting => cases hphase
  | reading hsearching =>
    rw [Installer.reading_cons] at hphase
    cases hphase
    exact ⟨_, hsearching, rfl⟩
  | running => cases hphase

/-- What comes of an attempt whose script is run. -/
private theorem next_of_running {acts : List Act} {script : String}
    {k : Except DbError Unit → InstallProgram Ending}
    (h : Live paths acts (.attempting (.ask (.runScript script) k)))
    (result : Except DbError Unit) :
    Next paths (.ended script result :: acts) (k result) := by
  generalize hphase : Phase.attempting (.ask (.runScript script) k) = phase at h
  cases h with
  | waiting => cases hphase
  | reading =>
    rw [Installer.reading_cons] at hphase
    cases hphase
  | running hsearching htext hscript =>
    cases hphase
    exact .ran hsearching htext hscript result

theorem story_of_callers (h : Inv paths S) {phase : Phase} (hid : S.callers id = some phase) :
    Story paths (S.story id) (some phase) :=
  hid ▸ h.story id

/-- A caller that waits has done nothing. -/
private theorem story_of_waiting (h : Inv paths S) (hid : S.callers id = some .waiting) :
    S.story id = [] := by
  have hlive : Live paths (S.story id) .waiting := h.story_of_callers hid
  generalize S.story id = acts at hlive ⊢
  cases hlive
  rfl

/-- An attempt has the turn, and no run has succeeded. -/
theorem of_attempting (h : Inv paths S) {rest : InstallProgram Ending}
    (hid : S.callers id = some (.attempting rest)) :
    S.turn = some id ∧ S.installed = false ∧ ¬Succeeded S.log := by
  have hturn := (h.turn id).mpr ⟨rest, hid⟩
  have hnot : S.installed ≠ true := fun hinstalled => by
    rw [h.idle hinstalled] at hturn
    cases hturn
  exact ⟨hturn, by simpa using hnot, fun hsucceeded => hnot (h.installed.mpr hsucceeded)⟩

/-- One move keeps what holds at every moment. -/
theorem step (h : Inv paths S) (move : Move) : Inv paths (S.step paths move) := by
  cases move with
  | call id =>
    simp only [State.step]
    split
    · next hnew =>
      have hnone : S.callers id = none := Option.isNone_iff_eq_none.mp hnew
      -- a new name has no story yet
      refine ⟨fun j => ?_, fun j => ?_, h.idle, h.installed, h.orderly⟩
      · have hstory := h.story id
        rw [hnone] at hstory
        have hwaits : Story paths (S.story id) (some .waiting) := by
          rw [show S.story id = [] from hstory]
          exact Live.waiting
        exact (Between.of_inv h id).story_update hwaits j
      · show S.turn = some j ↔ ∃ rest, Function.update S.callers id (some .waiting) j = _
        rw [h.turn j]
        by_cases hj : j = id
        · subst hj
          simp [hnone]
        · rw [Function.update_of_ne hj]
    · exact h
  | look id =>
    simp only [State.step]
    split
    · next hid =>
      split
      · next hfree =>
        -- nobody has the turn: not where it is free, and not once the procedure is installed
        have hturn : S.turn = none := hfree.elim h.idle fun hnone => hnone
        refine h.resume ?_ h.installed (.inl hturn)
        rw [story_of_waiting h hid]
        exact next_looked paths S.installed
      · exact h
    · exact h
  | proceed id reply =>
    simp only [State.step]
    split
    · next path k hid =>
      obtain ⟨hturn, -, hnot⟩ := h.of_attempting hid
      obtain ⟨rest, hsearching, rfl⟩ := searching_of_reading (h.story_of_callers hid)
      exact h.resume (next_read hsearching (S.files path)) hnot (.inr hturn)
    · next script k hid =>
      obtain ⟨hturn, -, hnot⟩ := h.of_attempting hid
      exact h.resume (next_of_running (h.story_of_callers hid) reply) hnot (.inr hturn)
    · exact h
  | drop id =>
    have hdrop : ∀ phase, Live paths (S.story id) phase → Inv paths (S.finish id .dropped) :=
      fun phase hlive => (Between.of_inv h id).finish .dropped nofun ⟨phase, hlive⟩
        (fun hinstalled => .inl (h.idle hinstalled)) h.installed
    simp only [State.step]
    split
    · next hid => exact hdrop .waiting (h.story_of_callers hid)
    · next rest hid => exact hdrop (.attempting rest) (h.story_of_callers hid)
    · exact h
  | change files => exact ⟨h.story, h.turn, h.idle, h.installed, h.orderly⟩

end Inv

/-- What holds at every moment of every interleaving. -/
theorem State.inv_run (paths : List String) (files : String → Except FileError Bytes)
    (moves : List Move) : Inv paths ((fresh files).run paths moves) := by
  have hfresh : Inv paths (fresh files) :=
    ⟨fun _ => rfl, fun _ => by simp [fresh], nofun, by simp [fresh, Succeeded], trivial⟩
  induction moves using List.reverseRecOn with
  | nil => exact hfresh
  | append_singleton moves move ih =>
    rw [run, List.foldl_append]
    exact ih.step move

/-! ## What the acts of a caller say -/

section Acts

variable {acts : List Act} {phase : Phase} {result : Except InstallError Unit}

/-- Why an attempt that has done this failed: its script was refused, or the first text that it read
    was blank, or it read no text under any of the paths. -/
def FailedWith (paths : List String) (acts : List Act) (e : InstallError) : Prop :=
  (∃ script cause, .ended script (.error cause) ∈ acts ∧ e = .execute cause) ∨
  (∃ refused path text, readsOf acts = refused ++ [(path, .ok text)] ∧
    Text.nonBlank? text = none ∧ e = .empty path) ∨
  (.looked false ∈ acts ∧ (readsOf acts).map (·.1) = paths ∧ Refused (readsOf acts) ∧
    e = Installer.notLoaded paths (lastFailure (readsOf acts)))

/-- A text was read, and it is the script of the attempt. -/
structure Loaded (paths : List String) (acts : List Act) (script : String) : Prop where
  reads : ∃ refused path, readsOf acts = refused ++ [(path, .ok script)] ∧ Refused refused ∧
    refused.map (·.1) ++ [path] <+: paths
  script : (Text.nonBlank? script).isSome = true

theorem not_refused_of_text {reads refused : List (String × Except FileError String)}
    {path text : String} (h : reads = refused ++ [(path, .ok text)]) : ¬Refused reads := by
  intro hrefused
  obtain ⟨e, he⟩ := hrefused (path, .ok text) (by simp [h])
  cases he

/-- Reads end with one text. -/
theorem text_unique {reads refused refused' : List (String × Except FileError String)}
    {path path' text text' : String} (h : reads = refused ++ [(path, .ok text)])
    (h' : reads = refused' ++ [(path', .ok text')]) : path = path' ∧ text = text' := by
  obtain ⟨-, hlast⟩ := List.append_inj' (h.symm.trans h') rfl
  cases hlast
  exact ⟨rfl, rfl⟩

/-- What an attempt that has a script read, does not end with a blank text. -/
theorem Loaded.not_blank {script : String} (h : Loaded paths acts script) :
    ¬∃ refused path text, readsOf acts = refused ++ [(path, .ok text)] ∧
      Text.nonBlank? text = none := by
  rintro ⟨refused, path, text, hreads, hblank⟩
  obtain ⟨⟨_, _, hloaded, -, -⟩, hscript⟩ := h
  obtain ⟨-, rfl⟩ := text_unique hloaded hreads
  simp [hblank] at hscript

/-- An attempt that has a script fails with the run of it only. -/
theorem Loaded.failedWith_iff {script : String} (h : Loaded paths acts script) {e : InstallError} :
    FailedWith paths acts e ↔
      ∃ script cause, .ended script (.error cause) ∈ acts ∧ e = .execute cause := by
  constructor
  · rintro (hran | ⟨refused, path, text, hreads, hblank, -⟩ | ⟨-, -, hrefused, -⟩)
    · exact hran
    · exact absurd ⟨refused, path, text, hreads, hblank⟩ h.not_blank
    · obtain ⟨_, _, hreads, -, -⟩ := h.reads
      exact absurd hrefused (not_refused_of_text hreads)
  · exact .inl

theorem Searching.loaded {path script : String} {rest : List String}
    {reply : Except FileError Bytes}
    (h : Searching paths (path :: rest) acts) (htext : Installer.textOf reply = .ok script)
    (hscript : (Text.nonBlank? script).isSome = true) :
    Loaded paths (.read path reply :: acts) script where
  reads := by
    refine ⟨readsOf acts, path, by rw [readsOf_cons_read, htext], h.refused, rest, ?_⟩
    rw [List.append_assoc]
    exact h.paths
  script := hscript

/-- What is no read leaves what was read. -/
theorem Loaded.cons {script : String} (h : Loaded paths acts script) (act : Act)
    (hact : act.read? = none) : Loaded paths (act :: acts) script := by
  have hreads : readsOf (act :: acts) = readsOf acts := by simp [readsOf, hact]
  obtain ⟨hloaded, hscript⟩ := h
  exact ⟨by rwa [hreads], hscript⟩

/-- An attempt that has found no text fails where there is no path left. -/
theorem Searching.failedWith_iff {todo : List String} (h : Searching paths todo acts)
    {e : InstallError} : FailedWith paths acts e ↔
      todo = [] ∧ e = Installer.notLoaded paths (lastFailure (readsOf acts)) := by
  have htodo : (readsOf acts).map (·.1) = paths ↔ todo = [] := by
    rw [← h.paths]
    simp
  constructor
  · rintro (⟨script, cause, hended, -⟩ | ⟨refused, path, text, hreads, -, -⟩ | ⟨-, hpaths, -, he⟩)
    · exact absurd hended (h.notEnded script _)
    · exact absurd h.refused (not_refused_of_text hreads)
    · exact ⟨htodo.mp hpaths, he⟩
  · rintro ⟨hnil, he⟩
    exact .inr (.inr ⟨h.looked, htodo.mpr hnil, h.refused, he⟩)

/-- A caller that has not returned has seen no end. -/
theorem Live.unfinished (h : Live paths acts phase) : (∀ script reply, .ended script reply ∉ acts) ∧
    .looked true ∉ acts ∧ ∀ e, ¬FailedWith paths acts e := by
  cases h with
  | waiting => simp [FailedWith, readsOf]
  | reading hsearching =>
    refine ⟨hsearching.notEnded, hsearching.notFound, fun e he => ?_⟩
    cases (hsearching.failedWith_iff.mp he).1
  | @running acts path script rest reply hsearching htext hscript =>
    have hloaded := (hsearching.loaded htext hscript).cons (.began script) rfl
    refine ⟨by simpa using hsearching.notEnded, by simpa using hsearching.notFound, fun e he => ?_⟩
    obtain ⟨script', cause, hended, -⟩ := hloaded.failedWith_iff.mp he
    simp [hsearching.notEnded] at hended

theorem Live.loaded_of_began (h : Live paths acts phase) {script : String}
    (hbegan : .began script ∈ acts) : Loaded paths acts script := by
  cases h with
  | waiting => cases hbegan
  | reading hsearching => exact absurd hbegan (hsearching.notBegan script)
  | running hsearching htext hscript =>
    simp only [List.mem_cons, Act.began.injEq, reduceCtorEq, hsearching.notBegan,
      or_false] at hbegan
    subst hbegan
    exact (hsearching.loaded htext hscript).cons _ rfl

/-- A caller returns success if its script was run without failure, or if it found the procedure
    installed. -/
theorem Over.ok_iff (h : Over paths acts result) : result = .ok () ↔
    (∃ script, .ended script (.ok ()) ∈ acts) ∨ .looked true ∈ acts := by
  cases h with
  | found => simp
  | missing hsearching => simp [hsearching.notEnded, hsearching.notFound]
  | blank hsearching => simp [hsearching.notEnded, hsearching.notFound]
  | ran hsearching htext hscript reply =>
    rcases reply with e | ⟨⟩ <;> simp [hsearching.notEnded, hsearching.notFound, Except.mapError]

/-- A caller returns a failure if its attempt failed with it. -/
theorem Over.error_iff (h : Over paths acts result) {e : InstallError} :
    result = .error e ↔ FailedWith paths acts e := by
  cases h with
  | found =>
    have hreads : readsOf [.looked true] = [] := rfl
    simp [FailedWith, hreads]
  | missing hsearching => simp [hsearching.failedWith_iff, eq_comm]
  | @blank acts path text rest reply hsearching htext hscript =>
    have hreads : readsOf (.read path reply :: acts) = readsOf acts ++ [(path, .ok text)] := by
      rw [readsOf_cons_read, htext]
    constructor
    · rintro ⟨⟩
      exact .inr (.inl ⟨readsOf acts, path, text, hreads, hscript, rfl⟩)
    · rintro (⟨script, cause, hended, -⟩ | ⟨refused, path', text', hreads', -, rfl⟩ |
        ⟨-, -, hrefused, -⟩)
      · simp [hsearching.notEnded] at hended
      · rw [(text_unique hreads hreads').1]
      · exact absurd hrefused (not_refused_of_text hreads)
  | @ran acts path script rest reply hsearching htext hscript result =>
    have hloaded := ((hsearching.loaded htext hscript).cons (.began script) rfl).cons
      (.ended script result) rfl
    rw [hloaded.failedWith_iff]
    rcases result with cause | ⟨⟩ <;>
      simp [hsearching.notEnded, Except.mapError, eq_comm]

theorem Over.loaded_of_began (h : Over paths acts result) {script : String}
    (hbegan : .began script ∈ acts) : Loaded paths acts script := by
  cases h with
  | found => simp at hbegan
  | missing hsearching => exact absurd hbegan (hsearching.notBegan script)
  | blank hsearching => simp [hsearching.notBegan] at hbegan
  | ran hsearching htext hscript =>
    simp only [List.mem_cons, Act.began.injEq, reduceCtorEq, hsearching.notBegan, or_false,
      false_or] at hbegan
    subst hbegan
    exact ((hsearching.loaded htext hscript).cons _ rfl).cons _ rfl

/-- A caller has returned, or else has not returned yet, as far as its acts say. -/
theorem Story.over_or_live {phase : Option Phase} (h : Story paths acts phase) :
    (∃ result, phase = some (.returned result) ∧ Over paths acts result) ∨
      (∀ result, phase ≠ some (.returned result)) ∧ ∃ phase, Live paths acts phase := by
  cases phase with
  | none => exact .inr ⟨nofun, .waiting, by rw [show acts = [] from h]; exact .waiting⟩
  | some phase =>
    cases phase with
    | waiting => exact .inr ⟨nofun, _, h⟩
    | attempting rest => exact .inr ⟨nofun, _, h⟩
    | returned result => exact .inl ⟨result, rfl, h⟩
    | dropped => exact .inr ⟨nofun, h⟩

/-- Whose acts say that it returned success. -/
theorem Story.ok_iff {phase : Option Phase} (h : Story paths acts phase) :
    phase = some (.returned (.ok ())) ↔
      (∃ script, .ended script (.ok ()) ∈ acts) ∨ .looked true ∈ acts := by
  rcases h.over_or_live with ⟨result, rfl, hover⟩ | ⟨hphase, live, hlive⟩
  · rw [← hover.ok_iff, Option.some.injEq, Phase.returned.injEq]
  · obtain ⟨hended, hlooked, -⟩ := hlive.unfinished
    simp [hphase, hended, hlooked]

/-- Whose acts say that it returned a failure. -/
theorem Story.error_iff {phase : Option Phase} (h : Story paths acts phase) {e : InstallError} :
    phase = some (.returned (.error e)) ↔ FailedWith paths acts e := by
  rcases h.over_or_live with ⟨result, rfl, hover⟩ | ⟨hphase, live, hlive⟩
  · rw [← hover.error_iff, Option.some.injEq, Phase.returned.injEq]
  · obtain ⟨-, -, hfailed⟩ := hlive.unfinished
    simp [hphase, hfailed]

/-- A script that a caller runs was loaded by its attempt. -/
theorem Story.loaded_of_began {phase : Option Phase} (h : Story paths acts phase) {script : String}
    (hbegan : .began script ∈ acts) : Loaded paths acts script := by
  rcases h.over_or_live with ⟨result, -, hover⟩ | ⟨-, live, hlive⟩
  · exact hover.loaded_of_began hbegan
  · exact hlive.loaded_of_began hbegan

end Acts

/-! ## Runs -/

namespace Inv

variable {S : State} {id : CallerId} {e : InstallError}

theorem mem_story {act : Act} : act ∈ S.story id ↔ ⟨id, act⟩ ∈ S.log := by
  simp only [State.story, List.mem_map, List.mem_filter, decide_eq_true_eq]
  constructor
  · rintro ⟨⟨caller, act⟩, ⟨hmem, rfl⟩, rfl⟩
    exact hmem
  · exact fun hmem => ⟨_, ⟨hmem, rfl⟩, rfl⟩

/-- An act of a log came in time. -/
theorem timely {later earlier : List Event} {event : Event}
    (h : Orderly (later ++ event :: earlier)) : Timely earlier event.act := by
  induction later with
  | nil => exact h.1
  | cons _ later ih => exact ih h.2

/-- A caller has seen a success if it looked after one. -/
theorem looked_iff (h : Inv paths S) : .looked true ∈ S.story id ↔
    ∃ later installed earlier, S.log = later ++ ⟨id, .looked installed⟩ :: earlier ∧
      Succeeded earlier := by
  have hsaw : ∀ later installed earlier, S.log = later ++ ⟨id, .looked installed⟩ :: earlier →
      (installed = true ↔ Succeeded earlier) := by
    intro later installed earlier hlog
    have horderly := h.orderly
    rw [hlog] at horderly
    exact timely horderly
  rw [mem_story]
  constructor
  · intro hmem
    obtain ⟨later, earlier, hlog⟩ := List.append_of_mem hmem
    exact ⟨later, true, earlier, hlog, (hsaw later true earlier hlog).mp rfl⟩
  · rintro ⟨later, installed, earlier, hlog, hsucceeded⟩
    rw [hlog, (hsaw later installed earlier hlog).mpr hsucceeded]
    exact List.mem_append_right _ List.mem_cons_self

/-- After a success callers look and do nothing else. -/
theorem looked_of_later (h : Inv paths S) {later earlier : List Event} {script : String}
    (hlog : S.log = later ++ ⟨id, .ended script (.ok ())⟩ :: earlier) {event : Event}
    (hevent : event ∈ later) : ∃ installed, event.act = .looked installed := by
  obtain ⟨newer, older, rfl⟩ := List.append_of_mem hevent
  have horderly := h.orderly
  rw [hlog, List.append_assoc, List.cons_append] at horderly
  have hact := timely horderly
  have hsucceeded : Succeeded (older ++ ⟨id, .ended script (.ok ())⟩ :: earlier) :=
    ⟨_, List.mem_append_right _ List.mem_cons_self, rfl⟩
  cases hkind : event.act with
  | looked installed => exact ⟨installed, rfl⟩
  | _ =>
    rw [hkind] at hact
    exact absurd hsucceeded hact

/-- A caller that waits and looks goes on waiting if somebody attempts an installation, and only
    then. -/
theorem waits_iff (h : Inv paths S) (hid : S.callers id = some .waiting) :
    (S.step paths (.look id)).callers id = some .waiting ↔
      S.installed = false ∧ ∃ j rest, S.callers j = some (.attempting rest) := by
  have hresume : ∀ (S : State) p, (S.resume id p).callers id ≠ some .waiting := by
    intro S p
    rcases p with ⟨result, installed⟩ | ⟨c, k⟩
    · simp [State.resume, State.finish]
    · cases c <;> simp [State.resume, State.note]
  simp only [State.step, hid]
  split
  · next hfree =>
    refine iff_of_false (hresume _ _) ?_
    rintro ⟨hempty, j, rest, hj⟩
    have hturn := (h.turn j).mpr ⟨rest, hj⟩
    simp [hempty, hturn] at hfree
  · next hbusy =>
    rw [not_or] at hbusy
    obtain ⟨j, hj⟩ := Option.ne_none_iff_exists'.mp hbusy.2
    exact iff_of_true hid ⟨by simpa using hbusy.1, j, (h.turn j).mp hj⟩

end Inv

theorem succeeded_iff {log : List Event} :
    Succeeded log ↔ ∃ id script, ⟨id, .ended script (.ok ())⟩ ∈ log := by
  constructor
  · rintro ⟨⟨id, act⟩, hmem, hsucceeds⟩
    cases act with
    | ended script reply =>
      rcases reply with e | ⟨⟩
      · cases hsucceeds
      · exact ⟨id, script, hmem⟩
    | _ => cases hsucceeds
  · rintro ⟨id, script, hmem⟩
    exact ⟨_, hmem, rfl⟩

/-- Any number of callers, whatever the order of their steps, whatever files there are, whatever
    comes of their scripts and wherever they are dropped: scripts are run one at a time; after a run
    that succeeded callers look and do nothing else; the procedure counts as installed from then on
    and not before; a caller returns success if its own run succeeded or it looked after one that
    had, and a failure if its attempt failed with it; one that waits is held up by an attempt that
    is under way, and by nothing else; a script that is run is the first text that its attempt read,
    and an attempt whose first text is blank, or that read none, runs no script. -/
theorem installed_once (paths : List String) (files : String → Except FileError Bytes)
    (moves : List Move) :
    let S := (State.fresh files).run paths moves
    (∀ i j script script', S.Running i script → S.Running j script' → i = j) ∧
    (∀ later id script earlier, S.log = later ++ ⟨id, .ended script (.ok ())⟩ :: earlier →
      (∀ event ∈ later, ∃ installed, event.act = .looked installed) ∧
        ∀ j script', ¬S.Running j script') ∧
    (S.installed = true ↔ ∃ id script, ⟨id, .ended script (.ok ())⟩ ∈ S.log) ∧
    (∀ id, S.callers id = some (.returned (.ok ())) ↔
      (∃ script, ⟨id, .ended script (.ok ())⟩ ∈ S.log) ∨
      ∃ later installed earlier, S.log = later ++ ⟨id, .looked installed⟩ :: earlier ∧
        Succeeded earlier) ∧
    (∀ id e, S.callers id = some (.returned (.error e)) ↔ FailedWith paths (S.story id) e) ∧
    (∀ id, S.callers id = some .waiting → ((S.step paths (.look id)).callers id = some .waiting ↔
      S.installed = false ∧ ∃ j rest, S.callers j = some (.attempting rest))) ∧
    (∀ id script, ⟨id, .began script⟩ ∈ S.log → Loaded paths (S.story id) script) ∧
    ∀ id, (Refused (readsOf (S.story id)) ∨ ∃ refused path text,
        readsOf (S.story id) = refused ++ [(path, .ok text)] ∧ Text.nonBlank? text = none) →
      ∀ script, ⟨id, .began script⟩ ∉ S.log := by
  intro S
  have h : Inv paths S := State.inv_run paths files moves
  refine ⟨?_, ?_, ?_, fun id => ?_, fun id e => (h.story id).error_iff, fun id => h.waits_iff, ?_,
    ?_⟩
  · rintro i j script script' ⟨k, hi⟩ ⟨k', hj⟩
    obtain ⟨hturn, -⟩ := h.of_attempting hi
    obtain ⟨hturn', -⟩ := h.of_attempting hj
    exact Option.some.inj (hturn.symm.trans hturn')
  · intro later id script earlier hlog
    refine ⟨fun event hevent => h.looked_of_later hlog hevent, ?_⟩
    rintro j script' ⟨k, hj⟩
    obtain ⟨-, -, hnot⟩ := h.of_attempting hj
    have hended : ⟨id, .ended script (.ok ())⟩ ∈ S.log :=
      hlog ▸ List.mem_append_right _ List.mem_cons_self
    exact hnot (succeeded_iff.mpr ⟨id, script, hended⟩)
  · exact h.installed.trans succeeded_iff
  · rw [(h.story id).ok_iff, h.looked_iff]
    simp only [Inv.mem_story]
  · exact fun id script hbegan => (h.story id).loaded_of_began (Inv.mem_story.mpr hbegan)
  · intro id hnone script hbegan
    have hloaded := (h.story id).loaded_of_began (Inv.mem_story.mpr hbegan)
    rcases hnone with hrefused | hblank
    · obtain ⟨_, _, hreads, -, -⟩ := hloaded.reads
      exact not_refused_of_text hreads hrefused
    · exact hloaded.not_blank hblank

/-- The script of one caller is refused, and the next caller installs. Both have run the text of the
    second path, and nothing is run any more. -/
theorem installed_once_second_caller :
    let files := fun path => if path = "b.sql" then .ok [0x78] else .error .notFound
    let moves : List Move := [.call 0, .call 1, .look 0, .look 1, .proceed 0 (.ok ()),
      .proceed 0 (.ok ()), .proceed 0 (.error .poolTimedOut), .look 1, .proceed 1 (.ok ()),
      .proceed 1 (.ok ()), .proceed 1 (.ok ())]
    let S := (State.fresh files).run ["a.sql", "b.sql"] moves
    S.callers 0 = some (.returned (.error (.execute .poolTimedOut))) ∧
      S.callers 1 = some (.returned (.ok ())) ∧ S.installed = true ∧
      (∀ id, id = 0 ∨ id = 1 → Loaded ["a.sql", "b.sql"] (S.story id) "x") ∧
      ∀ id script, ¬S.Running id script := by
  intro files moves S
  have hrefused : .ended "x" (.error .poolTimedOut) ∈ S.story 0 := by decide +kernel
  have hended : ⟨1, .ended "x" (.ok ())⟩ ∈ S.log := by decide +kernel
  have hbegan : ⟨0, .began "x"⟩ ∈ S.log := by decide +kernel
  have hbegan' : ⟨1, .began "x"⟩ ∈ S.log := by decide +kernel
  have hinstalls := installed_once ["a.sql", "b.sql"] files moves
  -- what the run was is not looked at any more
  generalize hS : (State.fresh files).run ["a.sql", "b.sql"] moves = S' at hinstalls
  obtain rfl : S = S' := hS
  clear_value S
  obtain ⟨-, hafter, hinstalled, hok, herror, -, hloaded, -⟩ := hinstalls
  obtain ⟨later, earlier, hlog⟩ := List.append_of_mem hended
  refine ⟨(herror 0 _).mpr (.inl ⟨"x", _, hrefused, rfl⟩), (hok 1).mpr (.inl ⟨"x", hended⟩),
    hinstalled.mpr ⟨1, "x", hended⟩, ?_, (hafter later 1 "x" earlier hlog).2⟩
  rintro id (rfl | rfl)
  · exact hloaded 0 "x" hbegan
  · exact hloaded 1 "x" hbegan'

end Tenancy.Installation
