/-! # Programs that call their surroundings

A program is a finite tree: it is done with a result, or it makes a call and goes on with the
reply.  What a call does is not part of the program, so one program runs against a store in memory,
against statements sent to a server, alone or interleaved with others, with calls that fail, and up
to any call after which it is dropped.

* `Program.run` interprets a program in a monad, given a meaning for each call.
* `Program.bind_assoc`, `Program.run_bind`: sequencing behaves, and running respects it. -/

namespace Tenancy

/-- A program over calls `C`, whose replies have the types `Reply`, with a result in `α`. -/
inductive Program {C : Type} (Reply : C → Type) (α : Type) : Type where
  | done (a : α)
  | ask (c : C) (k : Reply c → Program Reply α)

namespace Program

variable {C D : Type} {Reply : C → Type} {Answer : D → Type} {α β γ : Type}

/-- Goes on with `f` where the program is done. -/
def bind : Program Reply α → (α → Program Reply β) → Program Reply β
  | done a, f => f a
  | ask c k, f => ask c fun r => (k r).bind f

instance : Monad (Program Reply) where
  pure := done
  bind := bind

/-- The program that makes one call and returns the reply. -/
def call (c : C) : Program Reply (Reply c) := ask c done

@[simp] theorem pure_eq_done (a : α) : (pure a : Program Reply α) = done a := rfl

@[simp] theorem done_bind (a : α) (f : α → Program Reply β) : done a >>= f = f a := rfl

@[simp] theorem ask_bind (c : C) (k : Reply c → Program Reply α) (f : α → Program Reply β) :
    ask c k >>= f = ask c fun r => k r >>= f := rfl

@[simp] theorem call_bind (c : C) (f : Reply c → Program Reply β) :
    call c >>= f = ask c f := rfl

theorem bind_done (p : Program Reply α) : p.bind done = p := by
  induction p with
  | done a => rfl
  | ask c k ih => simp only [bind]; congr 1; funext r; exact ih r

theorem bind_assoc (p : Program Reply α) (f : α → Program Reply β) (g : β → Program Reply γ) :
    (p.bind f).bind g = p.bind fun a => (f a).bind g := by
  induction p with
  | done a => rfl
  | ask c k ih => simp only [bind]; congr 1; funext r; exact ih r

instance : LawfulMonad (Program Reply) :=
  LawfulMonad.mk' (Program Reply) bind_done (fun _ _ => rfl) bind_assoc

/-- Runs a program in a monad, given what each call does there. -/
def run {m : Type → Type} [Monad m] (meaning : (c : C) → m (Reply c)) : Program Reply α → m α
  | done a => pure a
  | ask c k => meaning c >>= fun r => (k r).run meaning

/-- The same program over a wider set of calls. -/
def lift (wider : C → D) (reply : (c : C) → Answer (wider c) → Reply c) :
    Program Reply α → Program Answer α
  | done a => done a
  | ask c k => ask (wider c) fun r => (k (reply c r)).lift wider reply

theorem run_bind {m : Type → Type} [Monad m] [LawfulMonad m] (meaning : (c : C) → m (Reply c))
    (p : Program Reply α) (f : α → Program Reply β) :
    (p.bind f).run meaning = p.run meaning >>= fun a => (f a).run meaning := by
  induction p with
  | done a => simp [bind, run]
  | ask c k ih => simp [bind, run, ih]

end Program

end Tenancy
