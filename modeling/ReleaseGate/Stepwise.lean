/-!
# Computations in atomic steps

Two publishes run at the same time and share what they work on. A `Stepwise` computation makes this precise: it is a sequence of
atomic steps, each of which reads the shared state, changes it, and goes on by what it read. `run` takes all steps of one
computation without a break, and `Interleaving` is any order in which the steps of two of them can come.
-/

namespace ReleaseGate

/-- A computation over a shared state, step by step. -/
inductive Stepwise (σ α : Type) where
  /-- The computation has ended. -/
  | done (result : α)
  /-- One step: what it makes of the state, and how it goes on by what it saw before. -/
  | step (effect : σ → σ) (next : σ → Stepwise σ α)

namespace Stepwise

variable {σ τ α β γ : Type}

/-- One computation after another. -/
def bind : Stepwise σ α → (α → Stepwise σ β) → Stepwise σ β
  | done a, f => f a
  | step effect next, f => step effect fun s => bind (next s) f

instance : Monad (Stepwise σ) where
  pure := done
  bind := bind

/-- All steps of a computation without a break. -/
def run : Stepwise σ α → σ → α × σ
  | done a, s => (a, s)
  | step effect next, s => run (next s) (effect s)

/-- A single step. -/
def atomic (f : σ → α × σ) : Stepwise σ α := step (fun s => (f s).2) fun s => done (f s).1

/-- A step that reads the state. -/
def observe (f : σ → α) : Stepwise σ α := step id fun s => done (f s)

/-- A step that changes the state. -/
def change (f : σ → σ) : Stepwise σ Unit := step f fun _ => done ()

/-- How a part of a state is read and replaced. -/
structure Part (σ τ : Type) where
  get : σ → τ
  set : σ → τ → σ

/-- A computation on a part of the state. -/
def within (part : Part σ τ) : Stepwise τ α → Stepwise σ α
  | done a => done a
  | step effect next => step (fun s => part.set s (effect (part.get s))) fun s => within part (next (part.get s))

/-- The outcomes of two computations whose steps come in some order, and the state after both. -/
inductive Interleaving : Stepwise σ α → Stepwise σ β → σ → α → β → σ → Prop where
  | done {a : α} {b : β} {s : σ} : Interleaving (done a) (done b) s a b s
  | left {effect : σ → σ} {next : σ → Stepwise σ α} {q : Stepwise σ β} {s t : σ} {a : α} {b : β}
      (h : Interleaving (next s) q (effect s) a b t) : Interleaving (step effect next) q s a b t
  | right {p : Stepwise σ α} {effect : σ → σ} {next : σ → Stepwise σ β} {s t : σ} {a : α} {b : β}
      (h : Interleaving p (next s) (effect s) a b t) : Interleaving p (step effect next) s a b t

@[simp] theorem run_done (a : α) (s : σ) : (done a).run s = (a, s) := rfl

@[simp] theorem run_step (effect : σ → σ) (next : σ → Stepwise σ α) (s : σ) :
    (step effect next).run s = (next s).run (effect s) := rfl

@[simp] theorem run_pure (a : α) (s : σ) : (pure a : Stepwise σ α).run s = (a, s) := rfl

@[simp] theorem run_bind (p : Stepwise σ α) (f : α → Stepwise σ β) (s : σ) :
    (p >>= f).run s = (f (p.run s).1).run (p.run s).2 := by
  show (bind p f).run s = _
  induction p generalizing s with
  | done a => rfl
  | step effect next ih => exact ih s (effect s)

theorem bind_done (p : Stepwise σ α) : p.bind done = p := by
  induction p with
  | done a => rfl
  | step effect next ih => exact congrArg (step effect) (funext ih)

theorem bind_bind (p : Stepwise σ α) (f : α → Stepwise σ β) (g : β → Stepwise σ γ) :
    (p.bind f).bind g = p.bind fun a => (f a).bind g := by
  induction p with
  | done a => rfl
  | step effect next ih => exact congrArg (step effect) (funext ih)

/-- How computations that follow one another are grouped makes no difference. -/
instance : LawfulMonad (Stepwise σ) := LawfulMonad.mk' _ bind_done (fun _ _ => rfl) bind_bind

@[simp] theorem run_atomic (f : σ → α × σ) (s : σ) : (atomic f).run s = f s := rfl

@[simp] theorem run_observe (f : σ → α) (s : σ) : (observe f).run s = (f s, s) := rfl

@[simp] theorem run_change (f : σ → σ) (s : σ) : (change f).run s = ((), f s) := rfl

/-- Taking all steps of one computation and then all of the other is one of the orders. -/
theorem interleaving_run (p : Stepwise σ α) (q : Stepwise σ β) (s : σ) :
    Interleaving p q s (p.run s).1 (q.run (p.run s).2).1 (q.run (p.run s).2).2 := by
  induction p generalizing s with
  | done a =>
    induction q generalizing s with
    | done b => exact .done
    | step effect next ih => exact .right (ih s (effect s))
  | step effect next ih => exact .left (ih s (effect s))

end Stepwise

end ReleaseGate
