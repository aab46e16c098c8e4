/-
# Programs with effects

A computation that asks its surroundings for answers as it goes. What it asks for
is data, so what a program does can be told apart from who answers: the same
program runs against a store in memory, against a service on the network, or
against surroundings of which nothing is known.
-/

namespace DnsReconcile

universe u

/-- A computation with a result that may ask for the answers to effects on its way. -/
inductive Program (Effect : Type) (Answer : Effect → Type) (α : Type u) where
  | done (result : α)
  | ask (effect : Effect) (next : Answer effect → Program Effect Answer α)

namespace Program

variable {Effect : Type} {Answer : Effect → Type} {α β γ : Type u} {σ : Type u}

/-- Run one computation and go on with its result. -/
def bind (program : Program Effect Answer α) (next : α → Program Effect Answer β) :
    Program Effect Answer β :=
  match program with
  | .done result => next result
  | .ask effect rest => .ask effect fun answer => bind (rest answer) next

instance : Monad (Program Effect Answer) where
  pure := .done
  bind := bind

/-- The computation that asks once. -/
def perform (effect : Effect) : Program Effect Answer (Answer effect) :=
  .ask effect .done

/-- Run a program in surroundings that have a state. -/
def run (handle : (effect : Effect) → σ → Answer effect × σ) :
    Program Effect Answer α → σ → α × σ
  | .done result, state => (result, state)
  | .ask effect next, state =>
      let (answer, state) := handle effect state
      run handle (next answer) state

theorem bind_done (program : Program Effect Answer α) : program.bind .done = program := by
  induction program with
  | done result => rfl
  | ask effect next ih => simp only [bind, ih]

theorem bind_bind (program : Program Effect Answer α) (first : α → Program Effect Answer β)
    (second : β → Program Effect Answer γ) :
    (program.bind first).bind second = program.bind fun a => (first a).bind second := by
  induction program with
  | done result => rfl
  | ask effect next ih => simp only [bind, ih]

instance : LawfulMonad (Program Effect Answer) :=
  LawfulMonad.mk' _ bind_done (fun _ _ => rfl) bind_bind

@[simp] theorem run_done (handle : (effect : Effect) → σ → Answer effect × σ) (result : α)
    (state : σ) : (Program.done result).run handle state = (result, state) := rfl

@[simp] theorem run_pure (handle : (effect : Effect) → σ → Answer effect × σ) (result : α)
    (state : σ) : (pure result : Program Effect Answer α).run handle state = (result, state) := rfl

/-- Running one computation after the other hands over result and state. -/
theorem run_bind (handle : (effect : Effect) → σ → Answer effect × σ)
    (program : Program Effect Answer α) (next : α → Program Effect Answer β) (state : σ) :
    (program >>= next).run handle state =
      (next (program.run handle state).1).run handle (program.run handle state).2 := by
  change (program.bind next).run handle state = _
  induction program generalizing state with
  | done result => rfl
  | ask effect rest ih => simp only [bind, run, ih]

end Program

end DnsReconcile
