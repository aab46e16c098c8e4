/-
# Tasks that take turns

Several programs run on one state. Each turn belongs to one of them, which does its next
effect; nothing is said about whose turn it is when, so this covers every way in which the
programs can be run at the same time, as long as an effect is done as a whole. Running one
program after the other is such a way.
-/

import DnsReconcile.Engine.Runtime

namespace DnsReconcile

universe u

namespace Program

variable {Effect : Type} {Answer : Effect → Type} {α : Type u} {σ : Type u}
variable (handle : (effect : Effect) → σ → Answer effect × σ)

/-- Let a task do its next effect. A task that is done has none. -/
def advance : Program Effect Answer α → σ → Program Effect Answer α × σ
  | .done result, state => (.done result, state)
  | .ask effect next, state =>
      let (answer, state) := handle effect state
      (next answer, state)

/-- Let tasks take turns. The schedule says by its place whose turn it is. -/
def interleave :
    List Nat → List (Program Effect Answer α) → σ → List (Program Effect Answer α) × σ
  | [], tasks, state => (tasks, state)
  | turn :: schedule, tasks, state =>
      match tasks[turn]? with
      | none => interleave schedule tasks state
      | some task =>
          let (task, state) := task.advance handle state
          interleave schedule (tasks.set turn task) state

/-- The result of a task that is done. -/
def result? : Program Effect Answer α → Option α
  | .done result => some result
  | .ask .. => none

theorem result?_eq_some_iff {task : Program Effect Answer α} {result : α} :
    task.result? = some result ↔ task = .done result := by
  cases task <;> simp [result?]

/-- A turn does not change what a task comes to. -/
theorem run_advance (task : Program Effect Answer α) (state : σ) :
    (task.advance handle state).1.run handle (task.advance handle state).2 =
      task.run handle state := by
  cases task <;> rfl

theorem interleave_cons_of_some {turn : Nat} {tasks : List (Program Effect Answer α)}
    {task : Program Effect Answer α} (here : tasks[turn]? = some task) (schedule : List Nat)
    (state : σ) :
    interleave handle (turn :: schedule) tasks state =
      interleave handle schedule (tasks.set turn (task.advance handle state).1)
        (task.advance handle state).2 := by
  simp only [interleave, here]

theorem interleave_append (first second : List Nat) (tasks : List (Program Effect Answer α))
    (state : σ) :
    interleave handle (first ++ second) tasks state =
      interleave handle second (interleave handle first tasks state).1
        (interleave handle first tasks state).2 := by
  induction first generalizing tasks state with
  | nil => rfl
  | cons turn rest ih =>
      rw [List.cons_append]
      cases here : tasks[turn]? with
      | none => simp only [interleave, here, ih]
      | some task =>
          rw [interleave_cons_of_some handle here, interleave_cons_of_some handle here, ih]

/-- A task that has all the turns is run to its end. -/
theorem exists_schedule_of_run (task : Program Effect Answer α)
    (before after : List (Program Effect Answer α)) (state : σ) :
    ∃ schedule, interleave handle schedule (before ++ task :: after) state =
      (before ++ .done (task.run handle state).1 :: after, (task.run handle state).2) := by
  induction task generalizing state with
  | done result => exact ⟨[], rfl⟩
  | ask effect next ih =>
      obtain ⟨schedule, ran⟩ := ih (handle effect state).1 (handle effect state).2
      refine ⟨before.length :: schedule, ?_⟩
      have here :
          (before ++ ask effect next :: after)[before.length]? = some (ask effect next) := by
        rw [List.getElem?_append_right (Nat.le_refl _), Nat.sub_self, List.getElem?_cons_zero]
      rw [interleave_cons_of_some handle here, List.set_append_right _ _ (Nat.le_refl _),
        Nat.sub_self, List.set_cons_zero]
      exact ran

end Program

namespace Surroundings

variable {σ : Type} (providers : Dict (Provider σ)) (engine : Engine) (mode : Mode)

/-- Reconciling zones one after another is one way to let them take turns. -/
theorem exists_schedule_of_reconcileZones (zones : List Zone) {state final : Surroundings σ}
    {outcomes : List ZoneOutcome}
    (ran : run providers (engine.reconcileZones mode zones) state = (outcomes, final)) :
    ∃ schedule, Program.interleave (answer providers) schedule
      (zones.map (engine.reconcileZone mode)) state = (outcomes.map .done, final) := by
  -- Zones that are done stand in front of those that have not begun.
  suffices each : ∀ (zones : List Zone) (settled : List ZoneOutcome) (state : Surroundings σ),
      ∃ schedule, Program.interleave (answer providers) schedule
          (settled.map .done ++ zones.map (engine.reconcileZone mode)) state =
        ((settled ++ (run providers (engine.reconcileZones mode zones) state).1).map .done,
          (run providers (engine.reconcileZones mode zones) state).2) by
    obtain ⟨schedule, took_turns⟩ := each zones [] state
    rw [ran] at took_turns
    exact ⟨schedule, took_turns⟩
  intro zones
  induction zones with
  | nil =>
      intro settled state
      exact ⟨[], by simp [Program.interleave, Engine.reconcileZones, run]⟩
  | cons zone rest ih =>
      intro settled state
      obtain ⟨first, one⟩ := Program.exists_schedule_of_run (answer providers)
        (engine.reconcileZone mode zone) (settled.map .done)
        (rest.map (engine.reconcileZone mode)) state
      obtain ⟨second, others⟩ := ih
        (settled ++ [(run providers (engine.reconcileZone mode zone) state).1])
        (run providers (engine.reconcileZone mode zone) state).2
      have whole : run providers (engine.reconcileZones mode (zone :: rest)) state =
          ((run providers (engine.reconcileZone mode zone) state).1 ::
            (run providers (engine.reconcileZones mode rest)
              (run providers (engine.reconcileZone mode zone) state).2).1,
            (run providers (engine.reconcileZones mode rest)
              (run providers (engine.reconcileZone mode zone) state).2).2) := by
        simp only [run, Engine.reconcileZones, Program.run_bind, Program.run_pure]
      rw [List.map_append, List.append_assoc] at others
      rw [List.append_assoc] at others
      refine ⟨first ++ second, ?_⟩
      rw [Program.interleave_append, List.map_cons, one, whole]
      exact others

end Surroundings

end DnsReconcile
