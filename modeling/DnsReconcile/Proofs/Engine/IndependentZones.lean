/-
# Zones that are reconciled at the same time

Zones of different names do not get in each other's way, in whatever order their tasks take
turns on one store. They share the counter for identifiers, so a zone does not end as it would
alone; but it does up to identifiers that were given in the meantime. What comes of a zone is
the same, down to its report, since plans name records by older identifiers.
-/

import DnsReconcile.Proofs.Engine.ZoneTasks

namespace DnsReconcile

open Store Surroundings

namespace Store

variable {providers : Dict (Provider Store)} {engine : Engine} {mode : Mode} {zones : List Zone}
variable {tasks : List (EngineM ZoneOutcome)} {start state : Surroundings Store}

/-- What holds at any time while the tasks for zones take turns: each is in step with a run for
its zone alone, and of zones without a task nothing is different. -/
structure Together (providers : Dict (Provider Store)) (engine : Engine) (mode : Mode)
    (start : Surroundings Store) (zones : List Zone) (tasks : List (EngineM ZoneOutcome))
    (state : Surroundings Store) : Prop where
  length : tasks.length = zones.length
  each : ∀ (n : Nat) (zone : Zone) (task : EngineM ZoneOutcome), zones[n]? = some zone →
    tasks[n]? = some task →
    ∃ alone : Surroundings Store,
      run providers task alone = run providers (engine.reconcileZone mode zone) start ∧
        ∃ fresh, InStep providers zone.name start.services fresh task state.services
          alone.services
  others : ∀ name ∉ zones.map Zone.name, Untold name start.services state.services

theorem together_start
    (keeps : ∀ zone ∈ zones, KeepsTo providers zone.name start.services (fun _ _ => True) true
      (engine.reconcileZone mode zone)) :
    Together providers engine mode start zones (zones.map (engine.reconcileZone mode)) start where
  length := List.length_map _
  each n zone task listed given := by
    rw [List.getElem?_map, listed, Option.map_some, Option.some.injEq] at given
    subst given
    refine ⟨start, rfl, true, keeps zone (List.mem_of_getElem? listed), .refl _ _, ?_⟩
    intro _ store here
    have same : store = start.services := by simpa using here
    rw [same]
    exact ⟨rfl, rfl⟩
  others name _ := .refl _ _

/-- One turn keeps all of that. The zone whose turn it is does the same in its run alone; the
others are not told. -/
theorem Together.turn (distinct : (zones.map Zone.name).Nodup)
    (together : Together providers engine mode start zones tasks state) {n : Nat}
    {task : EngineM ZoneOutcome} (here : tasks[n]? = some task) :
    Together providers engine mode start zones
      (tasks.set n (task.advance (answer providers) state).1)
      (task.advance (answer providers) state).2 := by
  obtain ⟨inside, own⟩ := List.getElem?_eq_some_iff.1 here
  obtain ⟨zone, listed⟩ : ∃ zone, zones[n]? = some zone :=
    ⟨_, List.getElem?_eq_getElem (together.length ▸ inside)⟩
  obtain ⟨alone, followed, fresh, step⟩ := together.each n zone task listed here
  refine ⟨by rw [List.length_set, together.length], fun m other task' listed' given => ?_,
    fun name outside => ?_⟩
  · by_cases same : n = m
    · subst same
      obtain rfl := Option.some.inj (listed.symm.trans listed')
      rw [List.getElem?_set_self inside, Option.some.injEq] at given
      subst given
      obtain ⟨answered, step'⟩ := step.advance
      refine ⟨(task.advance (answer providers) alone).2, ?_, step'⟩
      rw [answered, ← followed]
      exact Program.run_advance (answer providers) task alone
    · rw [List.getElem?_set_ne same] at given
      obtain ⟨alone', followed', fresh', step'⟩ := together.each m other task' listed' given
      have apart : other.name ≠ zone.name := fun named => by
        have names : (zones.map Zone.name)[n]? = (zones.map Zone.name)[m]? := by
          rw [List.getElem?_map, List.getElem?_map, listed, listed', Option.map_some,
            Option.map_some, named]
        have bound : n < (zones.map Zone.name).length := by
          rw [List.length_map, ← together.length]
          exact inside
        exact same ((List.getElem?_inj bound distinct).1 names)
      exact ⟨alone', followed', fresh', step'.of_untold (step.keeps.untold apart state)⟩
  · have apart : name ≠ zone.name := fun same =>
      outside (same ▸ List.mem_map_of_mem (List.mem_of_getElem? listed))
    exact (together.others name outside).trans (step.keeps.untold apart state)

/-- So does every schedule. -/
theorem Together.interleave (distinct : (zones.map Zone.name).Nodup) (schedule : List Nat)
    (together : Together providers engine mode start zones tasks state) :
    Together providers engine mode start zones
      (Program.interleave (answer providers) schedule tasks state).1
      (Program.interleave (answer providers) schedule tasks state).2 := by
  induction schedule generalizing tasks state with
  | nil => exact together
  | cons n rest ih =>
      cases here : tasks[n]? with
      | none =>
          simp only [Program.interleave, here]
          exact ih together
      | some task =>
          rw [Program.interleave_cons_of_some (answer providers) here]
          exact ih (together.turn distinct here)

end Store

/-- Zones that a store serves under different names are reconciled as if each were alone, however
their tasks take turns. Whenever a zone is done, its outcome is the one it comes to alone from
the start, and the store holds for it the features and, up to identifiers given since the start,
the records that it would hold then. Of other zones nothing has changed. Running the zones one
after the other is a schedule that gets all of them done. -/
theorem zones_do_not_interfere (providers : Dict (Provider Store)) (settings : EngineSettings)
    (matcher : LabelMatcher) (mode : Mode) {zones : List Zone} {start : Surroundings Store}
    (distinct : (zones.map Zone.name).Nodup)
    (served : ∀ zone ∈ zones, ∀ provider, providers.get? zone.provider = some provider →
      provider = Store.provider)
    (reachable : start.services.Reachable) :
    let engine := Engine.ofProviders providers settings matcher
    (∀ (schedule : List Nat) (tasks : List (EngineM ZoneOutcome)) (final : Surroundings Store),
      Program.interleave (answer providers) schedule (zones.map (engine.reconcileZone mode))
          start = (tasks, final) →
        tasks.length = zones.length ∧
        (∀ (n : Nat) (zone : Zone) (outcome : ZoneOutcome), zones[n]? = some zone →
          tasks[n]?.bind Program.result? = some outcome →
          ∃ alone, run providers (engine.reconcileZone mode zone) start = (outcome, alone) ∧
            List.Forall₂ (Alike start.services.issued) (final.services.records zone.name)
              (alone.services.records zone.name) ∧
            final.services.featuresOf zone.name = alone.services.featuresOf zone.name) ∧
        ∀ name ∉ zones.map Zone.name,
          final.services.records name = start.services.records name ∧
            final.services.featuresOf name = start.services.featuresOf name) ∧
      ∃ schedule outcomes final,
        Program.interleave (answer providers) schedule (zones.map (engine.reconcileZone mode))
            start = (outcomes.map .done, final) ∧
          run providers (engine.reconcileZones mode zones) start = (outcomes, final) := by
  intro engine
  refine ⟨fun schedule tasks final ran => ?_, ?_⟩
  · have keeps : ∀ zone ∈ zones, KeepsTo providers zone.name start.services (fun _ _ => True) true
        (engine.reconcileZone mode zone) := fun zone member =>
      keepsTo_reconcileZone (served zone member) reachable.numbered
    have together := (together_start keeps).interleave distinct schedule
    rw [ran] at together
    refine ⟨together.length, fun n zone outcome listed done => ?_, fun name outside => ?_⟩
    · obtain ⟨task, given, done⟩ := Option.bind_eq_some_iff.1 done
      obtain rfl := Program.result?_eq_some_iff.1 done
      obtain ⟨alone, followed, fresh, step⟩ := together.each n zone _ listed given
      exact ⟨alone, followed.symm, step.alike.forall₂_records, step.alike.features⟩
    · have untold := together.others name outside
      exact ⟨untold.records_eq, untold.featuresOf_eq⟩
  · obtain ⟨schedule, ran⟩ := exists_schedule_of_reconcileZones providers engine mode zones rfl
    exact ⟨schedule, _, _, ran, rfl⟩

/-- Two zones push in turn, and each is given the identifiers in between those of the other. -/
theorem zones_do_not_interfere_of_two_pushes :
    let providers : Dict (Provider Store) := .ofList [("memory", Store.provider)]
    let first : Zone :=
      { name := "example.com", provider := "memory"
        records := [.ofPayload "www" (.txt ["new"]), .ofPayload "api" (.txt ["new"])] }
    let second : Zone :=
      { name := "example.net", provider := "memory"
        records := [.ofPayload "www" (.txt ["new"]), .ofPayload "api" (.txt ["new"])] }
    let store : Store := Store.after {} (.seed "example.com" [.ofPayload "old" (.txt ["old"])])
    let start : Surroundings Store := ⟨store, .ofCapacity 8, []⟩
    let engine := Engine.ofProviders providers {} .glob
    ∃ tasks final, Program.interleave (answer providers) (List.replicate 12 [0, 1]).flatten
        ([first, second].map (engine.reconcileZone .push)) start = (tasks, final) ∧
      (∀ (n : Nat) (zone : Zone), [first, second][n]? = some zone →
        ∃ outcome alone, tasks[n]?.bind Program.result? = some outcome ∧
          run providers (engine.reconcileZone .push zone) start = (outcome, alone) ∧
          List.Forall₂ (Alike 1) (final.services.records zone.name)
            (alone.services.records zone.name)) ∧
      final.services.ids "example.com" = [some "mem-3", some "mem-5"] ∧
      (run providers (engine.reconcileZone .push first) start).2.services.ids "example.com" =
        [some "mem-2", some "mem-3"] := by
  intro providers first second store start engine
  have reachable : start.services.Reachable :=
    Reachable.empty.after (.seed "example.com" [.ofPayload "old" (.txt ["old"])])
  have served : ∀ zone ∈ [first, second], ∀ provider,
      providers.get? zone.provider = some provider → provider = Store.provider := by
    intro zone member provider found
    have named : zone.provider = "memory" := by
      rcases List.mem_cons.1 member with rfl | last
      · rfl
      · rw [List.mem_singleton.1 last]
    rw [named] at found
    exact (Option.some.inj found).symm
  have finished : (Program.interleave (answer providers) (List.replicate 12 [0, 1]).flatten
      ([first, second].map (engine.reconcileZone .push)) start).1.map
        (fun task => task.result?.isSome) = [true, true] := by
    decide +kernel
  have given : (Program.interleave (answer providers) (List.replicate 12 [0, 1]).flatten
      ([first, second].map (engine.reconcileZone .push)) start).2.services.ids "example.com" =
        [some "mem-3", some "mem-5"] := by
    decide +kernel
  obtain ⟨each, -⟩ := zones_do_not_interfere providers {} .glob .push
    (show ([first, second].map Zone.name).Nodup by decide) served reachable
  rcases ran : Program.interleave (answer providers) (List.replicate 12 [0, 1]).flatten
      ([first, second].map (engine.reconcileZone .push)) start with ⟨tasks, final⟩
  rw [ran] at finished given
  obtain ⟨-, alone, -⟩ := each _ tasks final ran
  refine ⟨tasks, final, rfl, fun n zone listed => ?_, given, by decide +kernel⟩
  have done : (tasks[n]?.bind Program.result?).isSome = true := by
    have inside : n < 2 := (List.getElem?_eq_some_iff.1 listed).1
    have lengths := congrArg List.length finished
    rw [List.length_map] at lengths
    have bound : n < tasks.length := lengths ▸ inside
    have marked : tasks[n].result?.isSome ∈ [true, true] :=
      finished ▸ List.mem_map_of_mem (List.getElem_mem bound)
    rw [List.getElem?_eq_getElem bound, Option.bind_some]
    simpa using marked
  obtain ⟨outcome, done⟩ := Option.isSome_iff_exists.1 done
  obtain ⟨state, same, records, -⟩ := alone n zone outcome listed done
  exact ⟨outcome, state, done, same, records⟩

end DnsReconcile
