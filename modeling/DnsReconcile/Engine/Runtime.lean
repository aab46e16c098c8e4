/-
# Running the engine

An engine whose provider instances are at hand. Their zones and everything else
that changes in the course of a run form its surroundings: calls go to the
instances, events into a channel, warnings into a log.
-/

import DnsReconcile.Engine.Reconcile

namespace DnsReconcile

/-- What changes while an engine runs. -/
structure Surroundings (σ : Type) where
  /-- The zones of all provider instances. -/
  services : σ
  channel : Channel
  /-- The warnings so far. -/
  warnings : List String := []

namespace Surroundings

variable {σ : Type}

/-- Answer one request of the engine. -/
def answer (providers : Dict (Provider σ)) :
    (effect : Effect) → Surroundings σ → effect.Answer × Surroundings σ
  | .call name call, state =>
      match providers.get? name with
      | none => (call.refuse (Engine.unknownProvider name), state)
      | some provider =>
          let (answer, services) := provider.answer call state.services
          (answer, { state with services })
  | .emit event, state =>
      let (warnings, channel) := state.channel.send event
      ((), { state with channel, warnings := state.warnings ++ warnings })
  | .warn text, state => ((), { state with warnings := state.warnings ++ [text] })

/-- Run a computation of the engine. -/
def run {α : Type} (providers : Dict (Provider σ)) (task : EngineM α) (state : Surroundings σ) :
    α × Surroundings σ :=
  task.run (answer providers) state

end Surroundings

/-- The engine for given provider instances. -/
def Engine.ofProviders {σ : Type} (providers : Dict (Provider σ)) (settings : EngineSettings)
    (matcher : LabelMatcher) : Engine where
  adapters := providers.mapValues (·.adapter)
  matcher := matcher
  stopOnFirstError := settings.stopOnFirstError

end DnsReconcile
