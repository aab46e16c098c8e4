/-
# The corrections of a plan

A plan, whoever serves the zone, consists of the corrections of its changeset in their phases
and, after all of these, of one toggle for each feature that is desired to be other than the
provider reports it.
-/

import DnsReconcile.Proofs.Correction.Phases
import DnsReconcile.Proofs.Engine.Runs
import DnsReconcile.Proofs.Refusals
import DnsReconcile.Provider.Memory

namespace DnsReconcile

/-- Features are switched if they are reported in the other state, each once and in the order
of their names. -/
theorem Correction.ofFeatures_actions (name : String) (desired current : Dict Bool) :
    (ofFeatures name desired current).map (·.action) =
      (desired.entries.filter fun entry => current.get? entry.1 == some !entry.2).map
        fun entry => .toggle entry.1 entry.2 := by
  rw [ofFeatures, List.map_filterMap, ← List.filterMap_eq_map, List.filterMap_filter]
  apply List.filterMap_congr
  rintro ⟨feature, enabled⟩ -
  dsimp only
  cases current.get? feature with
  | none => rfl
  | some actual => cases actual <;> cases enabled <;> rfl

/-- A correction of a feature switches it and does nothing to records. -/
theorem Correction.exists_toggle_of_mem_ofFeatures {name : String} {desired current : Dict Bool}
    {correction : Correction} (member : correction ∈ ofFeatures name desired current) :
    ∃ feature enabled, correction.action = .toggle feature enabled := by
  have switches := List.mem_map_of_mem (f := fun other : Correction => other.action) member
  rw [ofFeatures_actions] at switches
  obtain ⟨entry, -, same⟩ := List.mem_map.1 switches
  exact ⟨entry.1, entry.2, same.symm⟩

/-- A plan deletes the records that its changeset does. -/
theorem Provider.Plans.exists_delete_iff {σ : Type} {provider : Provider σ}
    {matcher : LabelMatcher} {zone desired : Zone} {services : σ} {observed : List Record}
    {plan : ZonePlan} (plans : provider.Plans matcher zone services desired observed plan)
    {record : Record} :
    (∃ correction ∈ plan.corrections, correction.action = .delete record) ↔
      record ∈ plan.changes.delete.map (·.record) := by
  rw [← Correction.exists_delete_iff, plans.corrections]
  apply Iff.intro
  · rintro ⟨correction, member, action⟩
    cases List.mem_append.1 member with
    | inl change => exact ⟨correction, change, action⟩
    | inr toggle =>
        obtain ⟨feature, enabled, switches⟩ := Correction.exists_toggle_of_mem_ofFeatures toggle
        cases action.symm.trans switches
  · rintro ⟨correction, change, action⟩
    exact ⟨correction, List.mem_append_left _ change, action⟩

open Surroundings

end DnsReconcile
