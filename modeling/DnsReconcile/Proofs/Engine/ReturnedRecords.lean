/-
# Records on their way back

A provider that is asked to delete or to replace a record is given a record it has listed before.
In between the record has been brought into canonical form, so it comes back as it was only if it
was spelled canonically: label and payload may be written in another way, and a TTL that was left
open is filled in. What the provider needs to know the record again, its type, its metadata and
the reference to the provider's own copy, always comes back as it was.
-/

import DnsReconcile.Proofs.Changeset.Entries
import DnsReconcile.Proofs.Engine.PlannedCorrections
import DnsReconcile.Proofs.Engine.ValidationFailures
import DnsReconcile.Proofs.Zone.CanonicalForms

namespace DnsReconcile

/-! ## Canonical spelling -/

namespace Origin

/-- A record is spelled as its zone spells it. -/
structure Spells (origin : Origin) (record : Record) : Prop where
  label : origin.label record.label.toList = .ok record.label.toList
  payload : origin.payload record.payload = .ok record.payload
  ttl : record.ttl ≠ 0

/-- How a record comes out of being brought into canonical form. -/
structure Rewritten (origin : Origin) (listed record : Record) : Prop where
  form : origin.record listed = .ok record
  type : record.type = listed.type
  metadata : record.metadata = listed.metadata
  ref : record.ref = listed.ref
  /-- It is the record that it was exactly if that was spelled as the zone spells it. -/
  untouched_iff : record = listed ↔ origin.Spells listed

theorem rewritten_of_record {origin : Origin} (sound : origin.Sound) {listed record : Record}
    (found : origin.record listed = .ok record) : origin.Rewritten listed record := by
  have whole := found
  obtain ⟨-, label, payload, labelled, paid, rfl⟩ := record_eq_ok_iff.1 found
  refine ⟨whole, rfl, rfl, rfl, fun same => ?_, fun spelled => ?_⟩
  · rw [same] at whole
    obtain ⟨own_label, own_payload, own_ttl⟩ := of_record_self sound whole
    exact ⟨own_label, own_payload, own_ttl⟩
  · obtain rfl := Except.ok.inj (labelled.symm.trans spelled.label)
    obtain rfl := Except.ok.inj (paid.symm.trans spelled.payload)
    rw [if_neg spelled.ttl, String.ofList_toList]

end Origin

/-! ## What is given back -/

/-- The observed record that an action is about. -/
def Action.existing? : Action → Option Record
  | .create _ => none
  | .delete record => some record
  | .modify existing _ => some existing
  | .toggle _ _ => none

/-- The records that providers are given back: those they are asked to delete, and those they are
asked to replace. -/
def EngineM.givenBack (asked : List EngineM.Exchange) : List Record :=
  (EngineM.writes asked).filterMap fun write => write.action.existing?

/-- The observed records that the corrections of a changeset are about took part in the
comparison. -/
theorem Comparison.mem_existing_of_sequence {comparison : Comparison}
    {desired existing : List Record} {changes : Changeset} {correction : Correction}
    {record : Record} (compared : comparison.changes desired existing = .ok changes)
    (member : correction ∈ Correction.sequence changes)
    (about : correction.action.existing? = some record) : record ∈ existing := by
  rcases Correction.mem_sequence_iff.1 member with
    ⟨change, asked, rfl⟩ | ⟨change, -, rfl⟩ | ⟨pair, asked, rfl⟩
  · obtain rfl := Option.some.inj about
    exact mem_existing_of_delete compared asked
  · cases about
  · obtain rfl := Option.some.inj about
    exact mem_existing_of_modify compared asked

namespace Engine

open EngineM Program

variable {engine : Engine} {zone : Zone} {plan : ZonePlan} {asked : List Exchange}

/-- The corrections of a plan are those of its changeset, and switches of features. -/
def Composed (plan : ZonePlan) : Prop :=
  ∀ correction ∈ plan.corrections, correction ∈ Correction.sequence plan.changes ∨
    ∃ feature enabled, correction.action = .toggle feature enabled

theorem ensures_featureCorrections (provider name : String) (desired : Dict Bool) :
    (featureCorrections provider name desired).Ensures fun toggles =>
      ∀ correction ∈ toggles, ∃ feature enabled, correction.action = .toggle feature enabled := by
  unfold featureCorrections
  split
  · exact fun _ member => absurd member List.not_mem_nil
  · intro answer
    cases answer with
    | error error => exact fun _ _ member => absurd member List.not_mem_nil
    | ok current => exact fun _ member => Correction.exists_toggle_of_mem_ofFeatures member

theorem ensures_planPrepared (engine : Engine) (adapter : Adapter) (zone desired : Zone) :
    (engine.planPrepared adapter zone desired).Ensures fun result =>
      ∀ plan, result = .ok plan → Composed plan := by
  refine Ensures.bind fun answer => ?_
  cases answer with
  | error error => exact fun _ impossible => nomatch impossible
  | ok observed =>
      dsimp only
      cases adapter.compare engine.matcher desired observed with
      | error error => exact fun _ impossible => nomatch impossible
      | ok changes =>
          refine (ensures_featureCorrections _ _ _).bind_of fun toggles switches _ plan same => ?_
          obtain rfl := Except.ok.inj same
          exact fun correction member => (List.mem_append.1 member).imp id (switches correction)

theorem ensures_plan (engine : Engine) (zone : Zone) :
    (engine.plan zone).Ensures fun result => ∀ plan, result = .ok plan → Composed plan := by
  unfold Engine.plan
  cases engine.adapter zone.provider with
  | error error => exact fun _ impossible => nomatch impossible
  | ok adapter =>
      dsimp only
      refine Ensures.bind fun _ => ?_
      cases (adapter.prepare engine.matcher zone).2 with
      | error error => exact fun _ impossible => nomatch impossible
      | ok desired => exact ensures_planPrepared engine adapter zone desired

/-- The corrections that have been written are among those of the plan. -/
theorem Carries.exists_correction {stopOnFirstError : Bool} {provider name : String}
    {corrections : List Correction} {outcomes : List CorrectionOutcome} {skipped : Nat}
    {written : List Write}
    (carries : Carries stopOnFirstError provider name corrections outcomes skipped written)
    {write : Write} (member : write ∈ written) :
    ∃ correction ∈ corrections, write.action = correction.action := by
  rw [carries.written] at member
  obtain ⟨n, inside, rfl⟩ := List.getElem_of_mem member
  rw [List.getElem_zipWith]
  exact ⟨_, List.mem_of_mem_take (List.getElem_mem _), rfl⟩

/-- Whoever carries out a plan, nothing is written but its corrections. -/
theorem exists_correction_of_apply {result : Except Error ApplyReport}
    (ran : Transcript (engine.apply plan) asked result) {write : Write}
    (member : write ∈ writes asked) :
    ∃ correction ∈ plan.corrections, write.action = correction.action := by
  cases known : engine.adapter plan.provider with
  | error error =>
      unfold apply at ran
      rw [known] at ran
      obtain ⟨rfl, -⟩ := transcript_done_iff.1 ran
      cases member
  | ok adapter =>
      obtain ⟨report, -, carries⟩ := carries_of_apply known ran
      exact carries.exists_correction member

/-- What is given back while a plan is carried out comes from the listing that the plan was made
from, by way of its canonical form. -/
theorem exists_rewritten_of_apply {applier : Engine} {applied : List Exchange}
    {result : Except Error ApplyReport} {adapter : Adapter} {desired : Zone}
    {observed : List Record} {record : Record}
    (planned : Transcript (engine.plan zone) asked (.ok plan))
    (compared : adapter.compare engine.matcher desired observed = .ok plan.changes)
    (ran : Transcript (applier.apply plan) applied result) (member : record ∈ givenBack applied) :
    ∃ listed ∈ observed, (Origin.ofZone desired).Rewritten listed record := by
  obtain ⟨write, written, about⟩ := List.mem_filterMap.1 member
  obtain ⟨correction, own, same⟩ := exists_correction_of_apply ran written
  rw [same] at about
  obtain ⟨existing, forms, changes⟩ := bind_eq_ok_iff.1 compared
  rcases (ensures_plan engine zone).of_transcript planned plan rfl correction own with
    asked | ⟨feature, enabled, toggle⟩
  · have present := Comparison.mem_existing_of_sequence changes asked about
    obtain ⟨listed, known, form⟩ := (RecordSet.mem_normalize_iff forms).1 present
    exact ⟨listed, known, Origin.rewritten_of_record (Origin.sound_ofZone desired) form⟩
  · rw [toggle] at about
    cases about

/-- Whatever the provider of a zone answers and whoever carries out the plan, each record that is
given back to be deleted or replaced is one that was listed while the plan was made, rewritten to
its canonical form. It comes back untouched exactly if it was spelled that way; type, metadata and
reference come back untouched in any case. -/
theorem listed_records_given_back (engine : Engine) (zone : Zone)
    (respond : List Exchange → (effect : Effect) → effect.Answer) (past : List Exchange) :
    ∃ result asked, (engine.plan zone).record respond past = (result, past ++ asked) ∧
      ∀ plan, result = .ok plan →
        ∃ adapter desired observed, engine.desiredSide zone = .ok (adapter, desired) ∧
          (⟨.call zone.provider (.fetch zone.name), .ok observed⟩ : Exchange) ∈ asked ∧
          ∀ (applier : Engine) (respond' : List Exchange → (effect : Effect) → effect.Answer)
            (past' : List Exchange),
            ∃ report applied, (applier.apply plan).record respond' past' =
                (report, past' ++ applied) ∧
              ∀ record ∈ givenBack applied,
                ∃ listed ∈ observed, (Origin.ofZone desired).Rewritten listed record := by
  obtain ⟨result, asked, ran, planned⟩ :=
    exists_transcript_record respond (engine.plan zone) past
  refine ⟨result, asked, ran, fun plan same => ?_⟩
  subst same
  cases planRun_of_transcript planned with
  | planned prepared quiet compared reading =>
      refine ⟨_, _, _, prepared, List.mem_append_right _ List.mem_cons_self,
        fun applier respond' past' => ?_⟩
      obtain ⟨report, applied, ran', transcript⟩ :=
        exists_transcript_record respond' (applier.apply _) past'
      exact ⟨report, applied, ran', fun record =>
        exists_rewritten_of_apply planned compared transcript⟩

/-- Two records that nobody desires. One is spelled canonically; of the other, label and TTL are
not. -/
theorem listed_records_given_back_of_two_deletions :
    let engine : Engine := { adapters := .ofList [("memory", Store.adapter)] }
    let zone : Zone := { name := "example.com", provider := "memory" }
    let listing : List Record := [
      { label := "www", type := .txt, payload := .txt ["a"], ttl := 60 },
      { label := "Api.example.com.", type := .txt, payload := .txt ["b"] }]
    ∃ plan asked report applied,
      (engine.plan zone).record (listingAlways listing) [] = (.ok plan, asked) ∧
      (engine.apply plan).record (listingAlways listing) [] = (report, applied) ∧
      (givenBack applied).map (fun record => (record.label, record.ttl)) =
        [("api", 300), ("www", 60)] ∧
      ∃ desired observed,
        (⟨.call zone.provider (.fetch zone.name), .ok observed⟩ : Exchange) ∈ asked ∧
        ∀ record ∈ givenBack applied,
          ∃ listed ∈ observed, (Origin.ofZone desired).Rewritten listed record := by
  intro engine zone listing
  obtain ⟨plan, planned, seen⟩ := exists_eq_ok_of_map
    (show ((engine.plan zone).record (listingAlways listing) []).1.toOption.map (fun plan =>
        (givenBack ((engine.apply plan).record (listingAlways listing) []).2).map
          fun record => (record.label, record.ttl)) =
      some [("api", 300), ("www", 60)] by decide +kernel)
  obtain ⟨result, asked, ran, gives⟩ :=
    listed_records_given_back engine zone (listingAlways listing) []
  obtain rfl : result = .ok plan := (congrArg Prod.fst ran).symm.trans planned
  obtain ⟨adapter, desired, observed, -, fetched, back⟩ := gives plan rfl
  obtain ⟨report, applied, carried, rewritten⟩ := back engine (listingAlways listing) []
  rw [carried] at seen
  exact ⟨plan, asked, report, applied, ran, carried, seen, desired, observed, fetched, rewritten⟩

/-- A provider that lists a record with capitals in its label is asked to delete another one. -/
theorem listed_record_not_given_back :
    let engine : Engine := { adapters := .ofList [("memory", Store.adapter)] }
    let zone : Zone := { name := "example.com", provider := "memory" }
    let listing : List Record :=
      [{ label := "WWW", type := .a, payload := .a ⟨192, 0, 2, 1⟩, ttl := 300 }]
    ∃ plan asked report applied,
      (engine.plan zone).record (listingAlways listing) [] = (.ok plan, asked) ∧
      (engine.apply plan).record (listingAlways listing) [] = (report, applied) ∧
      ∃ record ∈ givenBack applied, record ∉ listing := by
  intro engine zone listing
  obtain ⟨plan, planned, seen⟩ := exists_eq_ok_of_map
    (show ((engine.plan zone).record (listingAlways listing) []).1.toOption.map (fun plan =>
        (givenBack ((engine.apply plan).record (listingAlways listing) []).2).map (·.label)) =
      some ["www"] by decide +kernel)
  have member : "www" ∈ (givenBack ((engine.apply plan).record (listingAlways listing) []).2).map
      (·.label) := seen ▸ List.mem_singleton_self _
  obtain ⟨record, given, label⟩ := List.mem_map.1 member
  refine ⟨plan, _, _, _, Prod.ext planned rfl, rfl, record, given, fun listed => ?_⟩
  obtain rfl := List.mem_singleton.1 listed
  exact absurd label (by decide)

end Engine

end DnsReconcile
