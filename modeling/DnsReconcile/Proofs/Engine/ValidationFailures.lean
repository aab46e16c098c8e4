/-
# Failures of validation

A zone that is given up because of its settings should not have been looked at: what its owner
wrote can be checked without a call. So it is for the desired side. But the records that a
provider lists go through the same normal form, and what is wrong with them is reported in the
same way. Main statement: which of the two sides is at fault can be told from the calls, and
nothing is written in either case.
-/

import DnsReconcile.Proofs.Changeset.PayloadIdentity
import DnsReconcile.Proofs.Engine.PushedWrites
import DnsReconcile.Proofs.Engine.Runs
import DnsReconcile.Provider.Memory

namespace DnsReconcile

/-! ## Refusals by side -/

theorem isValidation_of_refuse {α : Type} {label reason : String} {type : RecordType}
    {error : Error} (refused : (Record.refuse label type reason : Except Error α) = .error error) :
    error.isValidation = true := by
  obtain rfl := Except.error.inj refused
  rfl

theorem Origin.isValidation_of_record {origin : Origin} {record : Record} {error : Error}
    (refused : origin.record record = .error error) : error.isValidation = true := by
  simp only [Origin.record] at refused
  split at refused
  · exact isValidation_of_refuse refused
  · split at refused
    · exact isValidation_of_refuse refused
    · split at refused
      · exact isValidation_of_refuse refused
      · cases refused

theorem RecordSet.isValidation_of_checkTypes {label : String} {types : List RecordType}
    {error : Error} (refused : checkTypes label types = .error error) :
    error.isValidation = true := by
  simp only [checkTypes] at refused
  split at refused
  · exact isValidation_of_refuse refused
  · split at refused
    · exact isValidation_of_refuse refused
    · cases refused

/-- A list of records without a canonical form is refused as settings are. -/
theorem RecordSet.isValidation_of_normalize {origin : Origin} {records : List Record}
    {error : Error} (refused : normalize origin records = .error error) :
    error.isValidation = true := by
  simp only [normalize] at refused
  rcases bind_eq_error_iff.1 refused with unformed | ⟨canonical, -, refused⟩
  · obtain ⟨record, -, own⟩ := exists_of_mapM_eq_error unformed
    exact Origin.isValidation_of_record own
  · rcases bind_eq_error_iff.1 refused with together | ⟨-, -, ended⟩
    · obtain ⟨label, -, own⟩ := exists_of_forM_eq_error together
      exact isValidation_of_checkTypes own
    · cases ended

namespace Comparison

variable {comparison : Comparison} {desired existing : List Record} {error : Error}

theorem not_isValidation_of_checkSide {side : String} {takesPart : Record → Bool}
    {seen : List RecordKey} {records : List Record}
    (refused : checkSide side takesPart seen records = .error error) :
    error.isValidation = false := by
  rcases fault_or_seen_of_checkSide refused with fault | ⟨record, -, -, -, rfl⟩
  · cases fault <;> rfl
  · rfl

/-- Two record sets that cannot be compared are not refused as settings are, if the desired one
was permitted. -/
theorem not_isValidation_of_changes
    (permitted : comparison.zone.checkIgnored comparison.matcher desired = .ok ())
    (refused : comparison.changes desired existing = .error error) :
    error.isValidation = false := by
  simp only [changes] at refused
  rcases bind_eq_error_iff.1 refused with ignored | ⟨-, -, refused⟩
  · rw [permitted] at ignored
    cases ignored
  · rcases bind_eq_error_iff.1 refused with observed | ⟨-, -, refused⟩
    · exact not_isValidation_of_checkSide observed
    · rcases bind_eq_error_iff.1 refused with wanted | ⟨-, -, ended⟩
      · exact not_isValidation_of_checkSide wanted
      · cases ended

end Comparison

namespace Engine

open EngineM Program

variable {engine : Engine} {zone desired : Zone} {adapter : Adapter} {error : Error}

/-- Why the desired side of a zone is refused: nobody has the name of its provider, the provider
cannot adapt the zone, its records have no canonical form, or zone or provider do not accept
them. -/
inductive Refuses (engine : Engine) (zone : Zone) (error : Error) : Prop where
  | unknown (absent : engine.adapter zone.provider = .error error)
  | unadapted {adapter : Adapter} (known : engine.adapter zone.provider = .ok adapter)
      (refused : (adapter.preprocess zone).2 = .error error)
  | unformed {adapter : Adapter} {adapted : Zone}
      (known : engine.adapter zone.provider = .ok adapter)
      (changed : (adapter.preprocess zone).2 = .ok adapted)
      (refused : RecordSet.normalize (Origin.ofZone adapted) adapted.records = .error error)
  | invalid {adapter : Adapter} {adapted : Zone} {wanted : List Record}
      (known : engine.adapter zone.provider = .ok adapter)
      (changed : (adapter.preprocess zone).2 = .ok adapted)
      (forms : RecordSet.normalize (Origin.ofZone adapted) adapted.records = .ok wanted)
      (refused : Zone.validate { adapted with records := wanted } engine.matcher = .error error)
  | unaudited {adapter : Adapter} {adapted : Zone} {wanted : List Record}
      (known : engine.adapter zone.provider = .ok adapter)
      (changed : (adapter.preprocess zone).2 = .ok adapted)
      (forms : RecordSet.normalize (Origin.ofZone adapted) adapted.records = .ok wanted)
      (valid : Zone.validate { adapted with records := wanted } engine.matcher = .ok ())
      (refused : adapter.audit wanted = .error error)

/-- The desired side of a zone is missing for one of these reasons. -/
theorem desiredSide_eq_error_iff :
    engine.desiredSide zone = .error error ↔ engine.Refuses zone error := by
  apply Iff.intro
  · intro missing
    cases known : engine.adapter zone.provider with
    | error unknown =>
        rw [desiredSide, known] at missing
        obtain rfl := Except.error.inj missing
        exact .unknown known
    | ok adapter =>
        rw [desiredSide_of_known known, Adapter.prepare_snd, bind_eq_error_iff, bind_eq_error_iff]
          at missing
        rcases missing with (refused | ⟨adapted, changed, refused⟩) | ⟨desired, -, ended⟩
        · exact .unadapted known refused
        · rcases Adapter.check_eq_error_iff.1 refused with
            refused | ⟨wanted, forms, refused | ⟨valid, refused⟩⟩
          · exact .unformed known changed refused
          · exact .invalid known changed forms refused
          · exact .unaudited known changed forms valid refused
        · cases ended
  · intro refuses
    cases refuses with
    | unknown absent =>
        rw [desiredSide, absent]
        rfl
    | unadapted known refused =>
        rw [desiredSide_of_known known, Adapter.prepare_snd, refused]
        rfl
    | unformed known changed refused =>
        rw [desiredSide_of_known known, Adapter.prepare_snd, changed]
        exact bind_eq_error_iff.2 (.inl (Adapter.check_eq_error_iff.2 (.inl refused)))
    | invalid known changed forms refused =>
        rw [desiredSide_of_known known, Adapter.prepare_snd, changed]
        exact bind_eq_error_iff.2
          (.inl (Adapter.check_eq_error_iff.2 (.inr ⟨_, forms, .inl refused⟩)))
    | unaudited known changed forms valid refused =>
        rw [desiredSide_of_known known, Adapter.prepare_snd, changed]
        exact bind_eq_error_iff.2
          (.inl (Adapter.check_eq_error_iff.2 (.inr ⟨_, forms, .inr ⟨valid, refused⟩⟩)))

/-- The desired side of a zone has been checked for records that belong to somebody else. -/
theorem permitted_of_desiredSide (prepared : engine.desiredSide zone = .ok (adapter, desired)) :
    desired.checkIgnored engine.matcher desired.records = .ok () := by
  obtain ⟨-, prepared⟩ := desiredSide_eq_ok_iff.1 prepared
  rw [Adapter.prepare_snd, bind_eq_ok_iff] at prepared
  obtain ⟨adapted, -, checked⟩ := prepared
  obtain ⟨wanted, -, valid, -, rfl⟩ := Adapter.check_eq_ok_iff.1 checked
  simp only [Zone.validate] at valid
  split at valid
  · cases valid
  · split at valid
    · cases valid
    · exact (check_bind_eq_ok_iff.1 valid).2

/-! ## Faulty listings -/

/-- What is listed for a zone cannot be read as its records, by the rules for settings: the
provider refuses to list it as it would refuse settings, or the records have no canonical form. -/
def FaultyListing (desired : Zone) : Except Error (List Record) → Prop
  | .error error => error.isValidation = true
  | .ok observed =>
      ∀ existing, RecordSet.normalize (Origin.ofZone desired) observed ≠ .ok existing

theorem not_faultyListing_of_compared {observed : List Record} {changes : Changeset}
    (compared : adapter.compare engine.matcher desired observed = .ok changes) :
    ¬ FaultyListing desired (.ok observed) := by
  obtain ⟨existing, forms, -⟩ := bind_eq_ok_iff.1 compared
  exact fun faulty => faulty existing forms

/-- Records that cannot be compared with the desired ones are refused as settings are exactly if
they have no canonical form. -/
theorem isValidation_iff_faultyListing {observed : List Record}
    (prepared : engine.desiredSide zone = .ok (adapter, desired))
    (refused : adapter.compare engine.matcher desired observed = .error error) :
    error.isValidation = true ↔ FaultyListing desired (.ok observed) := by
  rcases bind_eq_error_iff.1 refused with unformed | ⟨existing, forms, refused⟩
  · refine iff_of_true (RecordSet.isValidation_of_normalize unformed) fun existing forms => ?_
    rw [unformed] at forms
    cases forms
  · have own := Comparison.not_isValidation_of_changes (permitted_of_desiredSide prepared) refused
    exact iff_of_false (by rw [own]; exact Bool.false_ne_true) fun faulty => faulty existing forms

/-! ## Calls -/

/-- The calls in a transcript, with their answers. -/
def calls (asked : List Exchange) : List Exchange :=
  asked.filter fun exchange => exchange.1.isCall

theorem calls_append (first second : List Exchange) :
    calls (first ++ second) = calls first ++ calls second :=
  List.filter_append ..

theorem calls_of_quiet {asked : List Exchange} (quiet : Quiet asked) : calls asked = [] :=
  List.filter_eq_nil_iff.2 fun exchange member => by
    rw [quiet exchange member]
    exact Bool.false_ne_true

/-- What the calls for a zone tell of its outcome. -/
structure Tells (engine : Engine) (zone : Zone) (called : List Exchange) (outcome : ZoneOutcome) :
    Prop where
  /-- A zone whose desired side is refused is given up for that reason and without a call. -/
  refused {error : Error} (refuses : engine.Refuses zone error) :
    called = [] ∧ outcome = .failed zone.name error
  /-- Otherwise the records are listed first, and the zone is given up as settings are exactly if
  the listing is at fault. That call is the only one then. -/
  listed {adapter : Adapter} {desired : Zone}
    (prepared : engine.desiredSide zone = .ok (adapter, desired)) :
    ∃ listing later,
      called = ⟨.call zone.provider (.fetch zone.name), listing⟩ :: later ∧
        (outcome.isValidationFailure = true ↔ FaultyListing desired listing) ∧
        (FaultyListing desired listing → later = [])

variable {asked : List Exchange} {outcome : ZoneOutcome}

theorem tells_of_failed (run : PlanRun engine zone asked (.error error)) :
    Tells engine zone (calls asked) (.failed zone.name error) := by
  cases run with
  | refused refused quiet =>
      refine ⟨fun refuses => ⟨calls_of_quiet quiet, ?_⟩, fun prepared => ?_⟩
      · rw [desiredSide_eq_error_iff.2 refuses] at refused
        rw [Except.error.inj refused]
      · rw [prepared] at refused
        cases refused
  | unlisted prepared quiet =>
      refine ⟨fun refuses => ?_, fun prepared' => ⟨.error error, [], ?_, Iff.rfl, fun _ => rfl⟩⟩
      · rw [desiredSide_eq_error_iff.2 refuses] at prepared
        cases prepared
      · rw [calls_append, calls_of_quiet quiet]
        rfl
  | @incomparable adapter desired observed _ _ prepared quiet refused =>
      refine ⟨fun refuses => ?_, fun prepared' => ⟨.ok observed, [], ?_, ?_, fun _ => rfl⟩⟩
      · rw [desiredSide_eq_error_iff.2 refuses] at prepared
        cases prepared
      · rw [calls_append, calls_of_quiet quiet]
        rfl
      · obtain ⟨rfl, rfl⟩ := Prod.mk.inj (Except.ok.inj (prepared.symm.trans prepared'))
        exact isValidation_iff_faultyListing prepared refused

theorem tells_of_planned {plan : ZonePlan} {later : List Exchange}
    (run : PlanRun engine zone asked (.ok plan)) (unfailed : outcome.isValidationFailure = false) :
    Tells engine zone (calls asked ++ later) outcome := by
  cases run with
  | @planned adapter desired observed changes toggles warnings others prepared quiet compared =>
      have fault := not_faultyListing_of_compared compared
      refine ⟨fun refuses => ?_, fun prepared' => ⟨.ok observed, calls others ++ later, ?_, ?_, ?_⟩⟩
      · rw [desiredSide_eq_error_iff.2 refuses] at prepared
        cases prepared
      · rw [calls_append, calls_of_quiet quiet]
        rfl
      all_goals obtain ⟨rfl, rfl⟩ := Prod.mk.inj (Except.ok.inj (prepared.symm.trans prepared'))
      · exact iff_of_false (by rw [unfailed]; exact Bool.false_ne_true) fault
      · exact fun faulty => absurd faulty fault

theorem ZoneRun.tells {mode : Mode} (run : ZoneRun engine zone mode asked outcome) :
    Tells engine zone (calls asked) outcome := by
  cases run with
  | failed quiet run quiet' =>
      rw [calls_append, calls_append, calls_of_quiet quiet, calls_of_quiet quiet', List.nil_append,
        List.append_nil]
      exact tells_of_failed run
  | planned quiet run =>
      rw [calls_append, calls_of_quiet quiet, List.nil_append, ← List.append_nil (calls _)]
      exact tells_of_planned run rfl
  | applied quiet run =>
      rw [calls_append, calls_append, calls_of_quiet quiet, List.nil_append]
      exact tells_of_planned run rfl

/-- Reconciling a zone always comes to an outcome, and its calls tell on which side a failure of
validation lies. If the desired side is refused, nobody has been called. If it is not, the records
have been listed, and it is the listing that is at fault. In neither case has anything been
written. -/
theorem validation_failures_by_side (engine : Engine) (mode : Mode) (zone : Zone)
    (respond : List Exchange → (effect : Effect) → effect.Answer) (past : List Exchange) :
    ∃ outcome asked, (engine.reconcileZone mode zone).record respond past =
        (outcome, past ++ asked) ∧
      (outcome.isValidationFailure = true → writes asked = []) ∧
      Tells engine zone (calls asked) outcome := by
  obtain ⟨outcome, asked, ran, transcript⟩ :=
    exists_transcript_record respond (engine.reconcileZone mode zone) past
  have run := zoneRun_of_transcript transcript
  refine ⟨outcome, asked, ran, fun failed => ?_, run.tells⟩
  have explains := run.explains
  cases outcome with
  | failed name error => exact explains
  | planned plan => cases failed
  | applied plan report => cases failed

/-- A provider that lists the same records for every zone and accepts whatever it is asked. -/
def listingAlways (listing : List Record) (_ : List Exchange) : (effect : Effect) → effect.Answer
  | .call _ (.fetch _) => .ok listing
  | .call _ (.fetchFeatures _) => .ok Dict.empty
  | .call _ (.write _ _) => .ok ()
  | .emit _ => ()
  | .warn _ => ()

/-- Settings with a CNAME beside a mail server are refused without a call. -/
theorem validation_failures_by_side_of_shared_label :
    let engine : Engine := { adapters := .ofList [("memory", Store.adapter)] }
    let zone : Zone :=
      { name := "example.com", provider := "memory"
        records := [.ofPayload "@" (.cname "host.example.net."),
          .ofPayload "@" (.mx 10 "mail.example.net.")] }
    let error := Error.validation "@" .cname "a CNAME cannot share its label with other records"
    engine.Refuses zone error ∧
      ∃ asked, (engine.reconcileZone .push zone).record (listingAlways []) [] =
          (.failed "example.com" error, asked) ∧ calls asked = [] ∧ writes asked = [] := by
  intro engine zone error
  have refuses : engine.Refuses zone error := .unformed rfl rfl rfl
  obtain ⟨outcome, asked, ran, unwritten, tells⟩ :=
    validation_failures_by_side engine .push zone (listingAlways []) []
  obtain ⟨called, rfl⟩ := tells.refused refuses
  exact ⟨refuses, asked, ran, called, unwritten rfl⟩

/-- A provider may hold two PTR records for one address, as settings may not. A zone that asks for
nothing then has its records listed and is given up as if its own settings had been refused. -/
theorem validation_failure_after_listing :
    let engine : Engine := { adapters := .ofList [("memory", Store.adapter)] }
    let zone : Zone := { name := "2.0.192.in-addr.arpa", provider := "memory" }
    let listing := [Record.ofPayload "7" (.ptr "a.example.net."),
      Record.ofPayload "7" (.ptr "b.example.net.")]
    ∃ outcome asked, (engine.reconcileZone .preview zone).record (listingAlways listing) [] =
        (outcome, asked) ∧ outcome.isValidationFailure = true ∧
      ∃ answer, calls asked = [⟨.call "memory" (.fetch "2.0.192.in-addr.arpa"), answer⟩] := by
  intro engine zone listing
  obtain ⟨outcome, asked, ran, transcript⟩ :=
    exists_transcript_record (listingAlways listing) (engine.reconcileZone .preview zone) []
  have failed : outcome.isValidationFailure = true := by
    have computed : ((engine.reconcileZone .preview zone).record
        (listingAlways listing) []).1.isValidationFailure = true := by
      decide +kernel
    rw [ran] at computed
    exact computed
  obtain ⟨⟨adapter, desired⟩, prepared, -⟩ := exists_eq_ok_of_map
    (show (engine.desiredSide zone).toOption.map (fun side => side.2.records.length) = some 0 by
      decide +kernel)
  obtain ⟨answer, later, called, fault, single⟩ :=
    (zoneRun_of_transcript transcript).tells.listed prepared
  obtain rfl := single (fault.1 failed)
  exact ⟨outcome, asked, ran, failed, answer, called⟩

end Engine

end DnsReconcile
