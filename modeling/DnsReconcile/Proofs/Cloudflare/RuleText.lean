/-
# Rules and routes as they are sent

A page rule or a worker route that is written as JSON and read again is what it was. What an
action of a page rule does is kept as a value of JSON, so that comes back only with its members
in key order, as the one of a forwarding has them. A rule or a route that is served just as it was
sent is observed as a record of the zone itself whose payload spells its parts out.
-/

import DnsReconcile.Cloudflare.Client
import DnsReconcile.Proofs.Cloudflare.EntryText
import DnsReconcile.Proofs.Cloudflare.Forwardings
import DnsReconcile.Proofs.Zone.CanonicalForms

namespace DnsReconcile.Cloudflare

open Json

/-! ## Conditions -/

namespace Condition

variable (condition : Condition)

/-- The members of the comparison in a condition. -/
def comparison : List (String × Json) :=
  [("operator", .string condition.operator), ("value", .string condition.value)]

/-- The members of a condition in key order. -/
def members : List (String × Json) :=
  [("constraint", .object condition.comparison), ("target", .string condition.target)]

theorem toJson_eq : condition.toJson = .object condition.members := by
  have inner : Json.ofMembers condition.comparison = .object condition.comparison :=
    ofMembers_eq ["operator", "value"] (.refl _) (.refl _) (by decide)
  have outer : Json.ofMembers [("target", .string condition.target),
      ("constraint", .object condition.comparison)] = .object condition.members :=
    ofMembers_eq ["constraint", "target"] (.swap _ _ _) (.refl _) (by decide)
  rw [← outer, ← inner]
  rfl

theorem read_ofValue : shape.read (Source.ofValue condition.toJson) = .ok condition := by
  have inner : comparisonShape.read (Source.ofValue (.object condition.comparison)) =
      .ok (condition.operator, condition.value) :=
    Shape.read_of_stores ["operator", "value"] ["operator", "value"]
      (.required (Reader.text_ofValue _) (.required (Reader.text_ofValue _) (.nil _) rfl) rfl)
      (.refl _) (by decide) rfl (List.Subset.refl _)
  rw [toJson_eq]
  exact Shape.read_of_stores ["constraint", "target"] ["constraint", "target"]
    (.required inner (.required (Reader.text_ofValue _) (.nil _) rfl) rfl)
    (.refl _) (by decide) rfl (List.Subset.refl _)

theorem readable_toJson : Readable 3 condition.toJson := by
  rw [toJson_eq]
  exact ⟨by decide, ⟨by decide, trivial, trivial, trivial⟩, trivial, trivial⟩

end Condition

/-! ## Actions -/

namespace RuleAction

variable (action : RuleAction)

/-- The members of an action in key order. -/
def members : List (String × Json) :=
  [("id", .string action.id), ("value", action.value)]

theorem toJson_eq : action.toJson = .object action.members :=
  ofMembers_eq ["id", "value"] (.refl _) (.refl _) (by decide)

/-- What an action does comes back as it was, if the text of it stands for the same value. -/
def Kept : Prop :=
  (Source.ofValue action.value).value? = some action.value

variable {action}

theorem read_ofValue (kept : action.Kept) :
    shape.read (Source.ofValue action.toJson) = .ok action := by
  have value : Reader.value (Source.ofValue action.value) = .ok action.value := by
    rw [Kept] at kept
    rw [Reader.value, kept]
  rw [toJson_eq]
  exact Shape.read_of_stores ["id", "value"] ["id"]
    (.required (Reader.text_ofValue _) (.defaulted value (.nil _) rfl) rfl)
    (.refl _) (by decide) rfl (List.cons_subset_cons _ (List.nil_subset _))

theorem readable_toJson (readable : Readable 4 action.value) : Readable 3 action.toJson := by
  rw [toJson_eq]
  exact ⟨by decide, trivial, readable, trivial⟩

end RuleAction

/-! ## Page rules -/

namespace PageRule

/-- The members of a page rule in key order. -/
def members (rule : PageRule) : List (String × Json) :=
  [("actions", .array (rule.actions.map (·.toJson)))] ++ Entry.textMember "id" rule.id ++
    [("priority", .nat rule.priority.toNat), ("status", .string rule.status),
      ("targets", .array (rule.conditions.map (·.toJson)))]

/-- The keys that the members of a page rule can have. -/
def keys : List String :=
  ["actions", "id", "priority", "status", "targets"]

theorem keys_members_sublist (rule : PageRule) : (rule.members.map Prod.fst).Sublist keys := by
  have id : ((Entry.textMember "id" rule.id).map Prod.fst).Sublist ["id"] :=
    Entry.keys_textMember_sublist _ _
  simp only [members, List.map_append]
  exact ((List.Sublist.refl ["actions"]).append id).append (.refl _)

theorem members_perm (rule : PageRule) : rule.members.Perm (Entry.textMember "id" rule.id ++ [
    ("targets", .array (rule.conditions.map (·.toJson))),
    ("actions", .array (rule.actions.map (·.toJson))),
    ("priority", .nat rule.priority.toNat),
    ("status", .string rule.status)]) := by
  have split (first second third : String × Json) (rest : List (String × Json)) :
      first :: second :: third :: rest = [first] ++ [second] ++ [third] ++ rest := rfl
  rw [← Multiset.coe_eq_coe, members, split, split]
  simp only [← Multiset.coe_add, Multiset.coe_nil]
  abel

theorem toJson_eq (rule : PageRule) : rule.toJson = .object rule.members :=
  ofMembers_eq keys (members_perm rule) (keys_members_sublist rule) (by decide)

variable {rule : PageRule}

/-- A page rule is read from its own JSON. -/
theorem read_ofValue (kept : ∀ action ∈ rule.actions, action.Kept) :
    shape.read (Source.ofValue rule.toJson) = .ok rule := by
  have conditions : Reader.list Condition.shape.read
      (Source.ofValue (.array (rule.conditions.map (·.toJson)))) = .ok rule.conditions :=
    Reader.list_ofValue fun condition _ => condition.read_ofValue
  have actions : Reader.list RuleAction.shape.read
      (Source.ofValue (.array (rule.actions.map (·.toJson)))) = .ok rule.actions :=
    Reader.list_ofValue fun action member => RuleAction.read_ofValue (kept action member)
  have front : Stores shape.fields [("actions", .array (rule.actions.map (·.toJson)))] {}
      { actions := rule.actions } := .required actions (.nil _) rfl
  have back {draft : PageRule} : Stores shape.fields [("priority", .nat rule.priority.toNat),
      ("status", .string rule.status), ("targets", .array (rule.conditions.map (·.toJson)))]
      draft { draft with
        priority := rule.priority, status := rule.status, conditions := rule.conditions } :=
    .defaulted (Reader.uint32_ofValue rule.priority)
      (.defaulted (Reader.text_ofValue rule.status) (.required conditions (.nil _) rfl) rfl) rfl
  rw [toJson_eq]
  exact Shape.read_of_stores keys ["actions", "targets"]
    ((front.append (Entry.stores_textMember rule.id rfl rfl)).append back)
    (keys_members_sublist rule) (by decide) rfl (by simp [members])

theorem readable_toJson (readable : ∀ action ∈ rule.actions, Readable 4 action.value) :
    Readable 1 rule.toJson := by
  rw [toJson_eq]
  refine ⟨by decide, membersReadable_iff.2 fun member known => ?_⟩
  simp only [members, List.mem_append, List.mem_cons, List.not_mem_nil, or_false] at known
  rcases known with (rfl | id) | rfl | rfl | rfl
  · refine ⟨by decide, allReadable_iff.2 (List.forall_mem_map.2 fun action member => ?_)⟩
    exact RuleAction.readable_toJson (readable action member)
  · exact Entry.readable_textMember id
  · exact fitsWord_nat (Nat.lt_trans rule.priority.toNat_lt_size (by decide))
  · exact trivial
  · refine ⟨by decide, allReadable_iff.2 (List.forall_mem_map.2 fun condition _ => ?_)⟩
    exact condition.readable_toJson

/-- Read a page rule from a text. -/
def ofText (text : String) : Except Fault PageRule :=
  (scan text).read shape.read

end PageRule

/-! ## Forwardings -/

namespace Forwarding

variable (forwarding : Forwarding)

/-- The members of what a forwarding does in key order. -/
def destination : List (String × Json) :=
  [("status_code", .nat forwarding.status.toNat), ("url", .string forwarding.target)]

theorem destination_eq : Json.ofMembers [("url", .string forwarding.target),
    ("status_code", .nat forwarding.status.toNat)] = .object forwarding.destination :=
  ofMembers_eq ["status_code", "url"] (.swap _ _ _) (.refl _) (by decide)

theorem kept_of_mem_actions : ∀ action ∈ forwarding.rule.actions, action.Kept := by
  have sorted : Json.ofMembers forwarding.destination = .object forwarding.destination :=
    ofMembers_eq ["status_code", "url"] (.refl _) (.refl _) (by decide)
  intro action member
  rw [List.mem_singleton.1 member, RuleAction.Kept, destination_eq]
  exact congrArg some sorted

theorem ofText_print :
    PageRule.ofText forwarding.rule.toJson.print = .ok forwarding.rule := by
  have readable : Readable 1 forwarding.rule.toJson := by
    refine PageRule.readable_toJson fun action member => ?_
    rw [List.mem_singleton.1 member, destination_eq]
    exact ⟨by decide, readable_uint16 _, trivial, trivial⟩
  rw [PageRule.ofText, scan_print readable, Document.read,
    PageRule.read_ofValue forwarding.kept_of_mem_actions]

/-- The record that a forwarding is observed as. It has no identifier yet. -/
def observed : Record :=
  { Record.pseudo apexLabel .pageRule forwarding.payload with
    ttl := autoTtl
    ref := some ⟨"", .ofMembers [("kind", .string "page_rule")]⟩ }

theorem toRecord?_rule : forwarding.rule.toRecord? = some forwarding.observed := by
  let action : RuleAction := ⟨forwardingAction, .object forwarding.destination⟩
  have found : forwarding.rule.actions.find? (·.id == forwardingAction) = some action := by
    rw [rule, destination_eq]
    exact List.find?_cons_of_pos (beq_self_eq_true forwardingAction)
  have url : action.value.member? "url" = some (.string forwarding.target) := rfl
  have status : action.value.member? "status_code" = some (.nat forwarding.status.toNat) := rfl
  simp only [PageRule.toRecord?, found, Option.bind_eq_bind, Option.bind_some, url, status]
  rfl

end Forwarding

/-! ## Worker routes -/

namespace WorkerRoute

/-- Read a worker route from a text. -/
def ofText (text : String) : Except Fault WorkerRoute :=
  (scan text).read shape.read

theorem toJson_eq (route : WorkerRoute) : route.toJson =
    .object [("pattern", .string route.pattern), ("script", .string route.script)] :=
  ofMembers_eq ["pattern", "script"] (.refl _) (.refl _) (by decide)

/-- A worker route that is sent and read is the same route, but for its identifier, which is
Cloudflare's. -/
theorem ofText_print (route : WorkerRoute) :
    ofText route.toJson.print = .ok { route with id := "" } := by
  have read : shape.read (Source.ofValue (.object [("pattern", .string route.pattern),
      ("script", .string route.script)])) = .ok { route with id := "" } :=
    Shape.read_of_stores ["pattern", "script"] ["pattern"]
      (.required (Reader.text_ofValue _) (.defaulted (Reader.text_ofValue _) (.nil _) rfl) rfl)
      (.refl _) (by decide) rfl (List.cons_subset_cons _ (List.nil_subset _))
  have readable : Readable 1 (.object [("pattern", .string route.pattern),
      ("script", .string route.script)]) := ⟨by decide, trivial, trivial, trivial⟩
  rw [ofText, toJson_eq, scan_print readable, Document.read, read]

end WorkerRoute

/-! ## What is served -/

/-- What a record is observed as when Cloudflare serves it just as it was sent. -/
def served? (zone : String) (record : Record) : Option Record := do
  let body ← (recordBody zone record (wantsProxy record)).toOption
  match record.type with
  | .pageRule => (← (PageRule.ofText body.print).toOption).toRecord?
  | .workerRoute => return (← (WorkerRoute.ofText body.print).toOption).toRecord
  | _ => ((← (Entry.ofText body.print).toOption).toRecord zone).toOption

variable {zone : String} {record : Record}

theorem served?_of_pageRule (type : record.type = .pageRule) {forwarding : Forwarding}
    (read : Forwarding.read record.payload.print = .ok forwarding) :
    served? zone record = some forwarding.observed := by
  have body : recordBody zone record (wantsProxy record) = .ok forwarding.rule.toJson := by
    rw [recordBody, type, read]
    rfl
  simp only [served?, body, type, Except.toOption, forwarding.ofText_print, Option.bind_eq_bind,
    Option.bind_some]
  exact forwarding.toRecord?_rule

theorem served?_of_workerRoute (type : record.type = .workerRoute) {route : WorkerRoute}
    (read : WorkerRoute.read record.payload.print = .ok route) :
    served? zone record = some { route with id := "" }.toRecord := by
  have body : recordBody zone record (wantsProxy record) = .ok route.toJson := by
    rw [recordBody, type, read]
    rfl
  simp only [served?, body, type, Except.toOption, route.ofText_print, Option.bind_eq_bind,
    Option.bind_some]
  rfl

/-- What is observed of a rule or a route is in canonical form. -/
theorem record_observed (origin : Origin) (type : RecordType) (pseudo : type.isPseudo = true)
    {text : String} (several : ',' ∈ text.toList) (ref : Option ProviderRef) :
    origin.record { Record.pseudo apexLabel type text with ttl := autoTtl, ref } =
      .ok { Record.pseudo apexLabel type text with ttl := autoTtl, ref } := by
  have visible : Text.trim text.toList ≠ [] := Text.trim_ne_nil several (by decide)
  refine Origin.record_eq_ok_iff.2 ⟨pseudo, _, _, Origin.label_apexLabel origin,
    Origin.payload_encoded_eq_ok_iff.2 ⟨visible, rfl⟩, ?_⟩
  rw [String.ofList_toList]
  rfl

end DnsReconcile.Cloudflare
