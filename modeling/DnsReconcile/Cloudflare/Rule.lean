/-
# Page rules and worker routes

Two kinds of settings that are treated as records of the zone itself. A forwarding
is a page rule that sends visitors to another address; its payload is the text
`source,target,priority,status`. A worker route names the script that answers for
addresses of a pattern; its payload is the text `pattern,script`. Page rules that
do anything else are not records.
-/

import DnsReconcile.Cloudflare.Entry

namespace DnsReconcile.Cloudflare

open Json

/-- The parts of a text between commas, without the blanks around them. -/
def parts (text : String) : List (List Char) :=
  (text.toList.splitOn ',').map Text.trim

/-- Which addresses a page rule is about. -/
structure Condition where
  target : String := ""
  operator : String := ""
  value : String := ""
deriving Repr, DecidableEq

namespace Condition

/-- The form of the comparison in a condition. -/
def comparisonShape : Shape (String × String) where
  initial := ("", "")
  fields := [
    .required "operator" Reader.text fun draft value => (value, draft.2),
    .required "value" Reader.text fun draft value => (draft.1, value)]

/-- The form of a condition in JSON. -/
def shape : Shape Condition where
  initial := {}
  fields := [
    .required "target" Reader.text fun draft value => { draft with target := value },
    .required "constraint" comparisonShape.read fun draft value =>
      { draft with operator := value.1, value := value.2 }]

/-- A condition as JSON. -/
def toJson (condition : Condition) : Json :=
  .ofMembers [("target", .string condition.target),
    ("constraint", .ofMembers [("operator", .string condition.operator),
      ("value", .string condition.value)])]

end Condition

/-- What a page rule does. -/
structure RuleAction where
  id : String := ""
  value : Json := .null
deriving Repr, BEq

namespace RuleAction

/-- The form of an action in JSON. -/
def shape : Shape RuleAction where
  initial := {}
  fields := [
    .required "id" Reader.text fun draft value => { draft with id := value },
    .defaulted "value" Reader.value fun draft value => { draft with value := value }]

/-- An action as JSON. -/
def toJson (action : RuleAction) : Json :=
  .ofMembers [("id", .string action.id), ("value", action.value)]

end RuleAction

/-- A page rule as Cloudflare has it. -/
structure PageRule where
  /-- Empty until Cloudflare has given one. -/
  id : String := ""
  conditions : List Condition := []
  actions : List RuleAction := []
  priority : UInt32 := 0
  status : String := ""
deriving Repr, BEq

namespace PageRule

/-- The form of a page rule in JSON. -/
def shape : Shape PageRule where
  initial := {}
  fields := [
    .defaulted "id" Reader.text fun draft value => { draft with id := value },
    .required "targets" (Reader.list Condition.shape.read) fun draft value =>
      { draft with conditions := value },
    .required "actions" (Reader.list RuleAction.shape.read) fun draft value =>
      { draft with actions := value },
    .defaulted "priority" Reader.uint32 fun draft value => { draft with priority := value },
    .defaulted "status" Reader.text fun draft value => { draft with status := value }]

/-- A page rule as JSON. -/
def toJson (rule : PageRule) : Json :=
  .ofMembers (Entry.textMember "id" rule.id ++ [
    ("targets", .array (rule.conditions.map (·.toJson))),
    ("actions", .array (rule.actions.map (·.toJson))),
    ("priority", .nat rule.priority.toNat),
    ("status", .string rule.status)])

end PageRule

/-- The action that makes a page rule a forwarding. -/
def forwardingAction : String := "forwarding_url"

/-- A page rule that sends visitors of matching addresses elsewhere. -/
structure Forwarding where
  source : String
  target : String
  priority : UInt32
  /-- The status code of the replies that send visitors on. -/
  status : UInt16
deriving Repr, DecidableEq

namespace Forwarding

/-- The forwarding that a payload describes. -/
def read? (payload : String) : Option Forwarding :=
  match parts payload with
  | [source, target, priority, status] => do
      let priority ← Text.readUInt32? priority
      let status ← Text.readUInt16? status
      return ⟨String.ofList source, String.ofList target, priority, status⟩
  | _ => none

/-- The forwarding that a payload describes, or a refusal. -/
def read (payload : String) : Except Error Forwarding :=
  match read? payload with
  | some forwarding => .ok forwarding
  | none => Record.refuse apexLabel .pageRule ("bad page rule '" ++ payload ++ "'")

/-- The page rule that Cloudflare is sent for a forwarding. -/
def rule (forwarding : Forwarding) : PageRule where
  conditions := [{ target := "url", operator := "matches", value := forwarding.source }]
  actions := [{
    id := forwardingAction
    value := .ofMembers [("url", .string forwarding.target),
      ("status_code", .nat forwarding.status.toNat)] }]
  priority := forwarding.priority
  status := "active"

end Forwarding

/-- The payload of a forwarding whose parts are given as texts. -/
def forwardingPayload (source target priority status : String) : String :=
  source ++ "," ++ target ++ "," ++ priority ++ "," ++ status

/-- The record that a page rule stands for, if it is a forwarding. -/
def PageRule.toRecord? (rule : PageRule) : Option Record := do
  let condition ← rule.conditions.head?
  let action ← rule.actions.find? (·.id == forwardingAction)
  let target ← (← action.value.member? "url").text?
  let status ← (← action.value.member? "status_code").nat?
  let payload :=
    forwardingPayload condition.value target (toString rule.priority) (toString status)
  return { Record.pseudo apexLabel .pageRule payload with
    ttl := autoTtl
    ref := some ⟨rule.id, .ofMembers [("kind", .string "page_rule")]⟩ }

/-- A worker route as Cloudflare has it. -/
structure WorkerRoute where
  /-- Empty until Cloudflare has given one. -/
  id : String := ""
  pattern : String := ""
  script : String := ""
deriving Repr, DecidableEq

namespace WorkerRoute

/-- The form of a worker route in JSON. -/
def shape : Shape WorkerRoute where
  initial := {}
  fields := [
    .defaulted "id" Reader.text fun draft value => { draft with id := value },
    .required "pattern" Reader.text fun draft value => { draft with pattern := value },
    .defaulted "script" Reader.text fun draft value => { draft with script := value }]

/-- The pattern and the script that a payload names, or a refusal. -/
def read (payload : String) : Except Error WorkerRoute :=
  match parts payload with
  | [c :: pattern, script] =>
      .ok { pattern := String.ofList (c :: pattern), script := String.ofList script }
  | _ =>
      Record.refuse apexLabel .workerRoute
        ("bad worker route '" ++ payload ++ "', expected 'pattern,script'")

/-- What Cloudflare is sent for a worker route. -/
def toJson (route : WorkerRoute) : Json :=
  .ofMembers [("pattern", .string route.pattern), ("script", .string route.script)]

/-- The record that a worker route stands for. -/
def toRecord (route : WorkerRoute) : Record :=
  { Record.pseudo apexLabel .workerRoute (route.pattern ++ "," ++ route.script) with
    ttl := autoTtl
    ref := some ⟨route.id, .ofMembers [("kind", .string "worker_route")]⟩ }

end WorkerRoute

end DnsReconcile.Cloudflare
