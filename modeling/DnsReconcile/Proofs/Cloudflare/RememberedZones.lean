/-
# Zones that are remembered

A client remembers the identifiers of zones, so that each zone is looked up once. Somebody who
forgets them all looks a zone up before every call. If the service says the same whenever it is
asked the same, nobody can tell the two apart by their answers; and what the client asks for is what
the other one does without the lookups of zones that had been found before. A lookup that failed is
not remembered, so it is made again.
-/

import DnsReconcile.Proofs.Cloudflare.DryRuns
import DnsReconcile.Proofs.Cloudflare.ListedPages

namespace DnsReconcile.Cloudflare

open Json

variable {ω : Type} {network : Http.Message → ω → Http.Reply × ω}
variable {service : Http.Request → Http.Reply}

/-! ## Lookups -/

/-- The path of the collection of all zones. -/
def zonesPath : String := "/zones"

/-- The identifier of a zone in the reply to the request that looks it up. -/
def foundZone (zone : String) (reply : Http.Reply) : Except Error String := do
  let envelope ← Envelope.ofReply (Reader.list ZoneEntry.shape.read) zonesPath reply
  match (envelope.result.getD []).find? fun entry =>
      Text.equalIgnoringAsciiCase entry.name.toList zone.toList with
  | some entry => return entry.id
  | none => throw (.notFound ("Zone not found: " ++ zone))

namespace Asked

variable (exchange : Asked)

/-- The zone that is looked up, if the request is for one. -/
def lookup? : Option String :=
  if exchange.1.path = zonesPath then exchange.1.query.lookup "name" else none

/-- The zone that is looked up and its identifier, if it is found. -/
def found? : Option (String × String) :=
  exchange.lookup?.bind fun zone => ((foundZone zone exchange.2).toOption).map fun id => (zone, id)

/-- Whether a zone is looked up that was found before. -/
def isRepeated (past : List Asked) : Bool :=
  exchange.lookup?.any fun zone => past.any fun earlier => earlier.found?.any (·.1 == zone)

end Asked

/-- What is asked without the lookups of zones that were found before. -/
def withoutRepeats (past : List Asked) : List Asked → List Asked
  | [] => []
  | exchange :: rest =>
      let others := withoutRepeats (past ++ [exchange]) rest
      if exchange.isRepeated past then others else exchange :: others

theorem withoutRepeats_append (past first second : List Asked) :
    withoutRepeats past (first ++ second) =
      withoutRepeats past first ++ withoutRepeats (past ++ first) second := by
  induction first generalizing past with
  | nil => rw [List.append_nil]; rfl
  | cons exchange first ih =>
      have rest := ih (past ++ [exchange])
      rw [List.append_assoc, List.singleton_append] at rest
      simp only [List.cons_append, withoutRepeats, rest]
      split <;> rfl

/-- Nothing is left out of what looks up no zone. -/
theorem withoutRepeats_of_lookup? {past asked : List Asked}
    (elsewhere : ∀ exchange ∈ asked, exchange.lookup? = none) :
    withoutRepeats past asked = asked := by
  induction asked generalizing past with
  | nil => rfl
  | cons exchange asked ih =>
      obtain ⟨own, others⟩ := List.forall_mem_cons.1 elsewhere
      have kept : exchange.isRepeated past = false := by simp [Asked.isRepeated, own]
      simp [withoutRepeats, kept, ih others]

/-- One lookup in front of what looks up no zone. -/
theorem withoutRepeats_cons {past asked : List Asked} {exchange : Asked}
    (elsewhere : ∀ exchange ∈ asked, exchange.lookup? = none) :
    withoutRepeats past (exchange :: asked) =
      if exchange.isRepeated past then asked else exchange :: asked := by
  rw [withoutRepeats, withoutRepeats_of_lookup? elsewhere]

/-- A request for a zone, with the reply of the service. -/
def Client.lookup (client : Client) (service : Http.Request → Http.Reply) (zone : String) : Asked :=
  ⟨client.lookupRequest zone, service (client.lookupRequest zone)⟩

theorem lookup?_lookup (client : Client) (zone : String) :
    (client.lookup service zone).lookup? = some zone := by
  simp [Asked.lookup?, Client.lookup, Client.lookupRequest, zonesPath]

/-! ## Tasks within a zone -/

section Tasks

variable {α β : Type}

/-- With such a service the task comes to something without looking up a zone, and it makes no
difference what is remembered of zones. -/
def StaysInZone (service : Http.Request → Http.Reply) (task : ClientM α) : Prop :=
  ∃ result asked, Gives service task result asked ∧ ∀ request ∈ asked, request.path ≠ zonesPath

theorem staysInZone_ofExcept (result : Except Error α) :
    StaysInZone service (ClientM.ofExcept result) :=
  ⟨result, [], fun known past => congrArg (Prod.mk (result, known)) (List.append_nil past).symm,
    nofun⟩

theorem staysInZone_pure (result : α) : StaysInZone service (pure result) :=
  ⟨.ok result, [], gives_pure result, nofun⟩

theorem staysInZone_call {read : Reader α} {request : Http.Request}
    (within : request.path ≠ zonesPath) : StaysInZone service (call read request) :=
  ⟨_, [request], gives_call rfl, List.forall_mem_singleton.2 within⟩

theorem StaysInZone.bind {task : ClientM α} {next : α → ClientM β}
    (first : StaysInZone service task) (second : ∀ result, StaysInZone service (next result)) :
    StaysInZone service (task >>= next) := by
  obtain ⟨error | result, asked, gives, within⟩ := first
  · exact ⟨.error error, asked, gives.bind_of_error, within⟩
  · obtain ⟨result', asked', gives', within'⟩ := second result
    exact ⟨result', asked ++ asked', gives.bind gives', List.forall_mem_append.2 ⟨within, within'⟩⟩

theorem staysInZone_listFrom {path : String} (within : path ≠ zonesPath) (read : Reader α)
    (limit : Nat) (page : UInt32) : StaysInZone service (listFrom read path limit page) := by
  induction limit generalizing page with
  | zero => exact ⟨_, [], gives_throw _, nofun⟩
  | succ limit ih =>
      refine (staysInZone_call within).bind fun envelope => ?_
      dsimp only
      split
      · exact staysInZone_pure _
      · exact (ih _).bind fun _ => staysInZone_pure _

theorem staysInZone_listOnce {path : String} (within : path ≠ zonesPath) (read : Reader α) :
    StaysInZone service (listOnce read path) :=
  (staysInZone_call within).bind fun _ => staysInZone_pure _

theorem staysInZone_send {client : Client} {request : Http.Request}
    (within : request.path ≠ zonesPath) : StaysInZone service (client.send request) := by
  unfold Client.send
  split
  · exact staysInZone_pure _
  · exact (staysInZone_call within).bind fun _ => staysInZone_pure _

end Tasks

/-! ## Calls -/

section Calls

variable (client : Client)

theorem append_ne_zonesPath (rest : String) : "/zones/" ++ rest ≠ zonesPath := by
  intro same
  have chars := congrArg String.toList same
  simp [zonesPath] at chars

theorem exists_collectionPath_eq (zoneId : String) (type : RecordType) :
    ∃ rest, collectionPath zoneId type = "/zones/" ++ rest := by
  unfold collectionPath
  split <;> exact ⟨_, String.append_assoc⟩

theorem collectionPath_ne_zonesPath (zoneId : String) (type : RecordType) :
    collectionPath zoneId type ≠ zonesPath := by
  obtain ⟨rest, same⟩ := exists_collectionPath_eq zoneId type
  rw [same]
  exact append_ne_zonesPath rest

theorem recordPath_ne_zonesPath (zoneId : String) (type : RecordType) (id : String) :
    recordPath zoneId type id ≠ zonesPath := by
  obtain ⟨rest, same⟩ := exists_collectionPath_eq zoneId type
  rw [recordPath, same, String.append_assoc, String.append_assoc]
  exact append_ne_zonesPath _

theorem sslPath_ne_zonesPath (zoneId : String) : sslPath zoneId ≠ zonesPath := by
  rw [sslPath, String.append_assoc]
  exact append_ne_zonesPath _

/-- The zone that has to be looked up for a call. Only a feature that there is not is refused
without a lookup. -/
def Client.zoneOf? : Call → Option String
  | .fetch zone | .fetchFeatures zone => some zone
  | .write zone (.toggle feature _) => if feature = universalSslFeature then some zone else none
  | .write zone _ => some zone

theorem lookup?_eq_none {request : Http.Request} {reply : Http.Reply}
    (within : request.path ≠ zonesPath) : Asked.lookup? ⟨request, reply⟩ = none :=
  if_neg within

/-- A task that finds out the identifier of a zone and then stays within the zone. -/
theorem record_zoneId_bind (service : Http.Request → Http.Reply) {α : Type} {zone : String}
    {task : ClientM α} {next : String → ClientM α} (own : task = client.zoneId zone >>= next)
    (stays : ∀ id, StaysInZone service (next id)) :
    ∃ (result : String → Except Error α) (asked : String → List Asked),
      (∀ id, ∀ exchange ∈ asked id, exchange.lookup? = none) ∧
      ∀ known past, (task.run.run known).record (fun _ => service) past =
        match ((client.zoneId zone).run.run known).record (fun _ => service) past with
        | ((.error error, known), past) => ((.error error, known), past)
        | ((.ok id, known), past) => ((result id, known), past ++ asked id) := by
  choose result requests gives within using stays
  refine ⟨result, fun id => (requests id).map fun request => ⟨request, service request⟩,
    fun id exchange member => ?_, fun known past => ?_⟩
  · obtain ⟨request, asked, rfl⟩ := List.mem_map.1 member
    exact lookup?_eq_none (within id request asked)
  · simp only [own, Program.record]
    rw [run_bind_client]
    rcases Program.run _ ((client.zoneId zone).run.run known) past with
      ⟨⟨error | id, known⟩, past⟩
    · rfl
    · exact gives id known past

theorem staysInZone_fetch (zone zoneId : String) :
    StaysInZone service (do
      let entries ← Client.fetchEntries zone zoneId
      let forwardings ← client.fetchForwardings zoneId
      let routes ← client.fetchRoutes zoneId
      return entries ++ forwardings ++ routes) := by
  have entries : StaysInZone service (Client.fetchEntries zone zoneId) :=
    (staysInZone_listFrom (collectionPath_ne_zonesPath zoneId _) _ _ _).bind fun _ =>
      staysInZone_ofExcept _
  have forwardings : StaysInZone service (client.fetchForwardings zoneId) := by
    unfold Client.fetchForwardings
    split
    · exact (staysInZone_listOnce (collectionPath_ne_zonesPath zoneId _) _).bind fun _ =>
        staysInZone_pure _
    · exact staysInZone_pure _
  have routes : StaysInZone service (client.fetchRoutes zoneId) := by
    unfold Client.fetchRoutes
    split
    · exact (staysInZone_listOnce (collectionPath_ne_zonesPath zoneId _) _).bind fun _ =>
        staysInZone_pure _
    · exact staysInZone_pure _
  exact entries.bind fun _ => forwardings.bind fun _ => routes.bind fun _ => staysInZone_pure _

/-- How a call goes on with the identifier of its zone: it asks for certain things, none of which is
a zone, and there is an answer. What is remembered of zones makes no difference to that. -/
structure Continues (service : Http.Request → Http.Reply) (call : Call) (zone : String)
    (answer : String → call.Answer) (asked : String → List Asked) : Prop where
  within : ∀ id, ∀ exchange ∈ asked id, exchange.lookup? = none
  record : ∀ known past, ((client.answer call).run known).record (fun _ => service) past =
    match ((client.zoneId zone).run.run known).record (fun _ => service) past with
    | ((.error error, known), past) => ((call.refuse error, known), past)
    | ((.ok id, known), past) => ((answer id, known), past ++ asked id)

theorem exists_continues_write (service : Http.Request → Http.Reply) {zone : String}
    {action : Action} (needed : Client.zoneOf? (.write zone action) = some zone) :
    ∃ answer asked, Continues client service (.write zone action) zone answer asked := by
  have made {next : String → ClientM Unit} (own : client.write zone action =
      client.zoneId zone >>= next) (stays : ∀ id, StaysInZone service (next id)) :
      ∃ answer asked, Continues client service (.write zone action) zone answer asked := by
    obtain ⟨answer, asked, within, record⟩ := record_zoneId_bind client service own stays
    exact ⟨answer, asked, within, record⟩
  cases action with
  | create record =>
      exact made rfl fun id => (staysInZone_ofExcept _).bind fun _ =>
        staysInZone_send (collectionPath_ne_zonesPath id _)
  | modify existing desired =>
      exact made rfl fun id => (staysInZone_ofExcept _).bind fun _ =>
        (staysInZone_ofExcept _).bind fun _ => staysInZone_send (recordPath_ne_zonesPath id _ _)
  | delete record =>
      exact made rfl fun id => (staysInZone_ofExcept _).bind fun _ =>
        staysInZone_send (recordPath_ne_zonesPath id _ _)
  | toggle feature enabled =>
      have own : feature = universalSslFeature := by
        by_contra other
        simp [Client.zoneOf?, other] at needed
      exact made (if_neg (not_not.2 own)) fun id => staysInZone_send (sslPath_ne_zonesPath id)

/-- Every call that needs a zone finds out its identifier first and then stays within it. -/
theorem exists_continues (service : Http.Request → Http.Reply) {call : Call} {zone : String}
    (needed : Client.zoneOf? call = some zone) :
    ∃ answer asked, Continues client service call zone answer asked := by
  cases call with
  | fetch zone' =>
      obtain rfl := Option.some.inj needed
      obtain ⟨answer, asked, within, record⟩ := record_zoneId_bind client service
        (rfl : client.fetch zone' = _) (staysInZone_fetch client zone')
      exact ⟨answer, asked, within, record⟩
  | fetchFeatures zone' =>
      obtain rfl := Option.some.inj needed
      obtain ⟨answer, asked, within, record⟩ := record_zoneId_bind client service
        (rfl : client.fetchFeatures zone' = _) fun id => by
          refine (staysInZone_call (sslPath_ne_zonesPath id)).bind fun envelope => ?_
          split <;> exact staysInZone_pure _
      exact ⟨answer, asked, within, record⟩
  | write zone' action =>
      obtain rfl : zone' = zone := by
        cases action with
        | toggle feature enabled =>
            simp only [Client.zoneOf?, Option.ite_none_right_eq_some, Option.some.injEq] at needed
            exact needed.2
        | _ => exact Option.some.inj needed
      exact exists_continues_write client service needed

end Calls

/-! ## Finding out an identifier -/

section Identifiers

variable (client : Client) {zone : String} {known : ZoneIds} {past : List Asked}

theorem lookupZone_eq (zone : String) :
    client.lookupZone zone =
      ClientM.send (client.lookupRequest zone) >>= fun reply =>
        ClientM.ofExcept (foundZone zone reply) := by
  unfold Client.lookupZone foundZone call
  simp only [bind_assoc]
  refine bind_congr fun reply => ?_
  have path : (client.lookupRequest zone).path = zonesPath := rfl
  rw [path]
  cases Envelope.ofReply (Reader.list ZoneEntry.shape.read) zonesPath reply with
  | error error => rfl
  | ok envelope =>
      let isMeant (entry : ZoneEntry) : Bool :=
        Text.equalIgnoringAsciiCase entry.name.toList zone.toList
      change (match (envelope.result.getD []).find? isMeant with
          | some entry => return entry.id
          | none => throw (.notFound ("Zone not found: " ++ zone))) =
        ClientM.ofExcept (match (envelope.result.getD []).find? isMeant with
          | some entry => return entry.id
          | none => throw (.notFound ("Zone not found: " ++ zone)))
      split <;> rfl

theorem gives_lookupZone (service : Http.Request → Http.Reply) (zone : String) :
    Gives service (client.lookupZone zone) (foundZone zone (service (client.lookupRequest zone)))
      [client.lookupRequest zone] := by
  have sent : Gives service (ClientM.send (client.lookupRequest zone))
      (.ok (service (client.lookupRequest zone))) [client.lookupRequest zone] := fun _ _ => rfl
  rw [lookupZone_eq]
  exact sent.bind fun known past => congrArg (Prod.mk (_, known)) (List.append_nil past).symm

theorem zoneId_run (zone : String) (known : ZoneIds) :
    (client.zoneId zone).run.run known =
      ((match known.get? zone with
        | some id => return id
        | none => do
            let id ← client.lookupZone zone
            modify fun known => known.insert zone id
            return id : ClientM String)).run.run known :=
  rfl

/-- A zone that is remembered is not looked up. -/
theorem record_zoneId_of_known {id : String} (found : known.get? zone = some id) :
    ((client.zoneId zone).run.run known).record (fun _ => service) past =
      ((.ok id, known), past) := by
  rw [zoneId_run, found]
  rfl

/-- A zone that is not remembered is looked up, and remembered if it is found. -/
theorem record_zoneId_of_unknown (unknown : known.get? zone = none) :
    ((client.zoneId zone).run.run known).record (fun _ => service) past =
      (match foundZone zone (service (client.lookupRequest zone)) with
        | .ok id => (.ok id, known.insert zone id)
        | .error error => (.error error, known),
        past ++ [client.lookup service zone]) := by
  have looked := gives_lookupZone client service zone known past
  rw [zoneId_run, unknown]
  simp only [Program.record] at looked ⊢
  rw [run_bind_client, looked]
  cases foundZone zone (service (client.lookupRequest zone)) <;> rfl

end Identifiers

/-! ## What is remembered -/

/-- What is remembered of zones after certain exchanges: the zones that were found, with their
identifiers. Every lookup among the exchanges was one of the client. -/
structure Remembers (client : Client) (service : Http.Request → Http.Reply) (past : List Asked)
    (known : ZoneIds) : Prop where
  known : ∀ zone id, known.get? zone = some id ↔ ∃ earlier ∈ past, earlier.found? = some (zone, id)
  own : ∀ earlier ∈ past, ∀ zone, earlier.lookup? = some zone → earlier = client.lookup service zone

section Memory

variable {client : Client} {past asked : List Asked} {known : ZoneIds} {zone id : String}

theorem found?_eq_some_iff {exchange : Asked} :
    exchange.found? = some (zone, id) ↔
      exchange.lookup? = some zone ∧ foundZone zone exchange.2 = .ok id := by
  have given (zone' : String) :
      ((foundZone zone' exchange.2).toOption.map fun id => (zone', id)) = some (zone, id) ↔
        zone' = zone ∧ foundZone zone exchange.2 = .ok id := by
    cases found : foundZone zone' exchange.2 with
    | error error =>
        refine iff_of_false nofun ?_
        rintro ⟨rfl, other⟩
        rw [found] at other
        cases other
    | ok id' =>
        simp only [Except.toOption, Option.map_some, Option.some.injEq, Prod.mk.injEq]
        refine and_congr_right fun same => ?_
        rw [← same, found, Except.ok.injEq]
  simp only [Asked.found?, Option.bind_eq_some_iff, given]
  apply Iff.intro
  · rintro ⟨zone', looked, rfl, own⟩
    exact ⟨looked, own⟩
  · rintro ⟨looked, own⟩
    exact ⟨zone, looked, rfl, own⟩

theorem remembers_nil : Remembers client service [] Dict.empty where
  known zone id := by simp
  own := nofun

/-- What looks up no zone changes nothing. -/
theorem Remembers.append (remembers : Remembers client service past known)
    (elsewhere : ∀ exchange ∈ asked, exchange.lookup? = none) :
    Remembers client service (past ++ asked) known where
  known zone id := by
    rw [remembers.known]
    refine exists_congr fun earlier => and_congr_left fun found => ?_
    refine ⟨List.mem_append_left _, fun member => (List.mem_append.1 member).resolve_right ?_⟩
    intro own
    cases (found?_eq_some_iff.1 found).1.symm.trans (elsewhere earlier own)
  own earlier member zone looked := by
    rcases List.mem_append.1 member with known | own
    · exact remembers.own earlier known zone looked
    · cases looked.symm.trans (elsewhere earlier own)

/-- A lookup adds the zone if it is found. -/
theorem Remembers.lookup {after : ZoneIds} (remembers : Remembers client service past known)
    (learns : ∀ other id, after.get? other = some id ↔ known.get? other = some id ∨
      other = zone ∧ foundZone zone (service (client.lookupRequest zone)) = .ok id) :
    Remembers client service (past ++ [client.lookup service zone]) after where
  known other id := by
    have own : (client.lookup service zone).found? = some (other, id) ↔
        other = zone ∧ foundZone zone (service (client.lookupRequest zone)) = .ok id := by
      rw [found?_eq_some_iff, lookup?_lookup, Option.some.injEq, eq_comm]
      refine and_congr_right fun same => ?_
      rw [same]
      rfl
    simp only [learns, remembers.known, List.mem_append, List.mem_singleton, or_and_right,
      exists_or, exists_eq_left, own]
  own earlier member other looked := by
    rcases List.mem_append.1 member with known | own
    · exact remembers.own earlier known other looked
    · rw [List.mem_singleton.1 own, lookup?_lookup, Option.some.injEq] at looked
      rw [List.mem_singleton.1 own, looked]

theorem Remembers.foundZone_eq (remembers : Remembers client service past known)
    (found : known.get? zone = some id) :
    foundZone zone (service (client.lookupRequest zone)) = .ok id := by
  obtain ⟨earlier, member, learned⟩ := (remembers.known zone id).1 found
  obtain ⟨looked, own⟩ := found?_eq_some_iff.1 learned
  rw [remembers.own earlier member zone looked] at own
  exact own

theorem Remembers.isRepeated_iff (remembers : Remembers client service past known) :
    (client.lookup service zone).isRepeated past = true ↔ ∃ id, known.get? zone = some id := by
  simp only [Asked.isRepeated, lookup?_lookup, Option.any_some, List.any_eq_true, remembers.known]
  have known (earlier : Asked) : (earlier.found?.any fun learned => learned.1 == zone) = true ↔
      ∃ id, earlier.found? = some (zone, id) := by
    cases earlier.found? with
    | none => simp
    | some learned =>
        obtain ⟨other, id⟩ := learned
        simp
  simp only [known]
  exact ⟨fun ⟨earlier, member, id, found⟩ => ⟨id, earlier, member, found⟩,
    fun ⟨id, earlier, member, found⟩ => ⟨earlier, member, id, found⟩⟩

end Memory

/-! ## Side by side -/

/-- What the service says depends on the message alone. -/
def Repeatable (network : Http.Message → ω → Http.Reply × ω) : Prop :=
  ∀ message state other, (network message state).1 = (network message other).1

/-- The service gives this reply to each request, whatever its state is. -/
def Serves (connection : Connection) (network : Http.Message → ω → Http.Reply × ω)
    (service : Http.Request → Http.Reply) : Prop :=
  ∀ request state, (connection.endpoint.send network request state).1 = service request

theorem Repeatable.serves (repeatable : Repeatable network) (connection : Connection) (state : ω) :
    Serves connection network fun request =>
      (connection.endpoint.send network request state).1 := by
  intro request other
  dsimp only
  unfold Http.Endpoint.send
  cases connection.endpoint.message request with
  | error fault => rfl
  | ok message => exact repeatable message other state

namespace Account

/-- The call and the answer to it. -/
def answered (account : Account) : (call : Call) × call.Answer :=
  ⟨account.call, account.answer⟩

/-- The zone of the call is looked up first and only then, if the call needs one. Otherwise nothing
is asked. -/
def LooksUpFirst (client : Client) (account : Account) : Prop :=
  match Client.zoneOf? account.call with
  | none => account.asked = []
  | some zone => ∃ reply later, account.asked = ⟨client.lookupRequest zone, reply⟩ :: later ∧
      ∀ exchange ∈ later, exchange.lookup? = none

end Account

/-- Answer calls one after another, remember no zone from one call to the next, and give an account
of each. -/
def Connection.accountsAfresh (connection : Connection)
    (network : Http.Message → ω → Http.Reply × ω) : List Call → ω → List Account
  | [], _ => []
  | call :: calls, state =>
      let first := connection.account network call ⟨state, Dict.empty⟩
      first.1 :: connection.accountsAfresh network calls first.2.network

theorem calls_of_accountsAfresh (connection : Connection) (calls : List Call) (state : ω) :
    (connection.accountsAfresh network calls state).map Account.call = calls := by
  induction calls generalizing state with
  | nil => rfl
  | cons call calls ih => exact congrArg (call :: ·) (ih _)

section Steps

variable {connection : Connection} (serves : Serves connection network service)
include serves

theorem exists_account_of_record {call : Call} {session : Session ω}
    {result : call.Answer × ZoneIds} {asked : List Asked}
    (recorded : ((connection.client.answer call).run session.zoneIds).record (fun _ => service) [] =
      (result, asked)) :
    ∃ after, connection.account network call session =
      (⟨call, result.1, asked⟩, ⟨after, result.2⟩) := by
  have ran {α : Type} (program : ServiceM α) (state : ω) (past : List Asked) :
      ∃ after, program.run (noted (connection.endpoint.send network)) (state, past) =
        ((program.record (fun _ => service) past).1,
          (after, (program.record (fun _ => service) past).2)) := by
    induction program generalizing state past with
    | done result => exact ⟨state, rfl⟩
    | ask request next ih =>
        have reply := serves request state
        simp only [Program.run, Program.record, noted] at ih ⊢
        rw [reply]
        exact ih _ _ _
  obtain ⟨after, ran⟩ := ran ((connection.client.answer call).run session.zoneIds)
    session.network []
  rw [recorded] at ran
  exact ⟨after, account_eq_of_run connection ran⟩

section Zone

variable {call : Call} {session : Session ω} {zone id : String} {answer : String → call.Answer}
variable {asked : String → List Asked}
variable (continues : Continues connection.client service call zone answer asked)
include continues

theorem exists_account_of_known (known : session.zoneIds.get? zone = some id) :
    ∃ after, connection.account network call session =
      (⟨call, answer id, asked id⟩, ⟨after, session.zoneIds⟩) := by
  have recorded := continues.record session.zoneIds []
  rw [record_zoneId_of_known connection.client known] at recorded
  exact exists_account_of_record serves recorded

variable (unknown : session.zoneIds.get? zone = none)
include unknown

theorem exists_account_of_found
    (found : foundZone zone (service (connection.client.lookupRequest zone)) = .ok id) :
    ∃ after, connection.account network call session =
      (⟨call, answer id, connection.client.lookup service zone :: asked id⟩,
        ⟨after, session.zoneIds.insert zone id⟩) := by
  have recorded := continues.record session.zoneIds []
  rw [record_zoneId_of_unknown connection.client unknown, found] at recorded
  exact exists_account_of_record serves recorded

theorem exists_account_of_missing {error : Error}
    (missing : foundZone zone (service (connection.client.lookupRequest zone)) = .error error) :
    ∃ after, connection.account network call session =
      (⟨call, call.refuse error, [connection.client.lookup service zone]⟩,
        ⟨after, session.zoneIds⟩) := by
  have recorded := continues.record session.zoneIds []
  rw [record_zoneId_of_unknown connection.client unknown, missing] at recorded
  exact exists_account_of_record serves recorded

end Zone

/-- A call that needs no zone is refused without a request. -/
theorem exists_account_of_needless {call : Call} (needless : Client.zoneOf? call = none) :
    ∃ answer, ∀ session : Session ω, ∃ after, connection.account network call session =
      (⟨call, answer, []⟩, ⟨after, session.zoneIds⟩) := by
  cases call with
  | fetch zone => cases needless
  | fetchFeatures zone => cases needless
  | write zone action =>
      cases action with
      | toggle feature enabled =>
          have other : feature ≠ universalSslFeature := by
            rintro rfl
            simp [Client.zoneOf?] at needless
          let refused : Except Error Unit :=
            .error (.unsupported ("Cloudflare has no feature '" ++ feature ++ "'"))
          have recorded (known : ZoneIds) :
              ((connection.client.answer (.write zone (.toggle feature enabled))).run known).record
                (fun _ => service) [] = ((refused, known), []) := by
            change ((connection.client.setFeature zone feature enabled).run.run known).record
              (fun _ => service) [] = _
            rw [Client.setFeature, if_pos other]
            rfl
          exact ⟨refused, fun session =>
            exists_account_of_record serves (recorded session.zoneIds)⟩
      | _ => cases needless

end Steps

/-- The account of a client that remembers zones, beside that of somebody who does not: the answer
is the same, no zone is looked up that was found before, and what is remembered afterwards is what
was found. -/
structure Saves (client : Client) (service : Http.Request → Http.Reply) (past : List Asked)
    (saving : Account) (known : ZoneIds) (afresh : Account) : Prop where
  answered : saving.answered = afresh.answered
  asked : saving.asked = withoutRepeats past afresh.asked
  first : afresh.LooksUpFirst client
  remembers : Remembers client service (past ++ afresh.asked) known

section Saving

variable {client : Client} {past asked : List Asked} {known : ZoneIds} {call : Call}
variable {zone id : String} {answer : call.Answer}
variable (remembers : Remembers client service past known)
variable (needed : Client.zoneOf? call = some zone)
variable (within : ∀ exchange ∈ asked, exchange.lookup? = none)

include needed within in
theorem looksUpFirst_of_lookup :
    Account.LooksUpFirst client ⟨call, answer, client.lookup service zone :: asked⟩ := by
  simp only [Account.LooksUpFirst, needed]
  exact ⟨_, asked, rfl, within⟩

include remembers within in
theorem Remembers.cons {after : ZoneIds}
    (learns : ∀ other id, after.get? other = some id ↔ known.get? other = some id ∨
      other = zone ∧ foundZone zone (service (client.lookupRequest zone)) = .ok id) :
    Remembers client service (past ++ client.lookup service zone :: asked) after := by
  rw [← List.singleton_append, ← List.append_assoc]
  exact (remembers.lookup learns).append within

include remembers needed within

/-- A zone that is remembered has been found before. -/
theorem saves_of_known (learned : known.get? zone = some id) :
    Saves client service past ⟨call, answer, asked⟩ known
      ⟨call, answer, client.lookup service zone :: asked⟩ where
  answered := rfl
  asked := by rw [withoutRepeats_cons within, if_pos (remembers.isRepeated_iff.2 ⟨id, learned⟩)]
  first := looksUpFirst_of_lookup needed within
  remembers := remembers.cons within fun other id' => by
    refine ⟨Or.inl, fun found => found.elim (fun known => known) ?_⟩
    rintro ⟨rfl, found⟩
    rw [learned, ← Except.ok.inj ((remembers.foundZone_eq learned).symm.trans found)]

/-- A zone that is not remembered has not been found before. -/
theorem saves_of_unknown {after : ZoneIds} (unknown : known.get? zone = none)
    (learns : ∀ other id, after.get? other = some id ↔ known.get? other = some id ∨
      other = zone ∧ foundZone zone (service (client.lookupRequest zone)) = .ok id) :
    Saves client service past ⟨call, answer, client.lookup service zone :: asked⟩ after
      ⟨call, answer, client.lookup service zone :: asked⟩ where
  answered := rfl
  asked := by
    have first : ¬ (client.lookup service zone).isRepeated past = true := fun again => by
      obtain ⟨id, learned⟩ := remembers.isRepeated_iff.1 again
      cases unknown.symm.trans learned
    rw [withoutRepeats_cons within, if_neg first]
  first := looksUpFirst_of_lookup needed within
  remembers := remembers.cons within learns

end Saving

section Runs

variable {connection : Connection} (serves : Serves connection network service)
include serves

/-- For one call, the two come to the same. -/
theorem saves_of_call {past : List Asked} {session : Session ω}
    (remembers : Remembers connection.client service past session.zoneIds) (call : Call)
    (state : ω) :
    let saving := connection.account network call session
    Saves connection.client service past saving.1 saving.2.zoneIds
      (connection.account network call ⟨state, Dict.empty⟩).1 := by
  intro saving
  cases needed : Client.zoneOf? call with
  | none =>
      obtain ⟨answer, refused⟩ := exists_account_of_needless serves needed
      obtain ⟨after, own⟩ := refused session
      obtain ⟨after', other⟩ := refused ⟨state, Dict.empty⟩
      simp only [saving, own, other]
      exact ⟨rfl, rfl, by simp only [Account.LooksUpFirst, needed], by rwa [List.append_nil]⟩
  | some zone =>
      obtain ⟨answer, asked, continues⟩ := exists_continues connection.client service needed
      have nothing : (⟨state, Dict.empty⟩ : Session ω).zoneIds.get? zone = none :=
        Dict.get?_empty zone
      cases known : session.zoneIds.get? zone with
      | some id =>
          have found := remembers.foundZone_eq known
          obtain ⟨after, own⟩ := exists_account_of_known serves continues known
          obtain ⟨after', other⟩ := exists_account_of_found serves continues nothing found
          simp only [saving, own, other]
          exact saves_of_known remembers needed (continues.within id) known
      | none =>
          cases found : foundZone zone (service (connection.client.lookupRequest zone)) with
          | error error =>
              obtain ⟨after, own⟩ := exists_account_of_missing serves continues known found
              obtain ⟨after', other⟩ := exists_account_of_missing serves continues nothing found
              simp only [saving, own, other]
              refine saves_of_unknown remembers needed (List.forall_mem_nil _) known
                fun name id => ?_
              simp [found]
          | ok id =>
              obtain ⟨after, own⟩ := exists_account_of_found serves continues known found
              obtain ⟨after', other⟩ := exists_account_of_found serves continues nothing found
              simp only [saving, own, other]
              refine saves_of_unknown remembers needed (continues.within id) known
                fun name id' => ?_
              rw [found, Dict.get?_insert]
              by_cases same : name = zone
              · simp [same, known]
              · simp [same]

/-- For calls one after another, the two come to the same. -/
theorem saves_of_calls {past : List Asked} {session : Session ω}
    (remembers : Remembers connection.client service past session.zoneIds) (calls : List Call)
    (state : ω) :
    let saving := connection.accounts network calls session
    let afresh := connection.accountsAfresh network calls state
    saving.1.map Account.answered = afresh.map Account.answered ∧
      saving.1.flatMap Account.asked = withoutRepeats past (afresh.flatMap Account.asked) ∧
      (∀ account ∈ afresh, account.LooksUpFirst connection.client) ∧
      Remembers connection.client service (past ++ afresh.flatMap Account.asked)
        saving.2.zoneIds := by
  induction calls generalizing past session state with
  | nil => exact ⟨rfl, rfl, List.forall_mem_nil _, (List.append_nil past).symm ▸ remembers⟩
  | cons call calls ih =>
      have first := saves_of_call serves remembers call state
      obtain ⟨answered, asked, looks, after⟩ := ih first.remembers
        (connection.account network call ⟨state, Dict.empty⟩).2.network
      refine ⟨congrArg₂ List.cons first.answered answered, ?_,
        List.forall_mem_cons.2 ⟨first.first, looks⟩, ?_⟩
      · simp only [Connection.accounts, Connection.accountsAfresh, List.flatMap_cons]
        rw [withoutRepeats_append, ← first.asked, asked]
      · simp only [Connection.accounts, Connection.accountsAfresh, List.flatMap_cons]
        rwa [← List.append_assoc]

end Runs

/-- A service that says the same whenever it is asked the same gives the same answers to a client
that remembers zones as to somebody who looks the zone up before every call. Over all calls, the
client asks for the same as the other one, without those lookups of zones that were found in an
earlier one. What it remembers in the end is just what was found, so no lookup that failed. -/
theorem remembered_zones_make_no_difference (repeatable : Repeatable network)
    (connection : Connection) (calls : List Call) (state : ω) :
    let saving := connection.accounts network calls ⟨state, Dict.empty⟩
    let afresh := connection.accountsAfresh network calls state
    afresh.map Account.call = calls ∧
      (∀ account ∈ afresh, account.LooksUpFirst connection.client) ∧
      saving.1.map Account.answered = afresh.map Account.answered ∧
      saving.1.flatMap Account.asked = withoutRepeats [] (afresh.flatMap Account.asked) ∧
      ∀ zone id, saving.2.zoneIds.get? zone = some id ↔
        ∃ exchange ∈ afresh.flatMap Account.asked, exchange.found? = some (zone, id) := by
  have serves := repeatable.serves connection state
  have nothing {service : Http.Request → Http.Reply} :
      Remembers connection.client service [] (⟨state, Dict.empty⟩ : Session ω).zoneIds :=
    remembers_nil
  obtain ⟨answered, asked, first, remembers⟩ := saves_of_calls serves nothing calls state
  exact ⟨calls_of_accountsAfresh connection calls state, first, answered, asked, remembers.known⟩

/-! ## Two zones and a third spelling -/

/-- A service that has one zone and says so, whatever it is asked. It counts what it is asked. -/
def steadyService (_ : Http.Message) (count : Nat) : Http.Reply × Nat :=
  (.response 200 ("\x7b\"success\":true,\"result\":[\x7b\"id\":\"z\",\"name\":\"a.org\"\x7d]\x7d"),
    count + 1)

theorem repeatable_steadyService : Repeatable steadyService :=
  fun _ _ _ => rfl

/-- A zone that there is, one that there is not, the first one in capitals, the first two again, and
a feature that there is not. -/
def zoneCalls : List Call := [
  .write "a.org" (.toggle universalSslFeature true),
  .write "b.org" (.toggle universalSslFeature true),
  .write "A.ORG" (.toggle universalSslFeature true),
  .write "a.org" (.toggle universalSslFeature false),
  .write "b.org" (.toggle universalSslFeature false), .write "c.org" (.toggle "other" true)]

/-- What a client that remembers zones asks for. -/
def savingAccounts : List Account × Session Nat :=
  impatientConnection.accounts steadyService zoneCalls ⟨0, Dict.empty⟩

/-- What is asked for if the zone is looked up before every call. -/
def afreshAccounts : List Account :=
  impatientConnection.accountsAfresh steadyService zoneCalls 0

/-- The one request that is saved is the second lookup of the zone that there is, in the same
spelling. -/
theorem remembered_zones_make_no_difference_to_switches :
    Repeatable steadyService ∧
      savingAccounts.1.map (fun account => account.asked.length) = [2, 1, 2, 1, 1, 0] ∧
      afreshAccounts.map (fun account => account.asked.length) = [2, 1, 2, 2, 1, 0] ∧
      savingAccounts.1.map Account.answered = afreshAccounts.map Account.answered ∧
      savingAccounts.1.flatMap Account.asked =
        withoutRepeats [] (afreshAccounts.flatMap Account.asked) := by
  obtain ⟨-, -, answered, asked, -⟩ := remembered_zones_make_no_difference
    repeatable_steadyService impatientConnection zoneCalls 0
  exact ⟨repeatable_steadyService, by decide +kernel, by decide +kernel, answered, asked⟩

end DnsReconcile.Cloudflare
