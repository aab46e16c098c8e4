/-
# Dry runs

A dry run asks for the same things as a run that writes, as long as the service does not let what
was written influence what it says to a GET. The two go side by side: what they remember of zones is
the same after every call, since it is read, and whatever is refused before a write is sent is
refused in both. A write that gets that far is a success in the dry run, and in the other run it
takes one more request. So plans cannot tell the two apart.
-/

import DnsReconcile.Proofs.Cloudflare.Listings
import DnsReconcile.Proofs.Cloudflare.ReadingTasks
import DnsReconcile.Proofs.Engine.PlanTranscripts
import DnsReconcile.Proofs.Engine.Runs
import Mathlib.Data.List.Forall2

namespace DnsReconcile.Cloudflare

variable {ω : Type} {network : Http.Message → ω → Http.Reply × ω}

/-! ## Accounts -/

/-- A request to the service with the reply to it. -/
abbrev Asked : Type := Program.Exchange Http.Request fun _ => Http.Reply

/-- Answer requests and note them with the replies. -/
def noted (handle : Http.Request → ω → Http.Reply × ω) (request : Http.Request)
    (state : ω × List Asked) : Http.Reply × (ω × List Asked) :=
  let answered := handle request state.1
  (answered.1, (answered.2, state.2 ++ [⟨request, answered.1⟩]))

/-- What came of a call: the answer to it, and all that the service was asked on the way. -/
structure Account where
  call : Call
  answer : call.Answer
  asked : List Asked

namespace Connection

variable (connection : Connection)

/-- Answer a call and give an account of it. -/
def account (network : Http.Message → ω → Http.Reply × ω) (call : Call) (session : Session ω) :
    Account × Session ω :=
  let task := (connection.client.answer call).run session.zoneIds
  let ran := task.run (noted (connection.endpoint.send network)) (session.network, [])
  (⟨call, ran.1.1, ran.2.2⟩, ⟨ran.2.1, ran.1.2⟩)

/-- Answer calls one after another and give an account of each. -/
def accounts (network : Http.Message → ω → Http.Reply × ω) :
    List Call → Session ω → List Account × Session ω
  | [], session => ([], session)
  | call :: calls, session =>
      let first := connection.account network call session
      let others := accounts network calls first.2
      (first.1 :: others.1, others.2)

/-- The same connection in a dry run, or in a run that writes. -/
def inDryRun (dryRun : Bool) : Connection :=
  { connection with client := connection.client.inDryRun dryRun }

end Connection

/-- Taking notes changes nothing. -/
theorem run_noted {α : Type} (handle : Http.Request → ω → Http.Reply × ω)
    (program : ServiceM α) (state : ω) (asked : List Asked) :
    (program.run (noted handle) (state, asked)).1 = (program.run handle state).1 ∧
      (program.run (noted handle) (state, asked)).2.1 = (program.run handle state).2 := by
  induction program generalizing state asked with
  | done result => exact ⟨rfl, rfl⟩
  | ask request next ih => exact ih _ _ _

section Runs

variable (connection : Connection) {call : Call} {session : Session ω}
variable {result : call.Answer × ZoneIds} {after : ω} {asked : List Asked}
variable (ran : ((connection.client.answer call).run session.zoneIds).run
  (noted (connection.endpoint.send network)) (session.network, []) = (result, (after, asked)))
include ran

theorem account_eq_of_run :
    connection.account network call session = (⟨call, result.1, asked⟩, ⟨after, result.2⟩) := by
  rw [Connection.account, ran]

theorem answer_eq_of_run :
    connection.answer network call session = (result.1, ⟨after, result.2⟩) := by
  obtain ⟨own, left⟩ := run_noted (connection.endpoint.send network)
    ((connection.client.answer call).run session.zoneIds) session.network []
  rw [ran] at own left
  have plain : ((connection.client.answer call).run session.zoneIds).run
      (connection.endpoint.send network) session.network = (result, after) :=
    Prod.ext own.symm left.symm
  rw [Connection.answer, plain]

end Runs

/-- An account has the answer to the call, and the session that is left is the same. -/
theorem answer_eq_account (connection : Connection)
    (network : Http.Message → ω → Http.Reply × ω) (call : Call) (session : Session ω) :
    connection.answer network call session =
      ((connection.account network call session).1.answer,
        (connection.account network call session).2) :=
  answer_eq_of_run connection rfl

/-! ## Reading -/

/-- What the service says to a GET depends on the message alone. -/
def Settled (network : Http.Message → ω → Http.Reply × ω) : Prop :=
  ∀ message, message.method = .get →
    ∀ state other, (network message state).1 = (network message other).1

theorem method_of_message {endpoint : Http.Endpoint} {request : Http.Request}
    {message : Http.Message} (built : endpoint.message request = .ok message) :
    message.method = request.method := by
  unfold Http.Endpoint.message at built
  split at built
  · split_ifs at built <;> cases built
    rfl
  · cases built

theorem Settled.send_eq (settled : Settled network) (endpoint : Http.Endpoint)
    {request : Http.Request} (get : request.method = .get) (state other : ω) :
    (endpoint.send network request state).1 = (endpoint.send network request other).1 := by
  unfold Http.Endpoint.send
  cases built : endpoint.message request with
  | error fault => rfl
  | ok message => exact settled message ((method_of_message built).trans get) state other

/-- A program that only reads comes to the same in any state of the service. -/
theorem exists_run_of_confined {α : Type} (settled : Settled network) (endpoint : Http.Endpoint)
    {program : ServiceM α} (reads : program.Confined fun request => request.method = .get)
    (state other : ω) :
    ∃ result asked after after', (∀ exchange ∈ asked, exchange.1.method = .get) ∧
      program.run (noted (endpoint.send network)) (state, []) = (result, (after, asked)) ∧
      program.run (noted (endpoint.send network)) (other, []) = (result, (after', asked)) := by
  let Agree (one two : ω × List Asked) : Prop :=
    one.2 = two.2 ∧ ∀ exchange ∈ one.2, exchange.1.method = .get
  have step : ∀ request : Http.Request, request.method = .get → ∀ one two, Agree one two →
      (noted (endpoint.send network) request one).1 =
          (noted (endpoint.send network) request two).1 ∧
        Agree (noted (endpoint.send network) request one).2
          (noted (endpoint.send network) request two).2 := by
    rintro request get one two ⟨same, gets⟩
    have reply := settled.send_eq endpoint get one.1 two.1
    refine ⟨reply, ?_, fun exchange member => ?_⟩
    · simp only [noted, same, reply]
    · rcases List.mem_append.1 member with member | member
      · exact gets exchange member
      · rw [List.mem_singleton.1 member]
        exact get
  have start : Agree (state, []) (other, []) := ⟨rfl, nofun⟩
  obtain ⟨result, asked, gets⟩ := reads.run_related Agree step start
  exact ⟨_, _, _, (program.run (noted (endpoint.send network)) (other, [])).2.1, gets, rfl,
    Prod.ext result.symm (Prod.ext rfl asked.symm)⟩

/-! ## Side by side -/

/-- The account of a dry run and that of a run that writes say the same of a call, unless the dry
run ends a write with success. Then one more request is sent, and the answer is what the reply to it
tells. -/
inductive Mirrors : Account → Account → Prop where
  | read {call : Call} {answer : call.Answer} {asked : List Asked}
      (reading : ∀ zone action, call ≠ .write zone action)
      (gets : ∀ exchange ∈ asked, exchange.1.method = .get) :
      Mirrors ⟨call, answer, asked⟩ ⟨call, answer, asked⟩
  | refused {zone : String} {action : Action} {error : Error} {asked : List Asked}
      (gets : ∀ exchange ∈ asked, exchange.1.method = .get) :
      Mirrors ⟨.write zone action, .error error, asked⟩ ⟨.write zone action, .error error, asked⟩
  | written {zone : String} {action : Action} {asked : List Asked} {request : Http.Request}
      {reply : Http.Reply} (gets : ∀ exchange ∈ asked, exchange.1.method = .get)
      (writes : request.method ≠ .get) :
      Mirrors ⟨.write zone action, .ok (), asked⟩
        ⟨.write zone action,
          (Envelope.ofReply Json.Reader.value request.path reply).map fun _ => (),
          asked ++ [⟨request, reply⟩]⟩

/-- A write that is not left out is one request. -/
theorem run_send {client : Client} (live : client.dryRun = false) (request : Http.Request)
    (handle : Http.Request → ω → Http.Reply × ω) (known : ZoneIds) (state : ω)
    (asked : List Asked) :
    ((client.send request).run.run known).run (noted handle) (state, asked) =
      (((Envelope.ofReply Json.Reader.value request.path (handle request state).1).map fun _ => (),
          known),
        ((handle request state).2, asked ++ [⟨request, (handle request state).1⟩])) := by
  rw [Client.send, live, if_neg Bool.false_ne_true, run_bind_client]
  have called : ((call Json.Reader.value request).run.run known).run (noted handle)
      (state, asked) =
        ((Envelope.ofReply Json.Reader.value request.path (handle request state).1, known),
          ((handle request state).2, asked ++ [⟨request, (handle request state).1⟩])) := rfl
  rw [called]
  cases Envelope.ofReply Json.Reader.value request.path (handle request state).1 <;> rfl

section Writes

variable (connection : Connection) {session : Session ω} {zone : String} {action : Action}
variable {known : ZoneIds} {after : ω} {asked : List Asked}

theorem answer_write (known : ZoneIds) :
    (connection.client.answer (.write zone action)).run known =
      ((connection.client.target zone action >>= fun target =>
        connection.client.send (writeRequest action target)).run.run known) := by
  rw [← write_eq]
  rfl

theorem account_of_refused {error : Error}
    (refused : ((connection.client.target zone action).run.run session.zoneIds).run
      (noted (connection.endpoint.send network)) (session.network, []) =
        ((.error error, known), (after, asked))) :
    connection.account network (.write zone action) session =
      (⟨.write zone action, .error error, asked⟩, ⟨after, known⟩) := by
  rw [Connection.account, answer_write, run_bind_client, refused]

/-- A write for which everything has been found out goes on with what is to be sent. -/
theorem account_of_target {target : String × Option Json} {result : Except Error Unit}
    {known' : ZoneIds} {last : ω} {asked' : List Asked}
    (found : ((connection.client.target zone action).run.run session.zoneIds).run
      (noted (connection.endpoint.send network)) (session.network, []) =
        ((.ok target, known), (after, asked)))
    (sent : ((connection.client.send (writeRequest action target)).run.run known).run
      (noted (connection.endpoint.send network)) (after, asked) =
        ((result, known'), (last, asked'))) :
    connection.account network (.write zone action) session =
      (⟨.write zone action, result, asked'⟩, ⟨last, known'⟩) := by
  rw [Connection.account, answer_write, run_bind_client, found]
  dsimp only
  rw [sent]

end Writes

section Calls

variable (settled : Settled network) (connection : Connection) {session other : Session ω}
variable (same : session.zoneIds = other.zoneIds)
include settled same

/-- The two run in the same way through a call that only reads. -/
theorem exists_run_of_reading {call : Call}
    (reading : ∀ zone action, call ≠ .write zone action) :
    ∃ result asked after after', (∀ exchange ∈ asked, exchange.1.method = .get) ∧
      (((connection.inDryRun true).client.answer call).run session.zoneIds).run
        (noted (connection.endpoint.send network)) (session.network, []) =
          (result, (after, asked)) ∧
      (((connection.inDryRun false).client.answer call).run other.zoneIds).run
        (noted (connection.endpoint.send network)) (other.network, []) =
          (result, (after', asked)) := by
  have alike (dryRun : Bool) :
      (connection.inDryRun dryRun).client.answer call = connection.client.answer call := by
    cases call with
    | fetch zone => exact congrArg ExceptT.run (fetch_inDryRun connection.client zone dryRun)
    | fetchFeatures zone =>
        exact congrArg ExceptT.run (fetchFeatures_inDryRun connection.client zone dryRun)
    | write zone action => exact absurd rfl (reading zone action)
  have reads : ((connection.client.answer call).run session.zoneIds).Confined
      fun request => request.method = .get := by
    cases call with
    | fetch zone => exact onlyReads_fetch session.zoneIds
    | fetchFeatures zone => exact onlyReads_fetchFeatures session.zoneIds
    | write zone action => exact absurd rfl (reading zone action)
  rw [alike true, alike false, ← same]
  exact exists_run_of_confined settled connection.endpoint reads session.network other.network

/-- A write is refused in both or in none, and if it is not, only one of the two sends it. -/
theorem mirrors_of_write (zone : String) (action : Action) :
    Mirrors ((connection.inDryRun true).account network (.write zone action) session).1
        ((connection.inDryRun false).account network (.write zone action) other).1 ∧
      ((connection.inDryRun true).account network (.write zone action) session).2.zoneIds =
        ((connection.inDryRun false).account network (.write zone action) other).2.zoneIds := by
  have reads : OnlyReads (connection.client.target zone action) := onlyReads_target action
  obtain ⟨⟨target, known⟩, asked, after, after', gets, ran, ran'⟩ :=
    exists_run_of_confined settled connection.endpoint
      (reads session.zoneIds) session.network other.network
  rw [same] at ran'
  rw [← target_inDryRun _ zone true] at ran
  rw [← target_inDryRun _ zone false] at ran'
  cases target with
  | error error =>
      have dry := account_of_refused (connection.inDryRun true) ran
      have live := account_of_refused (connection.inDryRun false) ran'
      rw [dry, live]
      exact ⟨.refused gets, rfl⟩
  | ok target =>
      have dry : (connection.inDryRun true).account network (.write zone action) session =
          (⟨.write zone action, .ok (), asked⟩, ⟨after, known⟩) :=
        account_of_target (connection.inDryRun true) ran rfl
      have live := account_of_target (connection.inDryRun false) ran'
        (run_send rfl (writeRequest action target) _ known after' asked)
      rw [dry, live]
      exact ⟨.written gets (writeMethod_ne_get action), rfl⟩

/-- What the two say of a call goes side by side, and they remember the same of zones. -/
theorem mirrors_of_call (call : Call) :
    Mirrors ((connection.inDryRun true).account network call session).1
        ((connection.inDryRun false).account network call other).1 ∧
      ((connection.inDryRun true).account network call session).2.zoneIds =
        ((connection.inDryRun false).account network call other).2.zoneIds := by
  by_cases reading : ∀ zone action, call ≠ .write zone action
  · obtain ⟨result, asked, after, after', gets, ran, ran'⟩ :=
      exists_run_of_reading settled connection same reading
    have dry := account_eq_of_run (connection.inDryRun true) ran
    have live := account_eq_of_run (connection.inDryRun false) ran'
    rw [dry, live]
    exact ⟨.read reading gets, rfl⟩
  · simp only [ne_eq, not_forall, not_not] at reading
    obtain ⟨zone, action, rfl⟩ := reading
    exact mirrors_of_write settled connection same zone action

theorem forall₂_mirrors (calls : List Call) :
    List.Forall₂ Mirrors ((connection.inDryRun true).accounts network calls session).1
        ((connection.inDryRun false).accounts network calls other).1 ∧
      ((connection.inDryRun true).accounts network calls session).2.zoneIds =
        ((connection.inDryRun false).accounts network calls other).2.zoneIds := by
  induction calls generalizing session other with
  | nil => exact ⟨.nil, same⟩
  | cons call calls ih =>
      obtain ⟨first, same⟩ := mirrors_of_call settled connection same call
      obtain ⟨others, same⟩ := ih same
      exact ⟨.cons first others, same⟩

end Calls

theorem calls_of_accounts (connection : Connection) (calls : List Call) (session : Session ω) :
    (connection.accounts network calls session).1.map Account.call = calls := by
  induction calls generalizing session with
  | nil => rfl
  | cons call calls ih => exact congrArg (call :: ·) (ih _)

/-! ## Planning -/

section Plans

variable {connection : Connection} {providers providers' : Dict (Provider (Session ω))}
variable {zone : Zone}

/-- The two engines make plans in the same way, since providers decide the same on their own. -/
theorem plan_inDryRun {dryRun dryRun' : Bool} (settings : EngineSettings) (matcher : LabelMatcher)
    (served : providers.get? zone.provider = some ((connection.inDryRun dryRun).provider network))
    (served' : providers'.get? zone.provider =
      some ((connection.inDryRun dryRun').provider network)) :
    (Engine.ofProviders providers settings matcher).plan zone =
      (Engine.ofProviders providers' settings matcher).plan zone := by
  simp only [Engine.plan]
  rw [adapter_ofProviders, adapter_ofProviders, served, served']
  rfl

/-- A call that planning makes is answered alike if the two remember the same of zones. -/
theorem answers_alike (settled : Settled network)
    (served : providers.get? zone.provider = some ((connection.inDryRun true).provider network))
    (served' : providers'.get? zone.provider =
      some ((connection.inDryRun false).provider network))
    {effect : Effect} (reads : effect.ReadsFrom zone.provider)
    {state state' : Surroundings (Session ω)}
    (same : state.services.zoneIds = state'.services.zoneIds) :
    (Surroundings.answer providers effect state).1 =
        (Surroundings.answer providers' effect state').1 ∧
      (Surroundings.answer providers effect state).2.services.zoneIds =
        (Surroundings.answer providers' effect state').2.services.zoneIds := by
  cases effect with
  | emit event => exact ⟨rfl, same⟩
  | warn text => exact ⟨rfl, same⟩
  | call name call =>
      obtain ⟨rfl, reading⟩ := reads
      obtain ⟨result, asked, after, after', -, ran, ran'⟩ :=
        exists_run_of_reading settled connection same reading
      have dry := answer_eq_of_run (connection.inDryRun true) ran
      have live := answer_eq_of_run (connection.inDryRun false) ran'
      have first : Surroundings.answer providers (.call zone.provider call) state =
          (result.1, { state with services := ⟨after, result.2⟩ }) := by
        rw [Surroundings.answer, served]
        dsimp only [Connection.provider]
        rw [dry]
      have second : Surroundings.answer providers' (.call zone.provider call) state' =
          (result.1, { state' with services := ⟨after', result.2⟩ }) := by
        rw [Surroundings.answer, served']
        dsimp only [Connection.provider]
        rw [live]
      rw [first, second]
      exact ⟨rfl, rfl⟩

/-- Planning comes to the same if the two remember the same of zones. -/
theorem run_plan_eq (settled : Settled network) (settings : EngineSettings)
    (matcher : LabelMatcher) {state state' : Surroundings (Session ω)}
    (served : providers.get? zone.provider = some ((connection.inDryRun true).provider network))
    (served' : providers'.get? zone.provider =
      some ((connection.inDryRun false).provider network))
    (same : state.services.zoneIds = state'.services.zoneIds) :
    (Surroundings.run providers
        ((Engine.ofProviders providers settings matcher).plan zone) state).1 =
      (Surroundings.run providers'
        ((Engine.ofProviders providers' settings matcher).plan zone) state').1 := by
  rw [plan_inDryRun settings matcher served served']
  exact ((Engine.confined_plan _ zone).run_related
    (fun one two => one.services.zoneIds = two.services.zoneIds)
    (fun effect reads one two same => answers_alike settled served served' reads same) same).1

end Plans

/-- Whatever is asked of the two, a dry run sends nothing but GETs. The run that writes sends the
same and gets the same replies, and it sends one more request for each write that the dry run ends
with success; what is refused in the dry run is refused in it for the same reason. Afterwards the
two lead to the same plan for every zone. -/
theorem dry_runs_mirror_live_runs (settled : Settled network) (connection : Connection)
    (calls : List Call) (session : Session ω) :
    let dry := (connection.inDryRun true).accounts network calls session
    let live := (connection.inDryRun false).accounts network calls session
    dry.1.map Account.call = calls ∧ List.Forall₂ Mirrors dry.1 live.1 ∧
      ∀ (providers providers' : Dict (Provider (Session ω))) (settings : EngineSettings)
          (matcher : LabelMatcher) (zone : Zone) (state state' : Surroundings (Session ω)),
        providers.get? zone.provider = some ((connection.inDryRun true).provider network) →
          providers'.get? zone.provider = some ((connection.inDryRun false).provider network) →
            state.services = dry.2 → state'.services = live.2 →
              (Surroundings.run providers
                  ((Engine.ofProviders providers settings matcher).plan zone) state).1 =
                (Surroundings.run providers'
                  ((Engine.ofProviders providers' settings matcher).plan zone) state').1 := by
  obtain ⟨mirrors, same⟩ := forall₂_mirrors settled connection (rfl : session.zoneIds = _) calls
  refine ⟨calls_of_accounts _ calls session, mirrors, ?_⟩
  intro providers providers' settings matcher zone state state' served served' start start'
  exact run_plan_eq settled settings matcher served served' (by rw [start, start', same])

/-! ## Switching a feature twice -/

/-- A service that has one zone with one record and counts what it is sent besides GETs. It has
enough after the first. -/
def impatientService (message : Http.Message) (count : Nat) : Http.Reply × Nat :=
  let listed := "\x7b\"success\":true,\"result\":[\x7b\"id\":\"z\",\"name\":\"a.org\"," ++
    "\"type\":\"A\",\"content\":\"192.0.2.1\",\"ttl\":1\x7d]\x7d"
  if message.method = .get then (.response 200 listed, count)
  else if count = 0 then (.response 200 listed, 1)
  else (.response 429 "", count + 1)

theorem settled_impatientService : Settled impatientService := by
  intro message get state other
  simp only [impatientService, get, if_true]

/-- A connection to it. -/
def impatientConnection : Connection :=
  ⟨{}, .ofAddress "http://h" "t"⟩

/-- A feature that there is, one that there is not, and the first one again. -/
def featureCalls : List Call := [
  .write "a.org" (.toggle universalSslFeature true), .write "a.org" (.toggle "other" true),
  .write "a.org" (.toggle universalSslFeature false)]

/-- What comes of these calls, and the session after them. -/
def featureAccounts (dryRun : Bool) : List Account × Session Nat :=
  (impatientConnection.inDryRun dryRun).accounts impatientService featureCalls ⟨0, Dict.empty⟩

/-- The methods of the requests that are sent for each call. -/
def sentMethods (dryRun : Bool) : List (List Http.Method) :=
  (featureAccounts dryRun).1.map fun account => account.asked.map fun exchange => exchange.1.method

/-- The plan for the zone after these calls. -/
def planAfter (dryRun : Bool) : Except Error ZonePlan :=
  let providers :=
    Dict.empty.insert "cloudflare" ((impatientConnection.inDryRun dryRun).provider impatientService)
  (Surroundings.run providers
    ((Engine.ofProviders providers {} .glob).plan { name := "a.org", provider := "cloudflare" })
    ⟨(featureAccounts dryRun).2, .ofCapacity 1, []⟩).1

/-- The zone is looked up once, and the feature is switched twice if this is no dry run. Either way
the record is to be deleted. -/
theorem dry_runs_mirror_live_runs_of_features :
    sentMethods true = [[.get], [], []] ∧ sentMethods false = [[.get, .patch], [], [.patch]] ∧
      List.Forall₂ Mirrors (featureAccounts true).1 (featureAccounts false).1 ∧
      (planAfter true).toOption.map (fun plan => plan.corrections.length) = some 1 ∧
      planAfter true = planAfter false := by
  obtain ⟨-, mirrors, plans⟩ := dry_runs_mirror_live_runs settled_impatientService
    impatientConnection featureCalls ⟨0, Dict.empty⟩
  exact ⟨by decide +kernel, by decide +kernel, mirrors, by decide +kernel,
    plans _ _ {} .glob _ _ _ (by simp) (by simp) rfl rfl⟩

end DnsReconcile.Cloudflare
