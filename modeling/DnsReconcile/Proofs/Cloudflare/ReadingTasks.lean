/-
# Tasks that only read

Most of what a client does is reading: it lists, it looks zones up, and it finds out where a write
goes and what it says. All of this asks with GET, whatever the replies are, and nothing of it
depends on whether this is a dry run. Only the last step of a write is different.
-/

import DnsReconcile.Cloudflare.Provider
import DnsReconcile.Proofs.Engine.Transcripts

namespace DnsReconcile.Cloudflare

open Json

variable {α β : Type} {client : Client} {zone : String}

/-! ## Reading -/

/-- Whatever the replies are, the task asks with GET only. -/
def OnlyReads (task : ClientM α) : Prop :=
  ∀ known, (task.run.run known).Confined fun request => request.method = .get

theorem onlyReads_ofExcept (result : Except Error α) : OnlyReads (ClientM.ofExcept result) :=
  fun _ => trivial

theorem onlyReads_pure (result : α) : OnlyReads (pure result) :=
  fun _ => trivial

theorem onlyReads_throw (error : Error) : OnlyReads (throw error : ClientM α) :=
  fun _ => trivial

theorem onlyReads_get : OnlyReads (get : ClientM ZoneIds) :=
  fun _ => trivial

theorem onlyReads_modify (change : ZoneIds → ZoneIds) :
    OnlyReads (modify change : ClientM PUnit) :=
  fun _ => trivial

theorem OnlyReads.bind {task : ClientM α} {next : α → ClientM β} (first : OnlyReads task)
    (second : ∀ result, OnlyReads (next result)) : OnlyReads (task >>= next) := by
  intro known
  rw [ExceptT.run_bind, StateT.run_bind]
  refine (first known).bind ?_
  rintro ⟨error | result, known⟩
  · trivial
  · exact second result known

theorem onlyReads_call {read : Reader α} {request : Http.Request} (get : request.method = .get) :
    OnlyReads (call read request) :=
  fun _ => ⟨get, fun _ => trivial⟩

theorem onlyReads_listFrom (read : Reader α) (path : String) (limit : Nat) (page : UInt32) :
    OnlyReads (listFrom read path limit page) := by
  induction limit generalizing page with
  | zero => exact onlyReads_throw _
  | succ limit ih =>
      refine (onlyReads_call rfl).bind fun envelope => ?_
      dsimp only
      split
      · exact onlyReads_pure _
      · exact (ih _).bind fun _ => onlyReads_pure _

theorem onlyReads_listOnce (read : Reader α) (path : String) : OnlyReads (listOnce read path) :=
  (onlyReads_call rfl).bind fun _ => onlyReads_pure _

theorem onlyReads_zoneId : OnlyReads (client.zoneId zone) := by
  refine onlyReads_get.bind fun known => ?_
  split
  · exact onlyReads_pure _
  · refine OnlyReads.bind ?_ fun _ => (onlyReads_modify _).bind fun _ => onlyReads_pure _
    refine (onlyReads_call rfl).bind fun envelope => ?_
    dsimp only
    split
    · exact onlyReads_pure _
    · exact onlyReads_throw _

theorem onlyReads_fetch : OnlyReads (client.fetch zone) := by
  have entries (zoneId : String) : OnlyReads (Client.fetchEntries zone zoneId) :=
    (onlyReads_listFrom _ _ _ _).bind fun _ => onlyReads_ofExcept _
  have forwardings (zoneId : String) : OnlyReads (client.fetchForwardings zoneId) := by
    unfold Client.fetchForwardings
    split
    · exact (onlyReads_listOnce _ _).bind fun _ => onlyReads_pure _
    · exact onlyReads_pure _
  have routes (zoneId : String) : OnlyReads (client.fetchRoutes zoneId) := by
    unfold Client.fetchRoutes
    split
    · exact (onlyReads_listOnce _ _).bind fun _ => onlyReads_pure _
    · exact onlyReads_pure _
  exact onlyReads_zoneId.bind fun zoneId => (entries zoneId).bind fun _ =>
    (forwardings zoneId).bind fun _ => (routes zoneId).bind fun _ => onlyReads_pure _

theorem onlyReads_fetchFeatures : OnlyReads (client.fetchFeatures zone) := by
  refine onlyReads_zoneId.bind fun zoneId => (onlyReads_call rfl).bind fun envelope => ?_
  split <;> exact onlyReads_pure _

/-! ## Writing -/

/-- Where the request that carries out an action goes, and what it says. -/
def Client.target (client : Client) (zone : String) : Action → ClientM (String × Option Json)
  | .create record => do
      let zoneId ← client.zoneId zone
      let body ← ClientM.ofExcept (recordBody zone record (wantsProxy record))
      return (collectionPath zoneId record.type, some body)
  | .modify existing desired => do
      let zoneId ← client.zoneId zone
      let id ← ClientM.ofExcept (recordId existing)
      let body ← ClientM.ofExcept
        (recordBody zone desired (mayProxy existing && wantsProxy desired))
      return (recordPath zoneId desired.type id, some body)
  | .delete record => do
      let zoneId ← client.zoneId zone
      let id ← ClientM.ofExcept (recordId record)
      return (recordPath zoneId record.type id, none)
  | .toggle feature enabled =>
      if feature ≠ universalSslFeature then
        throw (.unsupported ("Cloudflare has no feature '" ++ feature ++ "'"))
      else do
        let zoneId ← client.zoneId zone
        return (sslPath zoneId, some (.ofMembers [("enabled", .bool enabled)]))

/-- How an action is carried out. -/
def writeMethod : Action → Http.Method
  | .create _ => .post
  | .modify .. => .put
  | .delete _ => .delete
  | .toggle .. => .patch

theorem writeMethod_ne_get (action : Action) : writeMethod action ≠ .get := by
  cases action <;> exact nofun

/-- The request that carries out an action, given where it goes and what it says. -/
def writeRequest (action : Action) (target : String × Option Json) : Http.Request where
  method := writeMethod action
  path := target.1
  body := target.2

/-- Carrying out an action is finding out what to send and sending it. -/
theorem write_eq (client : Client) (zone : String) (action : Action) :
    client.write zone action =
      client.target zone action >>= fun target => client.send (writeRequest action target) := by
  cases action with
  | create record =>
      simp only [Client.write, Client.create, Client.target, bind_assoc, pure_bind]
      rfl
  | modify existing desired =>
      simp only [Client.write, Client.update, Client.target, bind_assoc, pure_bind]
      rfl
  | delete record =>
      simp only [Client.write, Client.delete, Client.target, bind_assoc, pure_bind]
      rfl
  | toggle feature enabled =>
      simp only [Client.write, Client.setFeature, Client.target]
      split
      · rfl
      · simp only [bind_assoc, pure_bind]
        rfl

theorem onlyReads_target (action : Action) : OnlyReads (client.target zone action) := by
  cases action with
  | create record =>
      exact onlyReads_zoneId.bind fun _ => (onlyReads_ofExcept _).bind fun _ => onlyReads_pure _
  | modify existing desired =>
      exact onlyReads_zoneId.bind fun _ => (onlyReads_ofExcept _).bind fun _ =>
        (onlyReads_ofExcept _).bind fun _ => onlyReads_pure _
  | delete record =>
      exact onlyReads_zoneId.bind fun _ => (onlyReads_ofExcept _).bind fun _ => onlyReads_pure _
  | toggle feature enabled =>
      simp only [Client.target]
      split
      · exact onlyReads_throw _
      · exact onlyReads_zoneId.bind fun _ => onlyReads_pure _

/-! ## Dry runs -/

section DryRuns

variable (client : Client) (zone : String) (dryRun : Bool)

/-- The same client in a dry run, or in a run that writes. -/
def Client.inDryRun : Client :=
  { client with dryRun }

theorem zoneId_inDryRun : (client.inDryRun dryRun).zoneId zone = client.zoneId zone := rfl

theorem fetch_inDryRun : (client.inDryRun dryRun).fetch zone = client.fetch zone := by
  have forwardings (zoneId : String) :
      (client.inDryRun dryRun).fetchForwardings zoneId = client.fetchForwardings zoneId := rfl
  have routes (zoneId : String) :
      (client.inDryRun dryRun).fetchRoutes zoneId = client.fetchRoutes zoneId := rfl
  simp only [Client.fetch, zoneId_inDryRun, forwardings, routes]

theorem fetchFeatures_inDryRun :
    (client.inDryRun dryRun).fetchFeatures zone = client.fetchFeatures zone := by
  rw [Client.fetchFeatures, Client.fetchFeatures, zoneId_inDryRun]

theorem target_inDryRun (action : Action) :
    (client.inDryRun dryRun).target zone action = client.target zone action := by
  cases action <;> simp only [Client.target, zoneId_inDryRun]

end DryRuns

end DnsReconcile.Cloudflare
