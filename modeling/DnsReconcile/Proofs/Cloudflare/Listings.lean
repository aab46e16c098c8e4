/-
# What Cloudflare lists

The records of a zone are read off what Cloudflare lists, and a listing may be refused at any step.
If it is not, each step was carried out in the session that the steps before it left, so every
entry that was listed stands for one of the records. Only a start of authority is passed over.
-/

import DnsReconcile.Cloudflare.Provider
import DnsReconcile.Proofs.Refusals

namespace DnsReconcile.Cloudflare

/-! ## Steps -/

section Steps

variable {ω α β : Type} {connection : Connection}
variable {network : Http.Message → ω → Http.Reply × ω}
variable {session after : Session ω}

/-- The second of two steps is taken only if the first one is not refused. -/
theorem run_bind_client {handle : Http.Request → ω → Http.Reply × ω}
    (task : ClientM α) (next : α → ClientM β) (known : ZoneIds) (state : ω) :
    ((task >>= next).run.run known).run handle state =
      match (task.run.run known).run handle state with
      | ((.ok result, known), after) => ((next result).run.run known).run handle after
      | ((.error error, known), after) => ((.error error, known), after) := by
  rw [ExceptT.run_bind, StateT.run_bind, Program.run_bind]
  rcases (task.run.run known).run handle state with ⟨⟨error | result, known⟩, after⟩
  · rfl
  · rfl

/-- Carry a computation out over a network. -/
def Connection.carry (connection : Connection) (network : Http.Message → ω → Http.Reply × ω)
    (task : ClientM α) (session : Session ω) : Except Error α × Session ω :=
  let ((result, zoneIds), state) :=
    (task.run.run session.zoneIds).run (connection.endpoint.send network) session.network
  (result, ⟨state, zoneIds⟩)

theorem carry_pure (result : α) :
    connection.carry network (pure result) session = (.ok result, session) := rfl

theorem carry_ofExcept (result : Except Error α) :
    connection.carry network (ClientM.ofExcept result) session = (result, session) := rfl

/-- The second of two steps starts where the first one has ended. -/
theorem carry_bind (task : ClientM α) (next : α → ClientM β) :
    connection.carry network (task >>= next) session =
      match connection.carry network task session with
      | (.ok result, middle) => connection.carry network (next result) middle
      | (.error error, middle) => (.error error, middle) := by
  simp only [Connection.carry, run_bind_client]
  rcases (task.run.run session.zoneIds).run (connection.endpoint.send network) session.network with
    ⟨⟨error | result, zoneIds⟩, state⟩
  · rfl
  · rfl

/-- Two steps succeed if the second one does where the first one has ended. -/
theorem carry_bind_eq_ok_iff {task : ClientM α} {next : α → ClientM β} {result : β} :
    connection.carry network (task >>= next) session = (.ok result, after) ↔
      ∃ first middle, connection.carry network task session = (.ok first, middle) ∧
        connection.carry network (next first) middle = (.ok result, after) := by
  rw [carry_bind]
  rcases connection.carry network task session with ⟨error | first, middle⟩
  · simp
  · simp only [Prod.mk.injEq, Except.ok.injEq, and_assoc, exists_and_left, exists_eq_left']

end Steps

/-! ## Listed entries -/

/-- The entries that Cloudflare lists for a zone. -/
def Client.listEntries (client : Client) (zone : String) : ClientM (List Entry) := do
  let zoneId ← client.zoneId zone
  listAll Entry.shape.read (collectionPath zoneId .a)

variable {ω : Type} {connection : Connection}
variable {network : Http.Message → ω → Http.Reply × ω}
variable {session : Session ω} {zone : String} {observed : List Record}

/-- The records that are read off a listing are those of its entries, and possibly rules and
routes. -/
theorem exists_listed_of_fetch
    (fetched : (connection.answer network (.fetch zone) session).1 = .ok observed) :
    ∃ entries,
      (connection.carry network (connection.client.listEntries zone) session).1 = .ok entries ∧
        ∀ entry ∈ entries, entry.type ≠ "SOA" →
          ∃ stored ∈ observed, entry.toRecord zone = .ok stored := by
  have fetched : (connection.carry network (connection.client.fetch zone) session).1 =
      .ok observed := fetched
  have whole := Prod.ext (y := (Except.ok observed, _)) fetched rfl
  rw [Client.fetch] at whole
  obtain ⟨zoneId, found, known, later⟩ := carry_bind_eq_ok_iff.1 whole
  obtain ⟨records, _, read, later⟩ := carry_bind_eq_ok_iff.1 later
  obtain ⟨forwardings, _, -, later⟩ := carry_bind_eq_ok_iff.1 later
  obtain ⟨routes, _, -, result⟩ := carry_bind_eq_ok_iff.1 later
  obtain ⟨entries, listed, all, kept⟩ := carry_bind_eq_ok_iff.1 read
  have own : connection.carry network (connection.client.listEntries zone) session =
      (.ok entries, listed) :=
    carry_bind_eq_ok_iff.2 ⟨zoneId, found, known, all⟩
  refine ⟨entries, congrArg Prod.fst own, fun entry member other => ?_⟩
  rw [carry_ofExcept] at kept
  have each := (Prod.mk.inj kept).1
  rw [carry_pure] at result
  obtain rfl := Except.ok.inj (Prod.mk.inj result).1
  have served : entry ∈ entries.filter (·.type != "SOA") :=
    List.mem_filter.2 ⟨member, bne_iff_ne.2 other⟩
  obtain ⟨stored, made⟩ := exists_mapM_eq_ok_iff.1 ⟨records, each⟩ entry served
  refine ⟨stored, ?_, made⟩
  exact List.mem_append_left _ (List.mem_append_left _
    ((mem_mapM_iff each).2 ⟨entry, served, made⟩))

end DnsReconcile.Cloudflare
