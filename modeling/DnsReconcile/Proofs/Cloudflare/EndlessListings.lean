/-
# Listings without an end

Which page of a listing comes next is up to the service: it follows the one that the reply names,
and not the one that was asked for. A reply that names an earlier page, or none at all, may lead
back, and as nothing is remembered of the pages before, a page that leads back once does so for
ever. There are only finitely many pages, so a listing comes to an end unless this happens, and
then it asks for each of its pages once.
-/

import DnsReconcile.Proofs.Cloudflare.ListedPages
import Mathlib.Data.Fintype.Card
import Mathlib.Data.Fintype.EquivFin
import Mathlib.Data.List.Iterate
import Mathlib.Logic.Relation

namespace DnsReconcile.Cloudflare

open Json Relation

section Endings

variable {α : Type} {read : Reader α} {path : String} {service : Http.Request → Http.Reply}
variable {page : UInt32} {pages others : List UInt32} {result : Except Error (List α)}

variable (read path service) in
/-- A page is answered with items, and there is one to come next. -/
def Leads (page next : UInt32) : Prop :=
  ∃ items, turn read path service page = .ok (items, some next)

variable (read path service) in
/-- Reading comes to an end from a page on. -/
def Ends (page : UInt32) : Prop :=
  ∃ pages result, Reads read path service page pages result

theorem Leads.ends {next : UInt32} (leads : Leads read path service page next)
    (ends : Ends read path service next) : Ends read path service page := by
  obtain ⟨items, leads⟩ := leads
  obtain ⟨pages, result, reads⟩ := ends
  exact ⟨_, _, .more leads reads⟩

/-- A page after which reading comes to no end leads to another such page. -/
theorem exists_leads_of_not_ends (endless : ¬Ends read path service page) :
    ∃ next, Leads read path service page next ∧ ¬Ends read path service next := by
  cases answered : turn read path service page with
  | error error => exact absurd ⟨_, _, .refused answered⟩ endless
  | ok answer =>
      obtain ⟨items, _ | next⟩ := answer
      · exact absurd ⟨_, _, .last answered⟩ endless
      · have leads : Leads read path service page next := ⟨items, answered⟩
        exact ⟨next, leads, fun ends => endless (leads.ends ends)⟩

/-- The page that comes next is where the rest of the pages starts. -/
theorem Reads.of_leads {next : UInt32} (reads : Reads read path service page pages result)
    (leads : Leads read path service page next) :
    ∃ rest result, pages = page :: rest ∧ Reads read path service next rest result := by
  obtain ⟨items, leads⟩ := leads
  cases reads with
  | refused failed => cases leads.symm.trans failed
  | last ends => cases leads.symm.trans ends
  | more leads' later =>
      cases leads.symm.trans leads'
      exact ⟨_, _, rfl, later⟩

theorem Reads.eq (reads : Reads read path service page pages result)
    {result' : Except Error (List α)} (reads' : Reads read path service page others result') :
    pages = others := by
  induction reads generalizing others result' with
  | refused failed =>
      cases reads' with
      | refused _ => rfl
      | last ends => cases failed.symm.trans ends
      | more leads _ => cases failed.symm.trans leads
  | last ends =>
      cases reads' with
      | refused failed => cases ends.symm.trans failed
      | last _ => rfl
      | more leads _ => cases ends.symm.trans leads
  | more leads later ih =>
      obtain ⟨rest, result, rfl, later'⟩ := reads'.of_leads ⟨_, leads⟩
      rw [ih later']

/-- The pages read from a page that is reached are the last ones of those read before. -/
theorem Reads.of_reached {next : UInt32} (reads : Reads read path service page pages result)
    (reached : TransGen (Leads read path service) page next) :
    ∃ rest result, rest.length < pages.length ∧ Reads read path service next rest result := by
  induction reached with
  | single leads =>
      obtain ⟨rest, result, rfl, later⟩ := reads.of_leads leads
      exact ⟨rest, result, Nat.lt_succ_self _, later⟩
  | tail before leads ih =>
      obtain ⟨rest, result, shorter, later⟩ := ih
      obtain ⟨last, result, rfl, latest⟩ := later.of_leads leads
      exact ⟨last, result, (Nat.lt_succ_self _).trans shorter, latest⟩

/-- A page after which reading comes to an end is not reached from itself. -/
theorem Reads.not_returns (reads : Reads read path service page pages result) :
    ¬TransGen (Leads read path service) page page := by
  intro returns
  obtain ⟨rest, result, shorter, again⟩ := reads.of_reached returns
  exact Nat.lt_irrefl _ (reads.eq again ▸ shorter)

theorem Reads.reached_of_mem {next : UInt32} (reads : Reads read path service page pages result)
    (member : next ∈ pages) : ReflTransGen (Leads read path service) page next := by
  induction reads with
  | refused failed => exact List.mem_singleton.1 member ▸ .refl
  | last ends => exact List.mem_singleton.1 member ▸ .refl
  | more leads later ih =>
      rcases List.mem_cons.1 member with rfl | member
      · exact .refl
      · exact .head ⟨_, leads⟩ (ih member)

theorem Reads.nodup (reads : Reads read path service page pages result) : pages.Nodup := by
  induction reads with
  | refused failed => exact List.nodup_singleton _
  | last ends => exact List.nodup_singleton _
  | more leads later ih =>
      refine List.nodup_cons.2 ⟨fun member => ?_, ih⟩
      exact (Reads.more leads later).not_returns
        (.head' ⟨_, leads⟩ (later.reached_of_mem member))

/-- Where no page is ahead of itself, the pages can be taken from the last ones back. -/
theorem wellFounded_of_forall_not_transGen {before : UInt32 → UInt32 → Prop}
    (forward : ∀ page, ¬TransGen before page page) : WellFounded before := by
  have finite : Finite UInt32 := Finite.of_injective UInt32.toFin fun _ _ => UInt32.toFin_inj.1
  have irrefl : Std.Irrefl (TransGen before) := ⟨forward⟩
  exact Subrelation.wf TransGen.single (Finite.wellFounded_of_trans_of_irrefl (TransGen before))

/-- Reading comes to an end from a page on exactly if no page that it comes to leads back to
itself. -/
theorem ends_iff {first : UInt32} :
    Ends read path service first ↔
      ∀ page, ReflTransGen (Leads read path service) first page →
        ¬TransGen (Leads read path service) page page := by
  apply Iff.intro
  · rintro ⟨pages, result, reads⟩ page reached
    rcases reflTransGen_iff_eq_or_transGen.1 reached with rfl | reached
    · exact reads.not_returns
    · obtain ⟨rest, result, -, later⟩ := reads.of_reached reached
      exact later.not_returns
  · intro forward
    let Passes (next page : UInt32) : Prop :=
      ReflTransGen (Leads read path service) first page ∧ Leads read path service page next
    have wellFounded : WellFounded Passes := by
      refine wellFounded_of_forall_not_transGen fun page returns => ?_
      obtain ⟨-, -, reached, -⟩ := TransGen.tail'_iff.1 returns
      have leads_back := TransGen.mono (fun _ _ passes => passes.2) _ _ returns
      exact forward page reached (transGen_swap.1 leads_back)
    have ends (page : UInt32) (reached : ReflTransGen (Leads read path service) first page) :
        Ends read path service page := by
      induction page using wellFounded.induction with
      | _ page ih =>
          by_contra endless
          obtain ⟨next, leads, endless'⟩ := exists_leads_of_not_ends endless
          exact endless' (ih next ⟨reached, leads⟩ (reached.tail leads))
    exact ends first .refl

/-- As long as pages lead on, no limit is enough. -/
theorem gives_endless {On : UInt32 → Prop} {next : UInt32 → UInt32}
    (leads : ∀ page, On page → Leads read path service page (next page) ∧ On (next page))
    (on : On page) (limit : Nat) :
    Gives service (listFrom read path limit page) (.error (endlessListing path))
      ((List.iterate next page limit).map (pageRequest path)) := by
  induction limit generalizing page with
  | zero => exact gives_throw _
  | succ limit ih =>
      obtain ⟨⟨items, leads⟩, later⟩ := leads page on
      obtain ⟨envelope, opened, -, goes_on⟩ := turn_eq_ok_iff.1 leads
      refine (gives_call opened).bind ?_
      dsimp only
      rw [goes_on]
      exact (ih later).bind_of_error

end Endings

section Listing

variable {α : Type} (read : Reader α) (path : String) (service : Http.Request → Http.Reply)

/-- A listing asks for no page twice and ends in a result, however many pages it may have. -/
def ListsOnce : Prop :=
  ∃ (pages : List UInt32) (result : Except Error (List α)),
    pages.Nodup ∧ pages.length ≤ pageLimit ∧ ∀ limit, pages.length ≤ limit →
    Gives service (listFrom read path limit 1) result (pages.map (pageRequest path))

variable {read path service}

/-- Two listings that give something give it after as many requests. -/
theorem Gives.length_eq {task : ClientM α} {one two : Except Error α}
    {asked others : List Http.Request} (gives : Gives service task one asked)
    (gives' : Gives service task two others) : asked.length = others.length := by
  have same := (Prod.mk.inj ((gives Dict.empty []).symm.trans (gives' Dict.empty []))).2
  simpa using congrArg List.length same

/-- A listing that comes to no end goes on from page to page, each of which tells the next one. -/
theorem exists_next_of_not_ends (endless : ¬Ends read path service 1) :
    ∃ next : UInt32 → UInt32, ∀ limit,
      Gives service (listFrom read path limit 1) (.error (endlessListing path))
        ((List.iterate next 1 limit).map (pageRequest path)) := by
  have leads_on : ∀ page, ¬Ends read path service page →
      ∃ next, Leads read path service page next ∧ ¬Ends read path service next :=
    fun _ => exists_leads_of_not_ends
  choose! next leads using leads_on
  exact ⟨next, gives_endless leads endless⟩

theorem listsOnce_iff_ends : ListsOnce read path service ↔ Ends read path service 1 := by
  apply Iff.intro
  · rintro ⟨pages, result, -, -, gives⟩
    by_contra endless
    obtain ⟨next, unending⟩ := exists_next_of_not_ends endless
    -- With room for one page more, one more would be asked for.
    have more := (gives (pages.length + 1) (Nat.le_succ _)).length_eq (unending (pages.length + 1))
    rw [List.length_map, List.length_map, List.length_iterate] at more
    exact Nat.succ_ne_self _ more.symm
  · rintro ⟨pages, result, reads⟩
    refine ⟨pages, result, reads.nodup, ?_, fun limit room => reads.gives_listFrom room⟩
    have distinct : (pages.map UInt32.toFin).Nodup :=
      reads.nodup.map fun _ _ => UInt32.toFin_inj.1
    simpa [pageLimit] using distinct.length_le_card

/-- A listing asks for no page twice and ends exactly if no page that it comes to leads back to
itself, as it is if every page leads to a later one only. Otherwise it goes round for ever. -/
theorem listing_ends_unless_page_returns {α : Type} {read : Reader α} {path : String}
    {service : Http.Request → Http.Reply} :
    (ListsOnce read path service ↔
      ∀ page, ReflTransGen (Leads read path service) 1 page →
        ¬TransGen (Leads read path service) page page) ∧
    (∀ page, ReflTransGen (Leads read path service) 1 page →
      TransGen (Leads read path service) page page →
        ∃ next : UInt32 → UInt32, ∀ limit,
          Gives service (listFrom read path limit 1) (.error (endlessListing path))
            ((List.iterate next 1 limit).map (pageRequest path))) ∧
    ((∀ page next, Leads read path service page next → page < next) →
      ListsOnce read path service) := by
  refine ⟨listsOnce_iff_ends.trans ends_iff, fun page reached returns => ?_, fun later => ?_⟩
  · exact exists_next_of_not_ends fun ends => ends_iff.1 ends page reached returns
  · refine listsOnce_iff_ends.2 (ends_iff.2 fun page _ returns => ?_)
    have trans : IsTrans UInt32 (· < ·) := ⟨fun _ _ _ => UInt32.lt_trans⟩
    exact UInt32.lt_irrefl page (transGen_minimal later _ _ returns)

end Listing

/-! ## Pages without a place -/

/-- A page of a listing of two that does not tell which one it is. -/
def placelessPage : String :=
  "\x7b\"success\":true,\"result\":[],\"result_info\":\x7b\"total_pages\":2\x7d\x7d"

/-- A service that answers everything with it. -/
def placelessService (_ : Http.Request) : Http.Reply :=
  .response 200 placelessPage

theorem exists_read_placelessPage :
    ∃ envelope : Envelope (List String),
      (∀ request, Envelope.ofReply (Reader.list Reader.text) "/words" (placelessService request) =
        .ok envelope) ∧
      envelope.paging = some ⟨0, 2⟩ := by
  have known : (Envelope.read? (Reader.list Reader.text) placelessPage).map (fun envelope =>
      (envelope.success, envelope.paging)) = some (true, some ⟨0, 2⟩) := by
    decide +kernel
  obtain ⟨envelope, decoded, parts⟩ := Option.map_eq_some_iff.1 known
  obtain ⟨success, placed⟩ := Prod.mk.inj parts
  exact ⟨envelope, fun _ => by simp [placelessService, Envelope.ofReply, decoded, success,
    Http.Status.isSuccess], placed⟩

/-- The first page leads to itself. -/
theorem leads_placelessService : Leads Reader.text "/words" placelessService 1 1 := by
  obtain ⟨envelope, opened, placed⟩ := exists_read_placelessPage
  exact ⟨_, turn_eq_ok_iff.2 ⟨envelope, opened _, rfl, by rw [placed]; rfl⟩⟩

theorem placeless_listing_never_ends :
    (∀ page, ∃ envelope, Envelope.ofReply (Reader.list Reader.text) "/words"
      (placelessService (pageRequest "/words" page)) = .ok envelope) ∧
    ¬ListsOnce Reader.text "/words" placelessService ∧
    ∀ limit, Gives placelessService (listFrom Reader.text "/words" limit 1)
      (.error (endlessListing "/words")) (List.replicate limit (pageRequest "/words" 1)) := by
  refine ⟨fun page => ?_, fun once => ?_, fun limit => ?_⟩
  · obtain ⟨envelope, opened, -⟩ := exists_read_placelessPage
    exact ⟨envelope, opened _⟩
  · exact ends_iff.1 (listsOnce_iff_ends.1 once) 1 .refl (.single leads_placelessService)
  · have stays : ∀ page : UInt32, page = 1 →
        Leads Reader.text "/words" placelessService page (id page) ∧ id page = 1 := by
      rintro page rfl
      exact ⟨leads_placelessService, rfl⟩
    have round := gives_endless stays rfl limit
    have pages : List.iterate id (1 : UInt32) limit = List.replicate limit 1 := by
      simp [List.eq_replicate_iff]
    rw [pages, List.map_replicate] at round
    exact round

end DnsReconcile.Cloudflare
