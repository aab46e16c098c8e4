/-
# Listings in pages

A listing is read page by page, and each reply says which page comes next. `Reads` says how that
goes on without any limit: it is given by the turns alone, one for each page. A limit on the
number of pages has no influence on a listing that ends within it. So if every page of a listing
is answered with its items and its place, all items are given, in order; and if a page is answered
with a failure, its error is given in their place and nothing is asked for after it.
-/

import DnsReconcile.Proofs.Cloudflare.Listings
import DnsReconcile.Proofs.Engine.Transcripts
import Mathlib.Logic.Basic
import Mathlib.Tactic.Choose

namespace DnsReconcile.Cloudflare

open Json

/-! ## Services -/

section Services

variable {α β : Type} {service : Http.Request → Http.Reply}

/-- With a service whose replies depend on the request alone, a computation ends in a result after
it has asked for certain things in order, whatever is known of zones. -/
def Gives (service : Http.Request → Http.Reply) (task : ClientM α) (result : Except Error α)
    (asked : List Http.Request) : Prop :=
  ∀ (known : ZoneIds) (past : List (Program.Exchange Http.Request fun _ => Http.Reply)),
    (task.run.run known).record (fun _ => service) past =
      ((result, known), past ++ asked.map fun request => ⟨request, service request⟩)

theorem gives_pure (result : α) : Gives service (pure result) (.ok result) [] :=
  fun known past => congrArg (Prod.mk (Except.ok result, known)) (List.append_nil past).symm

theorem gives_throw (error : Error) : Gives service (throw error : ClientM α) (.error error) [] :=
  fun known past => congrArg (Prod.mk (Except.error error, known)) (List.append_nil past).symm

theorem gives_call {read : Reader α} {request : Http.Request}
    {result : Except Error (Envelope α)}
    (opened : Envelope.ofReply read request.path (service request) = result) :
    Gives service (call read request) result [request] :=
  fun _ _ => opened ▸ rfl

/-- Two steps ask for what the first one does and then for what the second one does. -/
theorem Gives.bind {task : ClientM α} {next : α → ClientM β} {first : α}
    {result : Except Error β} {asked others : List Http.Request}
    (one : Gives service task (.ok first) asked) (two : Gives service (next first) result others) :
    Gives service (task >>= next) result (asked ++ others) := by
  intro known past
  have one := one known past
  have two := two known (past ++ asked.map fun request => ⟨request, service request⟩)
  simp only [Program.record] at one two ⊢
  rw [run_bind_client, one, List.map_append, ← List.append_assoc]
  exact two

/-- Nothing is asked for after a refusal. -/
theorem Gives.bind_of_error {task : ClientM α} {next : α → ClientM β} {error : Error}
    {asked : List Http.Request} (refused : Gives service task (.error error) asked) :
    Gives service (task >>= next) (.error error) asked := by
  intro known past
  have refused := refused known past
  simp only [Program.record] at refused ⊢
  rw [run_bind_client, refused]

end Services

/-! ## Turns -/

section Turns

variable {α : Type} (read : Reader α) (path : String) (service : Http.Request → Http.Reply)

/-- What a page gives: its items, and the page that comes next. -/
def turn (page : UInt32) : Except Error (List α × Option UInt32) :=
  (Envelope.ofReply (Reader.list read) path (service (pageRequest path page))).map fun envelope =>
    (envelope.result.getD [], envelope.paging.bind Paging.next?)

/-- Reading a listing from a page on comes to an end, after the listed pages. -/
inductive Reads : UInt32 → List UInt32 → Except Error (List α) → Prop where
  /-- A page that is refused ends the listing, and the items before it are given up. -/
  | refused {page : UInt32} {error : Error} (failed : turn read path service page = .error error) :
      Reads page [page] (.error error)
  | last {page : UInt32} {items : List α}
      (ends : turn read path service page = .ok (items, none)) : Reads page [page] (.ok items)
  | more {page next : UInt32} {items : List α} {pages : List UInt32}
      {result : Except Error (List α)}
      (leads : turn read path service page = .ok (items, some next))
      (later : Reads next pages result) :
      Reads page (page :: pages) (result.map fun others => items ++ others)

variable {read path service}

theorem turn_eq_error_iff {page : UInt32} {error : Error} :
    turn read path service page = .error error ↔
      Envelope.ofReply (Reader.list read) path (service (pageRequest path page)) =
        .error error := by
  rw [turn]
  cases Envelope.ofReply (Reader.list read) path (service (pageRequest path page)) <;>
    simp [Except.map]

theorem turn_eq_ok_iff {page : UInt32} {items : List α} {next : Option UInt32} :
    turn read path service page = .ok (items, next) ↔
      ∃ envelope : Envelope (List α),
        Envelope.ofReply (Reader.list read) path (service (pageRequest path page)) =
          .ok envelope ∧
        envelope.result.getD [] = items ∧ envelope.paging.bind Paging.next? = next := by
  rw [turn]
  cases Envelope.ofReply (Reader.list read) path (service (pageRequest path page)) <;>
    simp [Except.map]

/-- A limit that leaves room for all pages has no influence. -/
theorem Reads.gives_listFrom {page : UInt32} {pages : List UInt32} {result : Except Error (List α)}
    (reads : Reads read path service page pages result) {limit : Nat}
    (room : pages.length ≤ limit) :
    Gives service (listFrom read path limit page) result (pages.map (pageRequest path)) := by
  induction reads generalizing limit with
  | refused failed =>
      obtain ⟨limit, rfl⟩ := Nat.exists_eq_add_one.2 (Nat.lt_of_lt_of_le Nat.zero_lt_one room)
      exact (gives_call (turn_eq_error_iff.1 failed)).bind_of_error
  | last ends =>
      obtain ⟨limit, rfl⟩ := Nat.exists_eq_add_one.2 (Nat.lt_of_lt_of_le Nat.zero_lt_one room)
      obtain ⟨envelope, opened, rfl, stops⟩ := turn_eq_ok_iff.1 ends
      refine (gives_call opened).bind ?_
      dsimp only
      rw [stops]
      exact gives_pure _
  | @more page next items pages result leads later ih =>
      obtain ⟨limit, rfl⟩ := Nat.exists_eq_add_one.2 (Nat.lt_of_lt_of_le (Nat.succ_pos _) room)
      obtain ⟨envelope, opened, rfl, goes_on⟩ := turn_eq_ok_iff.1 leads
      have rest := ih (Nat.le_of_succ_le_succ room)
      refine (gives_call opened).bind ?_
      dsimp only
      rw [goes_on]
      cases result with
      | error error => exact rest.bind_of_error
      | ok others => exact List.append_nil (pages.map (pageRequest path)) ▸ rest.bind (gives_pure _)

/-- Pages that lead from one to the next give their items in front of what comes after them. -/
theorem Reads.behind {items : Nat → List α} {pages : List UInt32} {result : Except Error (List α)}
    {first count : Nat}
    (leads : ∀ number, first ≤ number → number < first + count →
      turn read path service number.toUInt32 = .ok (items number, some (number + 1).toUInt32))
    (later : Reads read path service (first + count).toUInt32 pages result) :
    Reads read path service first.toUInt32 ((List.range' first count).map Nat.toUInt32 ++ pages)
      (result.map fun others => (List.range' first count).flatMap items ++ others) := by
  induction count generalizing first with
  | zero =>
      have same : (result.map fun others => others) = result := by cases result <;> rfl
      simpa [same] using later
  | succ count ih =>
      have rest := @ih (first + 1)
        (fun number low high => leads number (by omega) (by omega)) (by rwa [Nat.add_right_comm])
      have whole := Reads.more (leads first (Nat.le_refl _) (by omega)) rest
      have joined : ((result.map fun others => (List.range' (first + 1) count).flatMap items ++
          others).map fun others => items first ++ others) =
          result.map fun others => (List.range' first (count + 1)).flatMap items ++ others := by
        cases result with
        | error error => rfl
        | ok others => simp [Except.map, List.range'_succ]
      rw [joined] at whole
      rw [List.range'_succ]
      exact whole

end Turns

/-! ## Complete listings -/

section Pages

variable {α : Type} {read : Reader α} {path : String} {total number : Nat}

/-- The request for a page, whatever its number. -/
def numberedRequest (path : String) (number : Nat) : Http.Request where
  method := .get
  path := path
  query := [("page", toString number), ("per_page", "100")]

/-- How a page of a listing is answered, and what that gives: its items, if the reply is in order
and tells the place of the page among all pages, and otherwise an error. -/
inductive IsPage (read : Reader α) (path : String) (total number : Nat) :
    Http.Reply → Except Error (List α) → Prop where
  | items {status : Nat} {body : String} {envelope : Envelope (List α)} {paging : Paging}
      (accepted : Http.Status.isSuccess status = true)
      (decoded : Envelope.read? (Reader.list read) body = some envelope)
      (success : envelope.success = true) (placed : envelope.paging = some paging)
      (own : paging.page.toNat = number) (all : paging.total.toNat = total) :
      IsPage read path total number (.response status body) (.ok (envelope.result.getD []))
  | unanswered (reason : String) :
      IsPage read path total number (.failure reason)
        (.error (.http ("request to " ++ path ++ " failed: " ++ reason)))
  | status {status : Nat} (body : String) (other : Http.Status.isSuccess status = false) :
      IsPage read path total number (.response status body)
        (.error (statusError status path (withoutMark body)))
  | undecodable {status : Nat} {body : String} (accepted : Http.Status.isSuccess status = true)
      (unreadable : Envelope.read? (Reader.list read) body = none) :
      IsPage read path total number (.response status body)
        (refuse ("failed to parse response from " ++ path ++ ": error decoding response body"))
  | unsuccessful {status : Nat} {body : String} {envelope : Envelope (List α)}
      (accepted : Http.Status.isSuccess status = true)
      (decoded : Envelope.read? (Reader.list read) body = some envelope)
      (failed : envelope.success = false) :
      IsPage read path total number (.response status body)
        (refuse (path ++ " failed: " ++ envelope.complaintText))

variable {service : Http.Request → Http.Reply} {pages : Nat → Except Error (List α)}

theorem pageRequest_toUInt32 (small : number < UInt32.size) :
    pageRequest path number.toUInt32 = numberedRequest path number := by
  have own : number.toUInt32.toNat = number := UInt32.toNat_ofNat_of_lt small
  have shown : toString number.toUInt32 = toString number.toUInt32.toNat := rfl
  rw [pageRequest, shown, own]
  rfl

theorem IsPage.ofReply_eq_error {reply : Http.Reply} {error : Error}
    (page : IsPage read path total number reply (.error error)) :
    Envelope.ofReply (Reader.list read) path reply = .error error := by
  cases page with
  | unanswered reason => rfl
  | status body other => simp [Envelope.ofReply, other]
  | undecodable accepted unreadable => simp [Envelope.ofReply, accepted, unreadable, refuse]
  | unsuccessful accepted decoded failed =>
      simp [Envelope.ofReply, accepted, decoded, failed, refuse]

theorem IsPage.exists_ofReply {reply : Http.Reply} {items : List α}
    (page : IsPage read path total number reply (.ok items)) :
    ∃ (envelope : Envelope (List α)) (paging : Paging),
      Envelope.ofReply (Reader.list read) path reply = .ok envelope ∧
        envelope.result.getD [] = items ∧ envelope.paging = some paging ∧
        paging.page.toNat = number ∧ paging.total.toNat = total := by
  cases page with
  | @items status body envelope paging accepted decoded success placed own all =>
      exact ⟨envelope, paging, by simp [Envelope.ofReply, accepted, decoded, success], rfl, placed,
        own, all⟩

/-- A page that is answered with its items leads to the next one, unless it is the last. -/
theorem IsPage.turn_eq_ok {items : List α} (small : number < UInt32.size)
    (page : IsPage read path total number (service (numberedRequest path number)) (.ok items)) :
    turn read path service number.toUInt32 =
      .ok (items, if number < total then some (number + 1).toUInt32 else none) := by
  obtain ⟨envelope, paging, opened, result, placed, rfl, rfl⟩ := page.exists_ofReply
  refine turn_eq_ok_iff.2 ⟨envelope, by rw [pageRequest_toUInt32 small, opened], result, ?_⟩
  have successor : (paging.page.toNat + 1).toUInt32 = paging.page + 1 := by
    simp
  rw [placed, Option.bind_some, Paging.next?, successor]
  exact if_congr UInt32.lt_iff_toNat_lt rfl rfl

theorem IsPage.turn_eq_error {error : Error} (small : number < UInt32.size)
    (page : IsPage read path total number (service (numberedRequest path number)) (.error error)) :
    turn read path service number.toUInt32 = .error error :=
  turn_eq_error_iff.2 (by rw [pageRequest_toUInt32 small, page.ofReply_eq_error])

/-- There are no more pages than can be counted, if one is answered with its items. -/
theorem IsPage.total_lt {reply : Http.Reply} {items : List α}
    (page : IsPage read path total number reply (.ok items)) : total < UInt32.size := by
  obtain ⟨-, paging, -, -, -, -, rfl⟩ := page.exists_ofReply
  exact paging.total.toNat_lt_size

/-- Pages that lead from the first one to one that ends the listing are asked for one after
another. -/
theorem gives_listAll (items : Nat → List α) {result : Except Error (List α)} {before : Nat}
    (small : before + 1 < UInt32.size)
    (leads : ∀ number, 1 ≤ number → number < 1 + before →
      turn read path service number.toUInt32 = .ok (items number, some (number + 1).toUInt32))
    (ends : Reads read path service (1 + before).toUInt32 [(1 + before).toUInt32] result) :
    Gives service (listAll read path)
      (result.map fun others => (List.range' 1 before).flatMap items ++ others)
      ((List.range' 1 (before + 1)).map (numberedRequest path)) := by
  have whole := Reads.behind leads ends
  have pages : (List.range' 1 before).map Nat.toUInt32 ++ [(1 + before).toUInt32] =
      (List.range' 1 (before + 1)).map Nat.toUInt32 := by
    rw [List.range'_concat]
    simp
  rw [pages] at whole
  have numbered : ((List.range' 1 (before + 1)).map Nat.toUInt32).map (pageRequest path) =
      (List.range' 1 (before + 1)).map (numberedRequest path) := by
    rw [List.map_map]
    refine List.map_congr_left fun number member => pageRequest_toUInt32 ?_
    have bounds := List.mem_range'_1.1 member
    omega
  rw [← numbered]
  refine whole.gives_listFrom ?_
  rw [List.length_map, List.length_range']
  exact Nat.le_of_lt small

/-- A listing of some pages, each of which is answered with its items and its place or with a
failure, gives the items of all pages in order after each has been asked for once; but if there are
failures, it gives the error of the first page that has one, after this page and those before it. -/
theorem pages_listed_or_refused {α : Type} {read : Reader α} {path : String}
    {service : Http.Request → Http.Reply} {total : Nat} {pages : Nat → Except Error (List α)}
    (present : 1 ≤ total)
    (answers : ∀ number, 1 ≤ number → number ≤ total →
      IsPage read path total number (service (numberedRequest path number)) (pages number)) :
    (∀ items : Nat → List α,
      (∀ number, 1 ≤ number → number ≤ total → pages number = .ok (items number)) →
        Gives service (listAll read path) (.ok ((List.range' 1 total).flatMap items))
          ((List.range' 1 total).map (numberedRequest path))) ∧
      ∀ (number : Nat) (error : Error), 1 ≤ number → number ≤ total →
        (∀ earlier, 1 ≤ earlier → earlier < number → ∃ items, pages earlier = .ok items) →
          pages number = .error error →
            Gives service (listAll read path) (.error error)
              ((List.range' 1 number).map (numberedRequest path)) := by
  have leads {number : Nat} {items : List α} (low : 1 ≤ number) (high : number ≤ total)
      (own : pages number = .ok items) : total < UInt32.size ∧
        turn read path service number.toUInt32 =
          .ok (items, if number < total then some (number + 1).toUInt32 else none) := by
    have page := answers number low high
    rw [own] at page
    exact ⟨page.total_lt, page.turn_eq_ok (Nat.lt_of_le_of_lt high page.total_lt)⟩
  apply And.intro
  · intro items each
    obtain ⟨before, rfl⟩ := Nat.exists_eq_add_one.2 present
    obtain ⟨small, ends⟩ := leads present (Nat.le_refl _) (each _ present (Nat.le_refl _))
    rw [if_neg (Nat.lt_irrefl _), Nat.add_comm] at ends
    have whole := gives_listAll items small
      (fun number low high => by
        have step := (leads low (by omega) (each number low (by omega))).2
        rwa [if_pos (by omega)] at step)
      (.last ends)
    have joined : (List.range' 1 (before + 1)).flatMap items =
        (List.range' 1 before).flatMap items ++ items (1 + before) := by
      rw [List.range'_concat, List.flatMap_append]
      simp
    rw [joined]
    exact whole
  · intro number error low high each failed
    obtain ⟨before, rfl⟩ := Nat.exists_eq_add_one.2 low
    choose! items known using each
    have page := answers _ low high
    rw [failed] at page
    -- The first page is answered with its items unless it is the one that fails.
    have small : before + 1 < UInt32.size := by
      rcases Nat.eq_zero_or_pos before with rfl | later
      · decide
      · exact Nat.lt_of_le_of_lt high
          (leads (Nat.le_refl 1) present (known 1 (Nat.le_refl 1) (by omega))).1
    have refused := page.turn_eq_error small
    rw [Nat.add_comm] at refused
    exact gives_listAll items small
      (fun number low high => by
        have step := (leads low (by omega) (known number low (by omega))).2
        rwa [if_pos (by omega)] at step)
      (.refused refused)

end Pages

/-! ## A listing of three pages -/

/-- A page of a listing of three, with one word on it. -/
def wordPage (number : String) : String :=
  "\x7b\"success\":true,\"result\":[\"word " ++ number ++
    "\"],\"result_info\":\x7b\"page\":" ++ number ++ ",\"total_pages\":3\x7d\x7d"

/-- A service with this listing, whose second page may be out of order. -/
def wordService (broken : Bool) (request : Http.Request) : Http.Reply :=
  let number := (request.query.lookup "page").getD ""
  if broken && number == "2" then .response 502 "bad gateway" else .response 200 (wordPage number)

theorem read_wordPage : ∀ number ∈ [1, 2, 3],
    (Envelope.read? (Reader.list Reader.text) (wordPage (toString number))).map (fun envelope =>
        (envelope.success, envelope.result, envelope.paging)) =
      some (true, some ["word " ++ toString number], some ⟨number.toUInt32, 3⟩) := by
  decide +kernel

/-- The pages that are in order. -/
theorem isPage_wordService {broken : Bool} {number : Nat} (listed : number ∈ [1, 2, 3])
    (sound : broken = true → number ≠ 2) :
    IsPage Reader.text "/words" 3 number (wordService broken (numberedRequest "/words" number))
      (.ok ["word " ++ toString number]) := by
  have answer : wordService broken (numberedRequest "/words" number) =
      .response 200 (wordPage (toString number)) := by
    refine if_neg fun both => ?_
    obtain ⟨rfl, second⟩ := (Bool.and_eq_true _ _).mp both
    have apart : ∀ number ∈ [1, 2, 3], number ≠ 2 → (toString number == "2") = false := by decide
    exact Bool.false_ne_true ((apart number listed (sound rfl)).symm.trans second)
  obtain ⟨envelope, decoded, parts⟩ := Option.map_eq_some_iff.1 (read_wordPage number listed)
  obtain ⟨success, rest⟩ := Prod.mk.inj parts
  obtain ⟨result, placed⟩ := Prod.mk.inj rest
  have own : ∀ number ∈ [1, 2, 3], number.toUInt32.toNat = number := by decide
  have page : IsPage Reader.text "/words" 3 number (.response 200 (wordPage (toString number)))
      (.ok (envelope.result.getD [])) :=
    .items rfl decoded success placed (own number listed) rfl
  rw [result] at page
  rw [answer]
  exact page

theorem pages_listed_or_refused_of_wordService :
    Gives (wordService false) (listAll Reader.text "/words") (.ok ["word 1", "word 2", "word 3"])
        ([1, 2, 3].map (numberedRequest "/words")) ∧
      Gives (wordService true) (listAll Reader.text "/words")
        (.error (statusError 502 "/words" "bad gateway"))
        ([1, 2].map (numberedRequest "/words")) := by
  have listed (number : Nat) (low : 1 ≤ number) (high : number ≤ 3) : number ∈ [1, 2, 3] := by
    simp only [List.mem_cons, List.not_mem_nil, or_false]
    omega
  apply And.intro
  · have answers : ∀ number, 1 ≤ number → number ≤ 3 →
        IsPage Reader.text "/words" 3 number (wordService false (numberedRequest "/words" number))
          (.ok ["word " ++ toString number]) :=
      fun number low high => isPage_wordService (listed number low high) (by simp)
    exact (pages_listed_or_refused (by decide) answers).1
      (fun number => ["word " ++ toString number]) fun _ _ _ => rfl
  · let pages (number : Nat) : Except Error (List String) :=
      if number = 2 then .error (statusError 502 "/words" "bad gateway")
      else .ok ["word " ++ toString number]
    have answers (number : Nat) (low : 1 ≤ number) (high : number ≤ 3) :
        IsPage Reader.text "/words" 3 number (wordService true (numberedRequest "/words" number))
          (pages number) := by
      rcases eq_or_ne number 2 with rfl | sound
      · exact .status "bad gateway" rfl
      · rw [show pages number = _ from if_neg sound]
        exact isPage_wordService (listed number low high) fun _ => sound
    exact (pages_listed_or_refused (by decide) answers).2 2 _ (by decide) (by decide)
      (fun earlier low high => ⟨_, if_neg (by omega)⟩) rfl

end DnsReconcile.Cloudflare
