/-
# Forwardings in payloads

A payload is cut at its commas, and what is between them loses the blanks around it. Such parts
can be put together again: with commas between them they are the parts of the text that results.
So the payload of the page rule that is made of a redirect describes a forwarding, whatever the
redirect leads from and to.
-/

import DnsReconcile.Cloudflare.Desired
import DnsReconcile.Proofs.Text.Digits
import DnsReconcile.Proofs.Text.Trimming

namespace DnsReconcile.Cloudflare

open Text

/-! ## Parts -/

/-- A text that can stand between two commas as it is. -/
structure IsPart (text : List Char) : Prop where
  bare : ',' ∉ text
  trimmed : trim text = text

theorem not_mem_of_mem_splitOn {c : Char} {text piece : List Char}
    (member : piece ∈ text.splitOn c) : c ∉ piece := by
  rw [List.splitOn_eq_splitOnP] at member
  induction text generalizing piece with
  | nil =>
      rw [List.splitOnP_nil, List.mem_singleton] at member
      rw [member]
      exact List.not_mem_nil
  | cons d rest ih =>
      rw [List.splitOnP_cons_eq_if_modifyHead] at member
      split at member
      · rcases List.mem_cons.1 member with rfl | later
        · exact List.not_mem_nil
        · exact ih later
      · next other =>
        obtain ⟨first, pieces, cut⟩ :=
          List.exists_cons_of_ne_nil (List.splitOnP_ne_nil (· == c) rest)
        rw [cut, List.modifyHead_cons] at member
        rcases List.mem_cons.1 member with rfl | later
        · intro inside
          rcases List.mem_cons.1 inside with same | inside
          · exact other (beq_iff_eq.2 same.symm)
          · exact ih (cut ▸ List.mem_cons_self) inside
        · exact ih (cut ▸ List.mem_cons_of_mem first later)

theorem isPart_of_mem_parts {text : String} {part : List Char} (member : part ∈ parts text) :
    IsPart part := by
  obtain ⟨piece, cut, rfl⟩ := List.mem_map.1 member
  exact ⟨fun inside => not_mem_of_mem_splitOn cut ((trim_sublist piece).subset inside),
    trim_trim piece⟩

theorem isPart_toDigits (n : Nat) : IsPart (Nat.toDigits 10 n) where
  bare inside := absurd (isDigit_of_mem_toDigits inside) (by decide)
  trimmed := trim_eq_self
    (fun _ head => isBlank_of_isDigit (isDigit_of_mem_toDigits (List.mem_of_head? head)))
    (fun _ last => isBlank_of_isDigit (isDigit_of_mem_toDigits (List.mem_of_getLast? last)))

/-- The parts of a text that was made of parts. -/
theorem parts_of_intercalate {text : String} {pieces : List (List Char)}
    (made : text.toList = [','].intercalate pieces) (each : ∀ piece ∈ pieces, IsPart piece)
    (present : pieces ≠ []) : parts text = pieces := by
  rw [parts, made, List.splitOn_intercalate ',' (fun piece member => (each piece member).bare)
    present]
  exact (List.map_congr_left fun piece member => (each piece member).trimmed).trans (List.map_id _)

/-! ## Payloads of page rules -/

/-- The payload that spells the parts of a forwarding out. -/
def Forwarding.payload (forwarding : Forwarding) : String :=
  forwardingPayload forwarding.source forwarding.target (toString forwarding.priority)
    (toString forwarding.status)

theorem Forwarding.toList_payload (forwarding : Forwarding) :
    forwarding.payload.toList = [','].intercalate [forwarding.source.toList,
      forwarding.target.toList, Nat.toDigits 10 forwarding.priority.toNat,
      Nat.toDigits 10 forwarding.status.toNat] := by
  simp [Forwarding.payload, forwardingPayload, toList_uint32, toList_uint16, List.intercalate]

/-- A payload that was written for a forwarding describes it. -/
theorem Forwarding.read_payload {forwarding : Forwarding}
    (source : IsPart forwarding.source.toList) (target : IsPart forwarding.target.toList) :
    Forwarding.read forwarding.payload = .ok forwarding := by
  have cut := parts_of_intercalate forwarding.toList_payload (by
    simp only [List.forall_mem_cons, List.not_mem_nil, false_implies, implies_true, and_true]
    exact ⟨source, target, isPart_toDigits _, isPart_toDigits _⟩) (List.cons_ne_nil _ _)
  simp only [Forwarding.read, Forwarding.read?, cut, readUInt32?_toDigits, readUInt16?_toDigits,
    String.ofList_toList]
  rfl

/-- The forwarding leads from and to where the redirect does, for as long as its type says. -/
structure Forwarding.Follows (forwarding : Forwarding) (redirect : Record) : Prop where
  ends : parts redirect.payload.print = [forwarding.source.toList, forwarding.target.toList]
  permanent : redirect.type = .redirect → forwarding.status = 301
  temporary : redirect.type = .tempRedirect → forwarding.status = 302

/-- A redirect has a rule if it leads from one place to another. -/
theorem exists_ruleOfRedirect_iff {record : Record} {priority : UInt32} :
    (∃ rule, ruleOfRedirect record priority = .ok rule) ↔
      ∃ source target, parts record.payload.print = [source, target] := by
  unfold ruleOfRedirect
  split
  · next source target cut => exact iff_of_true ⟨_, rfl⟩ ⟨source, target, cut⟩
  · next other =>
    refine iff_of_false (by simp [Record.refuse]) ?_
    rintro ⟨source, target, cut⟩
    exact other source target cut

/-- The rule for a redirect spells a forwarding out. -/
theorem exists_of_ruleOfRedirect {record rule : Record} {priority : UInt32}
    (found : ruleOfRedirect record priority = .ok rule) :
    ∃ forwarding : Forwarding, forwarding.Follows record ∧ forwarding.priority = priority ∧
      Forwarding.read forwarding.payload = .ok forwarding ∧
      rule = { Record.pseudo apexLabel .pageRule forwarding.payload with ttl := autoTtl } := by
  unfold ruleOfRedirect at found
  split at found
  · next source target cut =>
    obtain rfl := Except.ok.inj found
    have part {piece : List Char} (member : piece ∈ [source, target]) : IsPart piece :=
      isPart_of_mem_parts (cut ▸ member)
    let forwarding : Forwarding := ⟨String.ofList source, String.ofList target, priority,
      UInt16.ofNat (redirectStatus record.type)⟩
    have status : toString (UInt16.ofNat (redirectStatus record.type)) =
        toString (redirectStatus record.type) := by
      unfold redirectStatus
      split <;> rfl
    refine ⟨forwarding, ⟨?_, ?_, ?_⟩, rfl, Forwarding.read_payload ?_ ?_, ?_⟩
    · rw [cut, String.toList_ofList, String.toList_ofList]
    · intro type
      rw [show forwarding.status = UInt16.ofNat (redirectStatus record.type) from rfl, type]
      rfl
    · intro type
      rw [show forwarding.status = UInt16.ofNat (redirectStatus record.type) from rfl, type]
      rfl
    · rw [String.toList_ofList]
      exact part List.mem_cons_self
    · rw [String.toList_ofList]
      exact part (List.mem_cons_of_mem _ List.mem_cons_self)
    · rw [Forwarding.payload, ← status]
  · cases found

/-- What the page rule for a redirect is. Its payload describes a forwarding. -/
structure IsRedirectRule (rule : Record) : Prop where
  label : rule.label = apexLabel
  type : rule.type = .pageRule
  ttl : rule.ttl = autoTtl
  metadata : rule.metadata = Dict.empty
  described : ∃ forwarding, Forwarding.read rule.payload.print = .ok forwarding

theorem isRedirectRule_of_ruleOfRedirect {record rule : Record} {priority : UInt32}
    (found : ruleOfRedirect record priority = .ok rule) : IsRedirectRule rule := by
  obtain ⟨forwarding, -, -, read, rfl⟩ := exists_of_ruleOfRedirect found
  exact ⟨rfl, rfl, rfl, rfl, forwarding, read⟩

end DnsReconcile.Cloudflare
