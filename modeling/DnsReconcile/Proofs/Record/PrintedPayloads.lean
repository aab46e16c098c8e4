/-
# Payloads told apart by their presentation forms

Two payloads of one type that are printed alike are the same payload, whatever texts they hold. A
number ends at the space behind it. The strings of a TXT payload end at their closing quotation
marks, whatever comes next. The value of a CAA payload is found from the end, because its tag may
hold spaces and quotation marks of its own. The exception is a SOA payload, which begins with two
names: a space may belong to either.
-/

import DnsReconcile.Proofs.Address.WrittenForms
import DnsReconcile.Proofs.Text.Quoting
import DnsReconcile.Proofs.Text.Words
import DnsReconcile.Record.Key

namespace DnsReconcile

namespace Text

/-- Quoted strings with a space in front of each are as many, and each is the same. -/
theorem flatMap_quote_inj {first second : List (List Char)}
    (same : first.flatMap (fun text => ' ' :: quote text) =
      second.flatMap fun text => ' ' :: quote text) : first = second := by
  induction first generalizing second with
  | nil =>
      cases second with
      | nil => rfl
      | cons text more => exact nomatch same
  | cons text more ih =>
      cases second with
      | nil => exact nomatch same
      | cons text' more' =>
          rw [List.flatMap_cons, List.flatMap_cons, List.cons_append, List.cons_append] at same
          obtain ⟨rfl, behind⟩ := quote_append_inj (List.cons.inj same).2
          rw [ih behind]

theorem joined_quote_inj {first second : List (List Char)}
    (same : joined (first.map quote) = joined (second.map quote)) : first = second := by
  cases first with
  | nil =>
      cases second with
      | nil => rfl
      | cons text more =>
          rw [List.map_cons, joined_cons] at same
          exact nomatch same
  | cons text more =>
      cases second with
      | nil =>
          rw [List.map_cons, joined_cons] at same
          exact nomatch same
      | cons text' more' =>
          rw [List.map_cons, joined_cons, List.map_cons, joined_cons, List.flatMap_map,
            List.flatMap_map] at same
          obtain ⟨rfl, behind⟩ := quote_append_inj same
          rw [flatMap_quote_inj behind]

end Text

namespace Payload

open Text

variable {first second : Payload} {type : RecordType}

theorem toList_print_txt (strings : List String) :
    (txt strings).print.toList = joined ((strings.map String.toList).map quote) := by
  rw [print, String.toList_intercalate, joined, List.map_map, List.map_map]
  congr 1
  refine List.map_congr_left fun text _ => ?_
  exact String.toList_ofList

/-- Unless they are SOA payloads, payloads of one type are told apart by what is printed. -/
theorem eq_of_print (alike : first.type = second.type) (other : first.type ≠ .soa)
    (same : first.print = second.print) : first = second := by
  replace same := congrArg String.toList same
  cases first <;> cases second <;> cases alike
  case a.a.refl =>
    have read := congrArg IPv4.read? same
    simp only [print, IPv4.read?_print, Option.some.injEq] at read
    rw [read]
  case aaaa.aaaa.refl =>
    have read := congrArg IPv6.read? same
    simp only [print, IPv6.read?_print, Option.some.injEq] at read
    rw [read]
  case txt.txt.refl =>
    rw [toList_print_txt, toList_print_txt] at same
    rw [List.map_injective_iff.2 (fun _ _ => String.toList_inj.1) (joined_quote_inj same)]
  case soa.soa.refl => exact absurd rfl other
  all_goals
    simp only [print, quoted, String.toList_append, toList_uint8, toList_uint16,
      String.toList_ofList, List.append_assoc, toDigits_append_space_inj, UInt8.toNat_inj,
      UInt16.toNat_inj, String.toList_inj] at same
  case caa.caa.refl =>
    obtain ⟨flags, behind⟩ := same
    obtain ⟨tag, value⟩ := append_space_quote_inj behind
    rw [flags, String.toList_inj.1 tag, String.toList_inj.1 value]
  all_goals simp only [same]

/-- Payloads that fit one type are of one type themselves. -/
theorem type_of_fits (fits : first.fits type = true) :
    first.type = if type.isPseudo then .pageRule else type := by
  cases first with
  | encoded text => exact (if_pos fits).symm
  | _ =>
    obtain rfl := eq_of_beq fits
    rfl

/-- Payloads that fit a type of several values are told apart by what is printed. -/
theorem print_inj (fits : first.fits type = true) (fits' : second.fits type = true)
    (several : type.isMultiValue = true) : first.print = second.print ↔ first = second := by
  refine ⟨fun same => eq_of_print ?_ ?_ same, congrArg print⟩
  · rw [type_of_fits fits, type_of_fits fits']
  · rw [type_of_fits fits]
    cases type <;> first | exact absurd several (by decide) | decide

end Payload

namespace Record

variable {first second : Record}

/-- Of two records at one label and of one type that may have several, the keys are the same only if
the payloads are. -/
theorem key_eq_iff (fits : first.payload.fits first.type = true)
    (fits' : second.payload.fits second.type = true) (label : first.label = second.label)
    (type : first.type = second.type) (several : first.type.isMultiValue = true) :
    first.key = second.key ↔ first.payload = second.payload := by
  rw [← type] at fits'
  rw [← Payload.print_inj fits fits' several]
  simp only [key, label, ← type, several, if_true, RecordKey.mk.injEq, Option.some.injEq, true_and]

end Record

end DnsReconcile
