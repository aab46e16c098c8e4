/-
# Sorted lists

What sorting by insertion does when the comparison is a total preorder: the result
is in order, and elements that are tied stay in the order they came in. If no two
elements are tied, a list has only one sorted arrangement, so sorting forgets the
order in which the elements came and goes together with taking elements out.
-/

import DnsReconcile.Sort
import Mathlib.Data.List.Nodup
import Mathlib.Data.List.Perm.Basic

namespace DnsReconcile

universe u v

variable {α : Type u} {le : α → α → Bool}

/-- A comparison that can tell of any two elements which may come first, and does so
consistently. Ties between different elements are allowed. -/
structure IsPreorder (le : α → α → Bool) : Prop where
  total : ∀ first second, le first second = true ∨ le second first = true
  trans : ∀ {first second third}, le first second = true → le second third = true →
    le first third = true

namespace IsPreorder

theorem pairwise_insertBy (preorder : IsPreorder le) (x : α) {list : List α}
    (ordered : list.Pairwise fun first second => le first second = true) :
    (insertBy le x list).Pairwise fun first second => le first second = true := by
  induction list with
  | nil => exact List.pairwise_singleton _ x
  | cons y rest ih =>
      obtain ⟨head, tail⟩ := List.pairwise_cons.1 ordered
      simp only [insertBy]
      split
      · next before =>
        refine List.pairwise_cons.2 ⟨fun z member => ?_, ordered⟩
        rcases List.mem_cons.1 member with rfl | later
        · exact before
        · exact preorder.trans before (head z later)
      · next after =>
        have before : le y x = true := (preorder.total x y).resolve_left after
        refine List.pairwise_cons.2 ⟨fun z member => ?_, ih tail⟩
        rcases List.mem_cons.1 ((insertBy_perm le x rest).subset member) with rfl | old
        · exact before
        · exact head z old

/-- Sorting puts a list in order. -/
theorem pairwise_sortBy (preorder : IsPreorder le) (list : List α) :
    (sortBy le list).Pairwise fun first second => le first second = true := by
  induction list with
  | nil => exact List.Pairwise.nil
  | cons x rest ih => exact preorder.pairwise_insertBy x ih

end IsPreorder

/-- Sorting does nothing to a list in order. -/
theorem sortBy_eq_self {list : List α}
    (ordered : list.Pairwise fun first second => le first second = true) :
    sortBy le list = list := by
  induction list with
  | nil => rfl
  | cons x rest ih =>
      obtain ⟨head, tail⟩ := List.pairwise_cons.1 ordered
      rw [sortBy, ih tail]
      cases rest with
      | nil => rfl
      | cons y others => exact if_pos (head y List.mem_cons_self)

/-! ## Ties -/

/-- A list in order: rearranged, with no member before one that has to precede it. Members that
may come in any order stand as they did. -/
structure StablySorted (before : α → α → Prop) (list result : List α) : Prop where
  perm : result.Perm list
  ordered : result.Pairwise before
  stable : ∀ tied : List α, tied.Sublist list → (∀ x ∈ tied, ∀ y ∈ tied, before x y) →
    tied.Sublist result

/-- An element is put in front of all that it is tied with. -/
theorem filter_insertBy {p : α → Bool} {x : α}
    (tied : ∀ y, p x = true → p y = true → le x y = true) (list : List α) :
    (insertBy le x list).filter p = (x :: list).filter p := by
  induction list with
  | nil => rfl
  | cons y rest ih =>
      simp only [insertBy]
      split
      · rfl
      · next after =>
        rw [List.filter_cons, ih]
        by_cases own : p x = true
        · have passed : ¬ p y = true := fun tie => after (tied y own tie)
          rw [if_neg passed, List.filter_cons_of_pos own, List.filter_cons_of_pos own,
            List.filter_cons_of_neg passed]
        · rw [List.filter_cons_of_neg own, List.filter_cons_of_neg own, List.filter_cons]

/-- Sorting leaves elements that are all tied with each other as they came. -/
theorem filter_sortBy {p : α → Bool} (tied : ∀ x y, p x = true → p y = true → le x y = true)
    (list : List α) : (sortBy le list).filter p = list.filter p := by
  induction list with
  | nil => rfl
  | cons x rest ih =>
      rw [sortBy, filter_insertBy (tied x), List.filter_cons, List.filter_cons, ih]

theorem IsPreorder.stablySorted_sortBy (preorder : IsPreorder le) (list : List α) :
    StablySorted (fun first second => le first second = true) list (sortBy le list) where
  perm := sortBy_perm le list
  ordered := preorder.pairwise_sortBy list
  stable tied inside together := by
    cases tied with
    | nil => exact List.nil_sublist _
    | cons first rest =>
        -- All that is tied with the first is tied with each other.
        let like (x : α) : Bool := le first x && le x first
        have alike : ∀ x y, like x = true → like y = true → le x y = true := fun x y tie tie' =>
          preorder.trans (Bool.and_eq_true_iff.1 tie).2 (Bool.and_eq_true_iff.1 tie').1
        have kept := filter_sortBy alike list
        have part := inside.filter like
        rw [← kept, List.filter_eq_self.2] at part
        · exact part.trans List.filter_sublist
        · intro x member
          exact Bool.and_eq_true_iff.2 ⟨together first List.mem_cons_self x member,
            together x member first List.mem_cons_self⟩

/-! ## Strict order -/

/-- A list whose members come in strictly increasing order of something they carry. -/
def StrictlyOrderedBy {β : Type v} (le : α → α → Bool) (key : β → α) (list : List β) : Prop :=
  list.Pairwise fun first second => le (key first) (key second) = true ∧ key first ≠ key second

namespace StrictlyOrderedBy

variable {β : Type v} {key : β → α} {list other : List β}

theorem nodup (ordered : StrictlyOrderedBy le key list) : list.Nodup :=
  List.Pairwise.imp (fun apart same => apart.2 (congrArg key same)) ordered

theorem nodup_map (ordered : StrictlyOrderedBy le key list) : (list.map key).Nodup :=
  List.pairwise_map.2 (List.Pairwise.imp And.right ordered)

/-- What the members carry tells them apart. -/
theorem eq_of_key_eq (ordered : StrictlyOrderedBy le key list) {first second : β}
    (member : first ∈ list) (member' : second ∈ list) (same : key first = key second) :
    first = second :=
  List.inj_on_of_nodup_map ordered.nodup_map member member' same

theorem sublist (ordered : StrictlyOrderedBy le key list) (part : other.Sublist list) :
    StrictlyOrderedBy le key other :=
  List.Pairwise.sublist part ordered

/-- Such a list is determined by its members. -/
theorem eq_of_mem_iff
    (antisymm : ∀ first second, le first second = true → le second first = true → first = second)
    (ordered : StrictlyOrderedBy le key list) (ordered' : StrictlyOrderedBy le key other)
    (same : ∀ x, x ∈ list ↔ x ∈ other) : list = other := by
  refine List.Perm.eq_of_pairwise ?_ ordered ordered' ?_
  · intro first second _ _ before after
    exact absurd (antisymm _ _ before.1 after.1) before.2
  · exact (List.perm_ext_iff_of_nodup ordered.nodup ordered'.nodup).2 same

end StrictlyOrderedBy

@[simp] theorem mem_sortBy {x : α} {list : List α} : x ∈ sortBy le list ↔ x ∈ list :=
  (sortBy_perm le list).mem_iff

theorem nodup_sortBy {list : List α} : (sortBy le list).Nodup ↔ list.Nodup :=
  (sortBy_perm le list).nodup_iff

end DnsReconcile
