/-
# Stable sorting

Sorting a list by insertion. Elements that the order does not tell apart keep the
order they came in.
-/

namespace DnsReconcile

universe u

variable {α : Type u}

/-- Put an element in front of the first one that it need not follow. -/
def insertBy (le : α → α → Bool) (x : α) : List α → List α
  | [] => [x]
  | y :: rest => if le x y then x :: y :: rest else y :: insertBy le x rest

/-- The elements of a list in order. -/
def sortBy (le : α → α → Bool) : List α → List α
  | [] => []
  | x :: rest => insertBy le x (sortBy le rest)

theorem insertBy_perm (le : α → α → Bool) (x : α) (list : List α) :
    (insertBy le x list).Perm (x :: list) := by
  induction list with
  | nil => exact List.Perm.refl _
  | cons y rest ih =>
      unfold insertBy
      split
      · exact List.Perm.refl _
      · exact (ih.cons y).trans (List.Perm.swap x y rest)

/-- Sorting rearranges. -/
theorem sortBy_perm (le : α → α → Bool) (list : List α) : (sortBy le list).Perm list := by
  induction list with
  | nil => exact List.Perm.refl _
  | cons x rest ih => exact (insertBy_perm le x _).trans (ih.cons x)

end DnsReconcile
