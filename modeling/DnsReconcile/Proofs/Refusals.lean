/-
# Computations that may be refused

When a computation made of several steps succeeds: if each step does, on what the
steps before it gave.
-/

import Mathlib.Data.List.Forall2
import Mathlib.Data.List.Perm.Basic

namespace DnsReconcile

universe u v w

variable {ε : Type u} {α β : Type v}

/-- Two steps succeed if the second does on what the first gave. -/
theorem bind_eq_ok_iff {first : Except ε α} {next : α → Except ε β} {result : β} :
    (first >>= next) = .ok result ↔ ∃ middle, first = .ok middle ∧ next middle = .ok result := by
  cases first with
  | error error => simp [bind, Except.bind]
  | ok middle => simp [bind, Except.bind]

/-- A check in front of a step has to pass. -/
theorem check_bind_eq_ok_iff {check : Except ε PUnit.{v + 1}} {next : PUnit → Except ε β}
    {result : β} :
    (check >>= next) = .ok result ↔ check = .ok ⟨⟩ ∧ next ⟨⟩ = .ok result := by
  rw [bind_eq_ok_iff]
  apply Iff.intro
  · rintro ⟨⟨⟩, passed, rest⟩
    exact ⟨passed, rest⟩
  · rintro ⟨passed, rest⟩
    exact ⟨⟨⟩, passed, rest⟩

/-- Two steps fail if the first does, or the second on what the first gave. -/
theorem bind_eq_error_iff {first : Except ε α} {next : α → Except ε β} {error : ε} :
    (first >>= next) = .error error ↔
      first = .error error ∨ ∃ middle, first = .ok middle ∧ next middle = .error error := by
  cases first with
  | error error => simp [bind, Except.bind]
  | ok middle => simp [bind, Except.bind]

theorem map_eq_ok_iff {γ : Type w} {result : Except ε α} {view : α → γ} {seen : γ} :
    result.map view = .ok seen ↔ ∃ value, result = .ok value ∧ view value = seen := by
  cases result with
  | error error => simp [Except.map]
  | ok value => simp [Except.map]

theorem pure_eq_ok_iff {given result : α} :
    (pure given : Except ε α) = .ok result ↔ given = result := by
  simp [pure, Except.pure]

/-- A result of which something can be seen is there. -/
theorem exists_eq_ok_of_map {γ : Type w} {result : Except ε α} {view : α → γ} {seen : γ}
    (looked : result.toOption.map view = some seen) :
    ∃ value, result = .ok value ∧ view value = seen := by
  cases result with
  | error error => cases looked
  | ok value => exact ⟨value, rfl, Option.some.inj looked⟩

/-- A step on every element succeeds if it does on each, with the results in order. -/
theorem mapM_eq_ok_iff {α : Type w} {step : α → Except ε β} {list : List α} {results : List β} :
    list.mapM step = .ok results ↔
      List.Forall₂ (fun x result => step x = .ok result) list results := by
  induction list generalizing results with
  | nil => cases results <;> simp [pure, Except.pure]
  | cons x rest ih =>
      rw [List.mapM_cons]
      simp only [bind_eq_ok_iff, pure_eq_ok_iff, ih]
      apply Iff.intro
      · rintro ⟨head, first, tail, others, rfl⟩
        exact List.Forall₂.cons first others
      · intro steps
        cases steps with
        | cons first others => exact ⟨_, first, _, others, rfl⟩

/-- If a step on every element fails, it does so for one of them. -/
theorem exists_of_mapM_eq_error {α : Type w} {step : α → Except ε β} {list : List α} {error : ε}
    (failed : list.mapM step = .error error) : ∃ x ∈ list, step x = .error error := by
  induction list with
  | nil => cases failed
  | cons x rest ih =>
      rw [List.mapM_cons, bind_eq_error_iff] at failed
      rcases failed with own | ⟨result, -, failed⟩
      · exact ⟨x, List.mem_cons_self, own⟩
      · rcases bind_eq_error_iff.1 failed with others | ⟨results, -, ended⟩
        · obtain ⟨y, member, own⟩ := ih others
          exact ⟨y, List.mem_cons_of_mem _ member, own⟩
        · cases ended

/-- The results are those of the elements. -/
theorem mem_mapM_iff {α : Type w} {step : α → Except ε β} {list : List α} {results : List β}
    (found : list.mapM step = .ok results) {result : β} :
    result ∈ results ↔ ∃ x ∈ list, step x = .ok result := by
  have steps := mapM_eq_ok_iff.1 found
  clear found
  induction steps with
  | nil => simp
  | @cons x first rest others own _ ih =>
      have same : step x = .ok result ↔ result = first := by
        rw [own, Except.ok.injEq]
        exact eq_comm
      simp only [List.mem_cons, exists_eq_or_imp, ih, same]

/-- What holds between any two results can be asked of the elements they came from. -/
theorem pairwise_mapM_iff {α : Type w} {step : α → Except ε β} {list : List α} {results : List β}
    (found : list.mapM step = .ok results) {R : β → β → Prop} :
    results.Pairwise R ↔
      list.Pairwise fun x y => ∀ a b, step x = .ok a → step y = .ok b → R a b := by
  have steps := mapM_eq_ok_iff.1 found
  clear found
  induction steps with
  | nil => exact iff_of_true List.Pairwise.nil List.Pairwise.nil
  | @cons x first rest others own steps ih =>
      rw [List.pairwise_cons, List.pairwise_cons]
      refine and_congr ?_ ih
      have members {result : β} : result ∈ others ↔ ∃ y ∈ rest, step y = .ok result :=
        mem_mapM_iff (mapM_eq_ok_iff.2 steps)
      apply Iff.intro
      · intro behind y member a b made made'
        obtain rfl := Except.ok.inj (own.symm.trans made)
        exact behind b (members.2 ⟨y, member, made'⟩)
      · intro behind b member
        obtain ⟨y, present, made⟩ := members.1 member
        exact behind y present first b own made

/-- There are results if every element has one. -/
theorem exists_mapM_eq_ok_iff {α : Type w} {step : α → Except ε β} {list : List α} :
    (∃ results, list.mapM step = .ok results) ↔ ∀ x ∈ list, ∃ result, step x = .ok result := by
  simp only [mapM_eq_ok_iff]
  apply Iff.intro
  · rintro ⟨results, steps⟩
    induction steps with
    | nil => exact fun x member => absurd member List.not_mem_nil
    | cons own _ ih => exact List.forall_mem_cons.2 ⟨⟨_, own⟩, ih⟩
  · intro each
    induction list with
    | nil => exact ⟨[], List.Forall₂.nil⟩
    | cons x rest ih =>
        obtain ⟨⟨first, own⟩, others⟩ := List.forall_mem_cons.1 each
        obtain ⟨results, steps⟩ := ih others
        exact ⟨first :: results, List.Forall₂.cons own steps⟩

/-- Lists that come of the elements can be put together if each element has one. -/
theorem exists_map_flatten_eq_ok_iff {α : Type w} {step : α → Except ε (List β)} {list : List α} :
    (∃ whole, (list.mapM step).map List.flatten = .ok whole) ↔
      ∀ x ∈ list, ∃ part, step x = .ok part := by
  rw [← exists_mapM_eq_ok_iff]
  simp only [map_eq_ok_iff]
  apply Iff.intro
  · rintro ⟨-, parts, made, -⟩
    exact ⟨parts, made⟩
  · rintro ⟨parts, made⟩
    exact ⟨_, parts, made, rfl⟩

theorem mem_iff_of_map_flatten_eq_ok {α : Type w} {step : α → Except ε (List β)} {list : List α}
    {whole : List β} (together : (list.mapM step).map List.flatten = .ok whole) {y : β} :
    y ∈ whole ↔ ∃ x ∈ list, ∃ part, step x = .ok part ∧ y ∈ part := by
  obtain ⟨parts, made, rfl⟩ := map_eq_ok_iff.1 together
  rw [List.mem_flatten]
  apply Iff.intro
  · rintro ⟨part, known, member⟩
    obtain ⟨x, origin, given⟩ := (mem_mapM_iff made).1 known
    exact ⟨x, origin, part, given, member⟩
  · rintro ⟨x, origin, part, given, member⟩
    exact ⟨part, (mem_mapM_iff made).2 ⟨x, origin, given⟩, member⟩

/-- In another order, the elements give the same results in another order. -/
theorem exists_mapM_eq_ok_of_perm {α : Type w} {step : α → Except ε β} {list other : List α}
    {results : List β} (same : list.Perm other) (found : list.mapM step = .ok results) :
    ∃ results', other.mapM step = .ok results' ∧ results.Perm results' := by
  obtain ⟨results', steps, same'⟩ := List.perm_comp_forall₂ same.symm (mapM_eq_ok_iff.1 found)
  exact ⟨results', mapM_eq_ok_iff.2 steps, same'.symm⟩

/-- A check of every element succeeds if it does for each. -/
theorem forM_eq_ok_iff {α : Type w} {check : α → Except ε PUnit} {list : List α} :
    list.forM check = .ok ⟨⟩ ↔ ∀ x ∈ list, check x = .ok ⟨⟩ := by
  induction list with
  | nil => exact iff_of_true rfl (by simp)
  | cons x rest ih =>
      show (check x >>= fun _ => rest.forM check) = .ok ⟨⟩ ↔ _
      rw [check_bind_eq_ok_iff, ih, List.forall_mem_cons]

theorem exists_of_forM_eq_error {α : Type w} {check : α → Except ε PUnit} {list : List α}
    {error : ε} (failed : list.forM check = .error error) : ∃ x ∈ list, check x = .error error := by
  induction list with
  | nil => cases failed
  | cons x rest ih =>
      change (check x >>= fun _ => rest.forM check) = .error error at failed
      rcases bind_eq_error_iff.1 failed with own | ⟨-, -, others⟩
      · exact ⟨x, List.mem_cons_self, own⟩
      · obtain ⟨y, member, own⟩ := ih others
        exact ⟨y, List.mem_cons_of_mem _ member, own⟩

end DnsReconcile
