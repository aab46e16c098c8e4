/-
# Globs of texts that are joined

A text whose globs can be read ends outside of character classes. So what comes behind it has no
part in its classes: behind a comma, the globs of a text are followed by those of the rest, and
whatever they describe begins with what the globs of the text describe.
-/

import DnsReconcile.Proofs.Pattern.Classes
import DnsReconcile.Proofs.Pattern.Language

namespace DnsReconcile.Pattern

variable {c : Char} {text front back : List Char} {inClass : Bool} {place : Place}
variable {glob other : Glob} {globs others : List Glob}

/-! ## One glob -/

theorem slashed_append :
    slashed inClass (front ++ back) =
      slashed inClass front ++ slashed (endsInClass inClass front) back := by
  induction front generalizing inClass with
  | nil => rfl
  | cons c front ih => simp [slashed, ih]

theorem exists_slashed_cons (inClass : Bool) (c : Char) :
    ∃ d, (∀ rest, slashed inClass (c :: rest) = d :: slashed (classAfter inClass c) rest) ∧
      classAfter inClass d = classAfter inClass c := by
  by_cases dot : inClass = false ∧ c = '.'
  · obtain ⟨rfl, rfl⟩ := dot
    exact ⟨separator, fun _ => rfl, rfl⟩
  · refine ⟨c, fun rest => ?_, rfl⟩
    have kept : ¬ (!inClass && c == '.') = true := by simpa using dot
    rw [slashed, if_neg kept]

/-- What one character of a glob adds to it, and where the next one stands. A class that those see
who look for groups is one in the glob as well. -/
theorem exists_readFrom?_cons (place : Place) (c : Char) :
    ∃ next tokens, (∀ rest, Glob.readFrom? place (c :: rest) =
        (Glob.readFrom? next rest).map (tokens ++ ·)) ∧
      ∀ inClass : Bool, (inClass = true → place ≠ .outside) →
        (classAfter inClass c = true → next ≠ .outside) := by
  cases place with
  | outside =>
      by_cases bracket : c = '['
      · exact ⟨.opened, [], fun rest => by simp [Glob.readFrom?, bracket], by simp⟩
      · let token : Token :=
          if c = '?' then .anyChar else if c = '*' then .anyRun else .literal c
        refine ⟨.outside, [token], fun rest => ?_, fun inClass opened inside => ?_⟩
        · rw [Glob.readFrom?, if_neg bracket]
          rfl
        · cases inClass with
          | true => exact absurd rfl (opened rfl)
          | false => exact absurd (beq_iff_eq.1 inside) bracket
  | opened =>
      by_cases negated : c = '!'
      · exact ⟨.openedNegated, [], fun rest => by simp [Glob.readFrom?, negated], by simp⟩
      · exact ⟨.inside false [c], [], fun rest => by simp [Glob.readFrom?, negated], by simp⟩
  | openedNegated =>
      exact ⟨.inside true [c], [], fun rest => by simp [Glob.readFrom?], by simp⟩
  | inside negated chars =>
      by_cases closed : c = ']'
      · subst closed
        refine ⟨.outside, [classToken negated (classItems chars.reverse)], fun rest => ?_,
          fun inClass _ inside => ?_⟩
        · rw [Glob.readFrom?, if_pos rfl]
          rfl
        · cases inClass <;> exact absurd inside (by decide)
      · exact ⟨.inside negated (c :: chars), [], fun rest => by simp [Glob.readFrom?, closed],
          by simp⟩

theorem readFrom?_nil_eq_some_iff :
    Glob.readFrom? place [] = some glob ↔ place = .outside ∧ glob = [] := by
  cases place <;> simp [Glob.readFrom?, eq_comm]

/-- A glob that can be read ends outside of classes. -/
theorem endsInClass_of_readFrom? (opened : inClass = true → place ≠ .outside)
    (reads : Glob.readFrom? place (slashed inClass text) = some glob) :
    endsInClass inClass text = false := by
  induction text generalizing inClass place glob with
  | nil =>
      obtain ⟨outside, -⟩ := readFrom?_nil_eq_some_iff.1 reads
      exact Bool.eq_false_iff.2 fun inside => opened inside outside
  | cons c text ih =>
      obtain ⟨d, slashes, classes⟩ := exists_slashed_cons inClass c
      obtain ⟨next, tokens, step, inside⟩ := exists_readFrom?_cons place d
      rw [slashes, step] at reads
      obtain ⟨tail, reads, -⟩ := Option.map_eq_some_iff.1 reads
      exact ih (classes ▸ inside inClass opened) reads

/-- A glob goes on outside of classes behind one that can be read. -/
theorem readFrom?_append (reads : Glob.readFrom? place front = some glob) :
    Glob.readFrom? place (front ++ back) = (Glob.readFrom? .outside back).map (glob ++ ·) := by
  induction front generalizing place glob with
  | nil =>
      obtain ⟨rfl, rfl⟩ := readFrom?_nil_eq_some_iff.1 reads
      simp
  | cons c front ih =>
      obtain ⟨next, tokens, step, -⟩ := exists_readFrom?_cons place c
      rw [step] at reads
      obtain ⟨tail, later, rfl⟩ := Option.map_eq_some_iff.1 reads
      rw [List.cons_append, step, ih later, Option.map_map]
      simp [Function.comp_def]

/-- Behind a comma, a glob goes on with what comes next. -/
theorem read?_comma (reads : Glob.read? (slashed false front) = some glob) :
    Glob.read? (slashed false (front ++ ',' :: back)) =
      (Glob.read? (slashed false back)).map fun other => glob ++ .literal ',' :: other := by
  have outside : endsInClass false front = false := endsInClass_of_readFrom? nofun reads
  rw [Glob.read?, slashed_append, outside, readFrom?_append reads]
  have comma : Glob.readFrom? .outside (slashed false (',' :: back)) =
      (Glob.readFrom? .outside (slashed false back)).map (.literal ',' :: ·) := rfl
  rw [comma, Option.map_map]
  rfl

/-! ## Several globs -/

/-- The last piece of a division ends in a class if the text does. If it does not, the piece goes on
behind a comma. -/
theorem exists_divide_eq_append (skipStars inClass : Bool) (text : List Char)
    (apart : skipStars = true → inClass = false) :
    ∃ pieces last, divide skipStars inClass text = pieces ++ [last] ∧
      endsInClass (if pieces = [] then inClass else false) last = endsInClass inClass text ∧
      (endsInClass inClass text = false → ∀ back next others,
        divide false false back = next :: others →
        divide skipStars inClass (text ++ ',' :: back) =
          pieces ++ (last ++ ',' :: next) :: others) := by
  fun_induction divide skipStars inClass text with
  | case1 skipStars inClass =>
      refine ⟨[], [], rfl, rfl, ?_⟩
      rintro outside back next others whole
      rw [endsInClass_nil] at outside
      subst outside
      simp [divide, classAfter, whole, consHead]
  | case2 skipStars inClass c rest stars ih =>
      obtain ⟨rfl, skip⟩ := stars
      obtain rfl := apart skip
      obtain ⟨pieces, last, whole, ends, goes_on⟩ := ih (fun _ => rfl)
      refine ⟨pieces, last, whole, ends, fun outside back next others tail => ?_⟩
      rw [List.cons_append, divide, if_pos ⟨rfl, skip⟩]
      exact goes_on outside back next others tail
  | case3 skipStars inClass c rest single gap ih =>
      obtain ⟨rfl, outside, next_star⟩ := gap
      obtain rfl : inClass = false := by simpa using outside
      obtain ⟨pieces, last, whole, ends, goes_on⟩ := ih (fun _ => rfl)
      rw [ite_self] at ends
      refine ⟨[] :: pieces, last, congrArg ([] :: ·) whole, ends,
        fun outside back next others tail => ?_⟩
      have next_star' : (rest ++ ',' :: back).head? = some '*' := by
        rw [List.head?_append, next_star, Option.some_or]
      rw [List.cons_append, divide, if_neg single, if_pos ⟨rfl, rfl, next_star'⟩,
        goes_on outside back next others tail, List.cons_append]
  | case4 skipStars inClass c rest single lone ih =>
      obtain ⟨pieces, last, whole, ends, goes_on⟩ :=
        ih fun impossible => absurd impossible Bool.false_ne_true
      have moves (back : List Char) : divide skipStars inClass (c :: rest ++ ',' :: back) =
          consHead c (divide false (classAfter inClass c) (rest ++ ',' :: back)) := by
        have lone' : ¬ (c = '*' ∧ !inClass ∧ (rest ++ ',' :: back).head? = some '*') := by
          cases rest <;> simp_all
        rw [List.cons_append, divide, if_neg single, if_neg lone']
      rw [whole]
      cases pieces with
      | nil =>
          refine ⟨[], c :: last, rfl, ends, fun outside back next others tail => ?_⟩
          rw [moves, goes_on outside back next others tail]
          rfl
      | cons piece pieces =>
          refine ⟨(c :: piece) :: pieces, last, rfl, ends, fun outside back next others tail => ?_⟩
          rw [moves, goes_on outside back next others tail]
          rfl

theorem mapM_append_cons_eq_some_iff {α β : Type} {step? : α → Option β} {front back : List α}
    {x : α} {results : List β} :
    (front ++ x :: back).mapM step? = some results ↔
      ∃ first y later, front.mapM step? = some first ∧ step? x = some y ∧
        back.mapM step? = some later ∧ results = first ++ y :: later := by
  simp only [List.mapM_append, List.mapM_cons, Option.bind_eq_bind, Option.bind_eq_some_iff,
    Option.pure_def, Option.some.injEq]
  apply Iff.intro
  · rintro ⟨first, made, _, ⟨y, own, later, rest, rfl⟩, rfl⟩
    exact ⟨first, y, later, made, own, rest, rfl⟩
  · rintro ⟨first, y, later, made, own, rest, rfl⟩
    exact ⟨first, made, _, ⟨y, own, later, rest, rfl⟩, rfl⟩

/-- A text whose globs can be read ends outside of classes. Behind a comma, the last of its globs
goes on with the first one of what comes next. -/
theorem exists_globs?_comma (reads : globs? text = some globs) :
    ∃ front glob, globs = front ++ [glob] ∧ endsInClass false text = false ∧
      ∀ back behind, globs? (text ++ ',' :: back) = some behind →
        ∃ next others, behind = front ++ (glob ++ .literal ',' :: next) :: others := by
  obtain ⟨pieces, last, whole, ends, goes_on⟩ :=
    exists_divide_eq_append false false text (fun _ => rfl)
  rw [ite_self] at ends
  rw [globs?, whole, mapM_append_cons_eq_some_iff] at reads
  obtain ⟨front, glob, later, made, own, rest, rfl⟩ := reads
  cases rest
  have outside : endsInClass false text = false :=
    ends.symm.trans (endsInClass_of_readFrom? nofun own)
  refine ⟨front, glob, rfl, outside, fun back behind reads => ?_⟩
  cases tail : divide false false back with
  | nil => exact absurd tail (divide_ne_nil false false back)
  | cons next others =>
      rw [globs?, goes_on outside back next others tail, mapM_append_cons_eq_some_iff] at reads
      obtain ⟨front', glob', later, made', joined, -, rfl⟩ := reads
      cases made.symm.trans made'
      rw [read?_comma own] at joined
      obtain ⟨tail, -, rfl⟩ := Option.map_eq_some_iff.1 joined
      exact ⟨tail, later, rfl⟩

/-! ## What joined globs describe -/

/-- What a glob describes that goes on behind a comma begins with what it describes without that,
and there is more. -/
theorem exists_covers_of_comma {others : List Glob} {next : Glob} {path : List Char}
    (covered : coversWithGaps ((glob ++ .literal ',' :: next) :: others) path = true) :
    ∃ own more, path = own ++ more ∧ more ≠ [] ∧ coversWithGaps [glob] own = true := by
  induction glob generalizing path with
  | nil =>
      obtain ⟨c, back, rfl, -⟩ := (coversWithGaps_token_iff (by simp)).1 covered
      exact ⟨[], c :: back, rfl, List.cons_ne_nil _ _, rfl⟩
  | cons token glob ih =>
      rw [List.cons_append] at covered
      by_cases run : token = .anyRun
      · subst run
        obtain ⟨run, back, rfl, within, behind⟩ := coversWithGaps_anyRun_iff.1 covered
        obtain ⟨own, more, rfl, rest, described⟩ := ih behind
        exact ⟨run ++ own, more, (List.append_assoc ..).symm, rest,
          coversWithGaps_anyRun_iff.2 ⟨run, own, rfl, within, described⟩⟩
      · obtain ⟨c, back, rfl, taken, behind⟩ := (coversWithGaps_token_iff run).1 covered
        obtain ⟨own, more, rfl, rest, described⟩ := ih behind
        exact ⟨c :: own, more, rfl, rest,
          (coversWithGaps_token_iff run).2 ⟨c, own, rfl, taken, described⟩⟩

/-- The same for several globs, the last of which goes on. -/
theorem exists_coversWithGaps_of_comma {front others : List Glob} {next : Glob} {path : List Char}
    (covered : coversWithGaps (front ++ (glob ++ .literal ',' :: next) :: others) path = true) :
    ∃ own more, path = own ++ more ∧ more ≠ [] ∧ coversWithGaps (front ++ [glob]) own = true := by
  induction front generalizing path with
  | nil => exact exists_covers_of_comma covered
  | cons first front ih =>
      rw [List.cons_append] at covered ⊢
      obtain ⟨start, back, rfl, taken, behind⟩ := coversWithGaps_cons_iff.1 covered
      obtain ⟨gap, back, rfl, described⟩ := (describesRest_iff (by simp)).1 behind
      obtain ⟨own, more, rfl, rest, described⟩ := ih described
      refine ⟨start ++ (gap ++ own), more, by simp only [List.append_assoc], rest, ?_⟩
      exact coversWithGaps_cons_iff.2 ⟨start, gap ++ own, rfl, taken,
        (describesRest_iff (by simp)).2 ⟨gap, own, rfl, described⟩⟩

end DnsReconcile.Pattern
