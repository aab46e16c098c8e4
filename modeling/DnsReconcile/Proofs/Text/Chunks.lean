/-
# Text cut at octets

A text is cut into pieces of at most `chunkLimit` octets, each as long as that allows. What this
asks of the pieces does not say how they are found, and yet no two lists of pieces meet it. The
pieces can be found in the octets that a text is stored in: from the limit one goes back to a
place where a character begins, cuts there, and starts again behind the cut. A place inside a
character or behind the end is no place to cut, but none is ever tried, and every round gets
further.
-/

import DnsReconcile.Text.Octets
import Mathlib.Data.List.Basic
import Mathlib.Data.List.Chain
import Mathlib.Data.PFun

namespace DnsReconcile.Text

variable {text piece rest : List Char} {pieces : List (List Char)} {c : Char} {used : Nat}

/-! ## Octets -/

theorem octets_cons (c : Char) (text : List Char) : octets (c :: text) = c.utf8Size + octets text :=
  rfl

theorem octets_append (first second : List Char) :
    octets (first ++ second) = octets first + octets second := by
  induction first with
  | nil => exact (Nat.zero_add _).symm
  | cons c first ih => rw [List.cons_append, octets_cons, octets_cons, ih, Nat.add_assoc]

/-- Octets are counted as a stored text has them. -/
theorem utf8ByteSize_ofList (text : List Char) :
    (String.ofList text).utf8ByteSize = octets text := by
  induction text with
  | nil => rfl
  | cons c text ih =>
      rw [String.ofList_cons, String.utf8ByteSize_append, String.utf8ByteSize_singleton, ih,
        octets_cons]

/-- A character fits into a piece of its own. -/
theorem utf8Size_le_chunkLimit (c : Char) : c.utf8Size ≤ chunkLimit :=
  Nat.le_trans c.utf8Size_le_four (by decide)

/-! ## Pieces -/

/-- How a text is cut from the left. A piece ends where the next character has no room. -/
inductive Cuts : List Char → List (List Char) → Prop where
  | short {text : List Char} (fits : octets text ≤ chunkLimit) : Cuts text [text]
  | long {piece : List Char} {c : Char} {rest : List Char} {pieces : List (List Char)}
      (fits : octets piece ≤ chunkLimit) (full : chunkLimit < octets piece + c.utf8Size)
      (others : Cuts (c :: rest) pieces) : Cuts (piece ++ c :: rest) (piece :: pieces)

/-- A text that is too long for the piece under way has a character that no longer fits. -/
theorem exists_full_piece (room : used ≤ chunkLimit) (long : chunkLimit < used + octets text) :
    ∃ piece c rest, text = piece ++ c :: rest ∧ used + octets piece ≤ chunkLimit ∧
      chunkLimit < used + octets piece + c.utf8Size := by
  induction text generalizing used with
  | nil => exact absurd room (Nat.not_le.2 long)
  | cons c text ih =>
      by_cases fits : used + c.utf8Size ≤ chunkLimit
      · rw [octets_cons, ← Nat.add_assoc] at long
        obtain ⟨piece, d, rest, rfl, bound, full⟩ := ih fits long
        refine ⟨c :: piece, d, rest, rfl, ?_⟩
        rw [octets_cons, ← Nat.add_assoc]
        exact ⟨bound, full⟩
      · exact ⟨[], c, text, rfl, room, Nat.not_le.1 fits⟩

/-- Short text is its own only piece. -/
theorem chunksFrom_of_short (short : used + octets text ≤ chunkLimit) :
    chunksFrom used text = [text] := by
  induction text generalizing used with
  | nil => rfl
  | cons c rest ih =>
      have fits : used + c.utf8Size + octets rest ≤ chunkLimit := by
        rw [Nat.add_assoc]
        exact short
      rw [chunksFrom, if_pos (Nat.le_trans (Nat.le_add_right _ _) fits), ih fits]

theorem chunks_of_short (short : octets text ≤ chunkLimit) : chunks text = [text] :=
  chunksFrom_of_short ((Nat.zero_add _).symm ▸ short)

/-- The piece under way ends where a character no longer fits, and the rest is cut on its own. -/
theorem chunksFrom_of_full (fits : used + octets piece ≤ chunkLimit)
    (full : chunkLimit < used + octets piece + c.utf8Size) :
    chunksFrom used (piece ++ c :: rest) = piece :: chunks (c :: rest) := by
  induction piece generalizing used with
  | nil =>
      have alone : 0 + c.utf8Size ≤ chunkLimit := by
        rw [Nat.zero_add]
        exact utf8Size_le_chunkLimit c
      have closed : ¬ used + c.utf8Size ≤ chunkLimit := Nat.not_le.2 full
      rw [List.nil_append, chunks, chunksFrom, chunksFrom, if_neg closed, if_pos alone,
        Nat.zero_add]
      cases chunksFrom c.utf8Size rest <;> rfl
  | cons d piece ih =>
      rw [octets_cons, ← Nat.add_assoc] at fits full
      rw [List.cons_append, chunksFrom, if_pos (Nat.le_trans (Nat.le_add_right _ _) fits),
        ih fits full]

theorem chunks_of_full (fits : octets piece ≤ chunkLimit)
    (full : chunkLimit < octets piece + c.utf8Size) :
    chunks (piece ++ c :: rest) = piece :: chunks (c :: rest) :=
  chunksFrom_of_full ((Nat.zero_add _).symm ▸ fits) ((Nat.zero_add _).symm ▸ full)

/-- A piece that is full is not empty. -/
theorem ne_nil_of_full (full : chunkLimit < octets piece + c.utf8Size) : piece ≠ [] := by
  rintro rfl
  have alone := utf8Size_le_chunkLimit c
  rw [octets, List.foldr_nil] at full
  omega

theorem cuts_chunks (text : List Char) : Cuts text (chunks text) := by
  induction size : text.length using Nat.strongRecOn generalizing text with
  | ind size ih =>
      subst size
      by_cases fits : octets text ≤ chunkLimit
      · rw [chunks_of_short fits]
        exact .short fits
      · have long : chunkLimit < 0 + octets text := by omega
        obtain ⟨piece, c, rest, rfl, bound, full⟩ := exists_full_piece (Nat.zero_le _) long
        rw [Nat.zero_add] at bound full
        have present := List.length_pos_of_ne_nil (ne_nil_of_full full)
        rw [chunks_of_full bound full]
        refine .long bound full (ih _ ?_ (c :: rest) rfl)
        rw [List.length_append]
        omega

namespace Cuts

/-- Nothing is lost. -/
theorem flatten (cuts : Cuts text pieces) : pieces.flatten = text := by
  induction cuts with
  | short fits => exact List.append_nil _
  | long fits full others ih => rw [List.flatten_cons, ih]

theorem octets_le (cuts : Cuts text pieces) : ∀ piece ∈ pieces, octets piece ≤ chunkLimit := by
  induction cuts with
  | short fits => exact List.forall_mem_singleton.2 fits
  | long fits full others ih => exact List.forall_mem_cons.2 ⟨fits, ih⟩

/-- The first piece begins as the text does. -/
theorem exists_eq_cons (cuts : Cuts (c :: rest) pieces) :
    ∃ front others, pieces = (c :: front) :: others := by
  generalize whole : c :: rest = text at cuts
  cases cuts with
  | short fits => exact ⟨rest, [], whole ▸ rfl⟩
  | @long piece d behind pieces fits full others =>
      obtain ⟨first, front, rfl⟩ := List.exists_cons_of_ne_nil (ne_nil_of_full full)
      obtain rfl := (List.cons.inj whole).1
      exact ⟨front, pieces, rfl⟩

theorem pieces_ne_nil (cuts : Cuts text pieces) : pieces ≠ [] := by
  cases cuts with
  | short fits => exact List.cons_ne_nil _ _
  | long fits full others => exact List.cons_ne_nil _ _

/-- Text that is not empty has no empty pieces. -/
theorem piece_ne_nil (cuts : Cuts text pieces) (present : text ≠ []) :
    ∀ piece ∈ pieces, piece ≠ [] := by
  induction cuts with
  | short fits => exact List.forall_mem_singleton.2 present
  | long fits full others ih =>
      exact List.forall_mem_cons.2 ⟨ne_nil_of_full full, ih (List.cons_ne_nil _ _)⟩

/-- No piece has room for the next character. -/
theorem isChain (cuts : Cuts text pieces) :
    pieces.IsChain fun piece next => ∀ c ∈ next.head?, chunkLimit < octets piece + c.utf8Size := by
  induction cuts with
  | short fits => exact List.isChain_singleton _
  | long fits full others ih =>
      obtain ⟨front, behind, rfl⟩ := others.exists_eq_cons
      refine List.isChain_cons_cons.2 ⟨fun d first => ?_, ih⟩
      rwa [← Option.some.inj first]

end Cuts

/-- What is asked of the pieces of a text. -/
structure IsGreedyCut (text : List Char) (pieces : List (List Char)) : Prop where
  whole : pieces.flatten = text
  bound : ∀ piece ∈ pieces, octets piece ≤ chunkLimit
  short : octets text ≤ chunkLimit → pieces = [text]
  present : chunkLimit < octets text → ∀ piece ∈ pieces, piece ≠ []
  full : pieces.IsChain fun piece next => ∀ c ∈ next.head?, chunkLimit < octets piece + c.utf8Size

theorem isGreedyCut_chunks (text : List Char) : IsGreedyCut text (chunks text) where
  whole := (cuts_chunks text).flatten
  bound := (cuts_chunks text).octets_le
  short := chunks_of_short
  present long := (cuts_chunks text).piece_ne_nil fun empty => by
    rw [empty] at long
    exact absurd long (by decide)
  full := (cuts_chunks text).isChain

/-- Full pieces, put together, are cut at the same places. -/
theorem chunks_flatten_of_full (given : pieces ≠ []) (present : ∀ piece ∈ pieces, piece ≠ [])
    (bound : ∀ piece ∈ pieces, octets piece ≤ chunkLimit)
    (full : pieces.IsChain fun piece next =>
      ∀ c ∈ next.head?, chunkLimit < octets piece + c.utf8Size) :
    chunks pieces.flatten = pieces := by
  induction pieces with
  | nil => exact absurd rfl given
  | cons piece others ih =>
      obtain ⟨own, bound⟩ := List.forall_mem_cons.1 bound
      obtain ⟨-, present⟩ := List.forall_mem_cons.1 present
      cases others with
      | nil =>
          rw [List.flatten_singleton]
          exact chunks_of_short own
      | cons next others =>
          obtain ⟨room, full⟩ := List.isChain_cons_cons.1 full
          have again := ih (List.cons_ne_nil _ _) present bound full
          obtain ⟨c, front, rfl⟩ := List.exists_cons_of_ne_nil (present next List.mem_cons_self)
          rw [List.flatten_cons, List.flatten_cons, List.cons_append,
            chunks_of_full own (room c rfl), ← List.cons_append, ← List.flatten_cons, again]

/-- There is only one way to cut a text. -/
theorem IsGreedyCut.eq_chunks (cut : IsGreedyCut text pieces) : pieces = chunks text := by
  by_cases fits : octets text ≤ chunkLimit
  · rw [cut.short fits, chunks_of_short fits]
  · have long := Nat.not_le.1 fits
    have given : pieces ≠ [] := by
      rintro rfl
      rw [← cut.whole] at long
      exact absurd long (by decide)
    rw [← cut.whole]
    exact (chunks_flatten_of_full given (cut.present long) cut.bound cut.full).symm

/-! ## Places in the octets of a text -/

/-- The text in front of a place in the octets of a stored text, and the text behind it. There is
neither if the place is inside a character or behind the end. -/
def sliceAt? (text : String) (place : Nat) : Option (String × String) :=
  if apart : (String.Pos.Raw.mk place).IsValid text then
    some ((text.sliceTo (text.pos _ apart)).copy, (text.sliceFrom (text.pos _ apart)).copy)
  else none

/-- The last place up to a given one that is not inside a character or behind the end. -/
def lastPlace? (text : String) : Nat → Option Nat
  | 0 => if (String.Pos.Raw.mk 0).IsValid text then some 0 else none
  | place + 1 =>
      if (String.Pos.Raw.mk (place + 1)).IsValid text then some (place + 1)
      else lastPlace? text place

/-- One round of cutting a stored text, of which some pieces are already cut off. It either comes to
an end or leaves what is to be cut next, unless the cut goes wrong. -/
def cutRound : List String × String → Option (List String ⊕ List String × String)
  | (done, rest) =>
    if chunkLimit < rest.utf8ByteSize then do
      let place ← lastPlace? rest chunkLimit
      let (piece, behind) ← sliceAt? rest place
      return .inr (done ++ [piece], behind)
    else if rest ≠ "" ∨ done = [] then some (.inl (done ++ [rest]))
    else some (.inl done)

/-- Cut a stored text, round by round. There is no result if a cut goes wrong, and none if the
rounds never end. -/
def cutOctets : List String × String → Part (List String) :=
  PFun.fix fun state => Part.ofOption (cutRound state)

theorem sliceAt?_append (front behind : String) :
    sliceAt? (front ++ behind) front.utf8ByteSize = some (front, behind) := by
  have apart : (String.Pos.Raw.mk front.utf8ByteSize).IsValid (front ++ behind) :=
    String.Pos.Raw.isValid_iff_exists_append.2 ⟨front, behind, rfl, rfl⟩
  have own : (String.pos _ _ apart).Splits front behind := ⟨rfl, rfl⟩
  obtain ⟨before, after⟩ := (String.Pos.splits _).eq own
  rw [sliceAt?, dif_pos apart, before, after]

/-- Going back from a place ends at the last one before it where the text can be cut. -/
theorem lastPlace?_eq_some {text : String} {place limit : Nat}
    (apart : (String.Pos.Raw.mk place).IsValid text) (before : place ≤ limit)
    (inside : ∀ other, place < other → other ≤ limit →
      ¬ (String.Pos.Raw.mk other).IsValid text) :
    lastPlace? text limit = some place := by
  induction limit with
  | zero =>
      obtain rfl := Nat.le_zero.1 before
      rw [lastPlace?, if_pos apart]
  | succ limit ih =>
      rcases Nat.lt_or_eq_of_le before with less | rfl
      · rw [lastPlace?, if_neg (inside _ less (Nat.le_refl _))]
        exact ih (Nat.le_of_lt_succ less) fun other above below =>
          inside other above (Nat.le_succ_of_le below)
      · rw [lastPlace?, if_pos apart]

/-- Between the beginning of a character and its end a text cannot be cut. -/
theorem not_isValid_inside {place : Nat} (above : octets piece < place)
    (below : place < octets piece + c.utf8Size) :
    ¬ (String.Pos.Raw.mk place).IsValid (String.ofList (piece ++ c :: rest)) := by
  intro apart
  obtain ⟨front, behind, whole, own⟩ := String.Pos.Raw.isValid_iff_exists_append.1 apart
  have size : place = octets front.toList := by
    rw [← utf8ByteSize_ofList, String.ofList_toList]
    exact congrArg String.Pos.Raw.byteIdx own
  have parts : piece ++ c :: rest = front.toList ++ behind.toList := by
    rw [← String.toList_append, ← whole, String.toList_ofList]
  rcases List.append_eq_append_iff.1 parts with ⟨more, longer, after⟩ | ⟨less, shorter, -⟩
  · rw [size, longer, octets_append] at above below
    cases more with
    | nil => exact absurd above (Nat.lt_irrefl _)
    | cons d more =>
        obtain rfl := (List.cons.inj after).1
        rw [octets_cons] at below
        omega
  · rw [shorter, octets_append] at above
    omega

/-- The place that is found is where a character no longer fits. -/
theorem lastPlace?_of_full (fits : octets piece ≤ chunkLimit)
    (full : chunkLimit < octets piece + c.utf8Size) :
    lastPlace? (String.ofList (piece ++ c :: rest)) chunkLimit = some (octets piece) := by
  refine lastPlace?_eq_some ?_ fits fun other above below =>
    not_isValid_inside above (Nat.lt_of_le_of_lt below full)
  refine String.Pos.Raw.isValid_iff_exists_append.2
    ⟨String.ofList piece, String.ofList (c :: rest), String.ofList_append, ?_⟩
  rw [← utf8ByteSize_ofList]
  rfl

/-- The last round. -/
theorem cutRound_of_short {done : List String} (fits : octets text ≤ chunkLimit)
    (left : text ≠ [] ∨ done = []) :
    cutRound (done, String.ofList text) = some (.inl (done ++ [String.ofList text])) := by
  have named : String.ofList text ≠ "" ∨ done = [] :=
    left.imp_left fun present empty => present (by
      rw [← String.toList_ofList (l := text), empty]
      rfl)
  rw [cutRound, utf8ByteSize_ofList, if_neg (Nat.not_lt.2 fits), if_pos named]

/-- A round before the last. -/
theorem cutRound_of_full {done : List String} (fits : octets piece ≤ chunkLimit)
    (full : chunkLimit < octets piece + c.utf8Size) :
    cutRound (done, String.ofList (piece ++ c :: rest)) =
      some (.inr (done ++ [String.ofList piece], String.ofList (c :: rest))) := by
  have long : chunkLimit < octets (piece ++ c :: rest) := by
    rw [octets_append, octets_cons]
    omega
  have cut : sliceAt? (String.ofList (piece ++ c :: rest)) (octets piece) =
      some (String.ofList piece, String.ofList (c :: rest)) := by
    rw [String.ofList_append, ← utf8ByteSize_ofList]
    exact sliceAt?_append _ _
  rw [cutRound, utf8ByteSize_ofList, if_pos long, lastPlace?_of_full fits full,
    Option.bind_eq_bind, Option.bind_some, cut]
  rfl

/-- All rounds together. -/
theorem Cuts.mem_cutOctets (cuts : Cuts text pieces) {done : List String}
    (left : text ≠ [] ∨ done = []) :
    done ++ pieces.map String.ofList ∈ cutOctets (done, String.ofList text) := by
  induction cuts generalizing done with
  | short fits =>
      refine PFun.fix_stop (Part.mem_ofOption.2 ?_)
      rw [cutRound_of_short fits left]
      rfl
  | @long piece c rest pieces fits full others ih =>
      have next : (done ++ [String.ofList piece]) ++ pieces.map String.ofList ∈
          cutOctets (done ++ [String.ofList piece], String.ofList (c :: rest)) :=
        ih (.inl (List.cons_ne_nil _ _))
      rw [List.append_assoc] at next
      refine PFun.mem_fix_iff.2 (.inr ⟨_, Part.mem_ofOption.2 ?_, next⟩)
      rw [cutRound_of_full fits full]
      rfl

/-- Any text is cut into pieces, greedily and without loss. This is what cutting it in its octets
gives, which always comes to an end and never cuts into a character; it is the only way to do so;
and neither the pieces nor what they make up are cut at other places again. -/
theorem text_cut_greedily (text : String) :
    cutOctets ([], text) = Part.some ((chunks text.toList).map String.ofList) ∧
      IsGreedyCut text.toList (chunks text.toList) ∧
      (∀ pieces, IsGreedyCut text.toList pieces → pieces = chunks text.toList) ∧
      chunks (chunks text.toList).flatten = chunks text.toList ∧
      ∀ piece ∈ chunks text.toList, chunks piece = [piece] := by
  have cuts := cuts_chunks text.toList
  have found : [] ++ (chunks text.toList).map String.ofList ∈
      cutOctets ([], String.ofList text.toList) := cuts.mem_cutOctets (.inr rfl)
  rw [String.ofList_toList, List.nil_append] at found
  refine ⟨Part.eq_some_iff.2 found, isGreedyCut_chunks _, fun pieces => IsGreedyCut.eq_chunks,
    ?_, ?_⟩
  · rw [cuts.flatten]
  · exact fun piece member => chunks_of_short (cuts.octets_le piece member)

example : chunks (List.replicate 200 'é') = [List.replicate 127 'é', List.replicate 73 'é'] := by
  decide +kernel

end DnsReconcile.Text
