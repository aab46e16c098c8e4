/-
# Reading the members of objects

An object made of members with different keys has them in key order. A record is read from an
object if every member has a field that takes its value, in whatever order they come, and if
no required field is missing. It is not read if one is.
-/

import DnsReconcile.Json.Reader
import DnsReconcile.Proofs.Refusals

namespace DnsReconcile.Json

/-! ## Objects -/

section Objects

variable {key : String} {value : Json} {members listed : List (String × Json)}

/-- Members are put into objects as entries are into dictionaries. -/
theorem insertMember_eq (key : String) (value : Json) (members : List (String × Json)) :
    insertMember key value members = Dict.insertEntry key value members := by
  induction members with
  | nil => rfl
  | cons member rest ih => rw [insertMember, Dict.insertEntry, ih]

theorem insertMember_perm (fresh : key ∉ members.map Prod.fst) :
    (insertMember key value members).Perm ((key, value) :: members) := by
  induction members with
  | nil => exact .refl _
  | cons member rest ih =>
      rw [List.map_cons, List.mem_cons, not_or] at fresh
      unfold insertMember
      split
      · exact .refl _
      · rw [if_neg fresh.1]
        exact ((ih fresh.2).cons member).trans (.swap _ _ _)

theorem foldl_insertMember (distinct : ((listed ++ members).map Prod.fst).Nodup)
    (ordered : listed.Pairwise fun first second => first.1 < second.1) :
    (members.foldl (fun listed member => insertMember member.1 member.2 listed) listed).Perm
        (listed ++ members) ∧
      (members.foldl (fun listed member => insertMember member.1 member.2 listed) listed).Pairwise
        fun first second => first.1 < second.1 := by
  induction members generalizing listed with
  | nil => exact ⟨.of_eq (List.append_nil listed).symm, ordered⟩
  | cons member rest ih =>
      have fresh : member.1 ∉ listed.map Prod.fst := by
        rw [List.map_append, List.map_cons, List.nodup_append] at distinct
        exact fun known => distinct.2.2 _ known _ List.mem_cons_self rfl
      have one_more : (insertMember member.1 member.2 listed ++ rest).Perm
          (listed ++ member :: rest) :=
        ((insertMember_perm fresh).append_right rest).trans List.perm_middle.symm
      have ordered' : (insertMember member.1 member.2 listed).Pairwise
          fun first second => first.1 < second.1 := by
        rw [insertMember_eq]
        exact Dict.pairwise_insertEntry _ _ ordered
      obtain ⟨same, sorted⟩ := ih ((one_more.map Prod.fst).nodup_iff.2 distinct) ordered'
      exact ⟨same.trans one_more, sorted⟩

/-- An object of members is the list of them in key order, here the order of some keys that
they are among. -/
theorem ofMembers_eq (keys : List String) (same : listed.Perm members)
    (named : (listed.map Prod.fst).Sublist keys) (ascending : keys.Pairwise (· < ·)) :
    ofMembers members = .object listed := by
  have ordered : listed.Pairwise fun first second => first.1 < second.1 :=
    List.pairwise_map.1 (ascending.sublist named)
  have distinct : (members.map Prod.fst).Nodup := by
    rw [← (same.map Prod.fst).nodup_iff, List.nodup_iff_pairwise_ne, List.pairwise_map]
    refine ordered.imp fun {first second} less equal => ?_
    exact String.lt_irrefl _ (equal ▸ less)
  obtain ⟨perm, sorted⟩ := foldl_insertMember (List.nil_append members ▸ distinct) .nil
  refine congrArg Json.object (List.Perm.eq_of_pairwise ?_ sorted ordered (perm.trans same.symm))
  intro first second _ _ less more
  exact absurd (String.lt_trans less more) (String.lt_irrefl _)

end Objects

/-! ## Scalars -/

namespace Reader

theorem text_ofValue (value : String) : text (Source.ofValue (.string value)) = .ok value :=
  rfl

theorem natBelow_ofValue {bound n : Nat} (below : n < bound) :
    natBelow bound (Source.ofValue (.nat n)) = .ok n := by
  simp only [natBelow, integer, Json.nat, Json.int, Source.ofValue]
  rw [if_pos below]

theorem uint8_ofValue (n : UInt8) : uint8 (Source.ofValue (.nat n.toNat)) = .ok n := by
  rw [uint8, natBelow_ofValue n.toNat_lt_size]
  exact congrArg Except.ok (UInt8.ofNat_toNat (x := n))

theorem uint16_ofValue (n : UInt16) : uint16 (Source.ofValue (.nat n.toNat)) = .ok n := by
  rw [uint16, natBelow_ofValue n.toNat_lt_size]
  exact congrArg Except.ok (UInt16.ofNat_toNat (x := n))

theorem uint32_ofValue (n : UInt32) : uint32 (Source.ofValue (.nat n.toNat)) = .ok n := by
  rw [uint32, natBelow_ofValue n.toNat_lt_size]
  exact congrArg Except.ok (UInt32.ofNat_toNat (x := n))

section Lists

universe u

variable {α : Type u} {read : Reader α} {toJson : α → Json} {values : List α}
variable (each : ∀ value ∈ values, read (Source.ofValue (toJson value)) = .ok value)
include each

theorem items_ofValues : items read (Source.ofValues (values.map toJson)) = .ok values := by
  induction values with
  | nil => rfl
  | cons value rest ih =>
      obtain ⟨own, others⟩ := List.forall_mem_cons.1 each
      rw [List.map_cons, Source.ofValues, items, own]
      exact bind_eq_ok_iff.2 ⟨value, rfl, bind_eq_ok_iff.2 ⟨rest, ih others, rfl⟩⟩

theorem list_ofValue : list read (Source.ofValue (.array (values.map toJson))) = .ok values := by
  simp only [Source.ofValue, list, items_ofValues each]

end Lists

end Reader

/-! ## Values as found -/

namespace Source

theorem keys_ofMemberValues (members : List (String × Json)) :
    (ofMemberValues members).map Prod.fst = members.map fun member => some member.1 := by
  induction members with
  | nil => rfl
  | cons member rest ih => rw [List.map_cons, ← ih]; rfl

mutual

/-- What is found of a value has a value. -/
theorem isSome_value?_ofValue (value : Json) : (ofValue value).value?.isSome = true := by
  cases value with
  | null => rfl
  | bool value => rfl
  | number value => rfl
  | string value => rfl
  | array items => exact Option.isSome_map.trans (isSome_values?_ofValues items)
  | object members => exact Option.isSome_map.trans (isSome_memberValues?_ofMemberValues members)
termination_by structural value

theorem isSome_values?_ofValues (items : List Json) : (values? (ofValues items)).isSome = true := by
  cases items with
  | nil => rfl
  | cons item rest =>
      obtain ⟨value, own⟩ := Option.isSome_iff_exists.1 (isSome_value?_ofValue item)
      obtain ⟨others, following⟩ := Option.isSome_iff_exists.1 (isSome_values?_ofValues rest)
      simp [ofValues, values?, own, following]
termination_by structural items

theorem isSome_memberValues?_ofMemberValues (members : List (String × Json)) :
    (memberValues? (ofMemberValues members)).isSome = true := by
  cases members with
  | nil => rfl
  | cons member rest =>
      obtain ⟨key, inner⟩ := member
      obtain ⟨value, own⟩ := Option.isSome_iff_exists.1 (isSome_value?_ofValue inner)
      obtain ⟨others, following⟩ :=
        Option.isSome_iff_exists.1 (isSome_memberValues?_ofMemberValues rest)
      simp [ofMemberValues, memberValues?, own, following]
termination_by structural members

end

end Source

/-! ## Records -/

universe u

variable {σ : Type u} {fields : List (Field σ)} {draft middle final : σ}
variable {members others : List (String × Json)}

/-- Reading members one after the other turns a draft of a record into another one. -/
inductive Stores (fields : List (Field σ)) : List (String × Json) → σ → σ → Prop where
  | nil (draft : σ) : Stores fields [] draft draft
  | cons {key : String} {value : Json} {rest : List (String × Json)} {field : Field σ}
      {draft middle final : σ} (named : fields.find? (·.name == key) = some field)
      (stored : field.store (Source.ofValue value) draft = .ok middle)
      (later : Stores fields rest middle final) :
      Stores fields ((key, value) :: rest) draft final

namespace Stores

theorem append (first : Stores fields members draft middle)
    (second : Stores fields others middle final) :
    Stores fields (members ++ others) draft final := by
  induction first with
  | nil => exact second
  | cons named stored _ ih => exact .cons named stored (ih second)

section Member

variable {α : Type u} {key : String} {value : Json} {read : Reader α} {put : σ → α → σ}
variable {content : α} (found : read (Source.ofValue value) = .ok content)
variable (later : Stores fields others (put draft content) final)
include found later

theorem required (named : fields.find? (·.name == key) = some (.required key read put)) :
    Stores fields ((key, value) :: others) draft final :=
  .cons named (congrArg (·.map (put draft)) found) later

theorem defaulted (named : fields.find? (·.name == key) = some (.defaulted key read put)) :
    Stores fields ((key, value) :: others) draft final :=
  .cons named (congrArg (·.map (put draft)) found) later

end Member

/-- Members that are stored make up a record if they have different keys and no required
field is missing. -/
theorem readMembers {seen : List String} (stores : Stores fields members draft final)
    (distinct : (members.map Prod.fst).Nodup) (fresh : ∀ key ∈ members.map Prod.fst, key ∉ seen)
    (complete : ∀ field ∈ fields, field.presence = .required →
      field.name ∈ seen ∨ field.name ∈ members.map Prod.fst) :
    Shape.readMembers fields .closed seen draft (Source.ofMemberValues members) = .ok final := by
  induction stores generalizing seen with
  | nil draft =>
      have present : ¬ (fields.any fun field =>
          field.presence == .required && !seen.contains field.name) = true := by
        rw [List.any_eq_true]
        rintro ⟨field, member, missing⟩
        rw [Bool.and_eq_true, beq_iff_eq, Bool.not_eq_true'] at missing
        have known := (complete field member missing.1).resolve_right List.not_mem_nil
        rw [List.contains_iff_mem.2 known] at missing
        exact Bool.false_ne_true missing.2.symm
      exact if_neg present
  | @cons key value rest field draft middle final named stored _ ih =>
      rw [List.map_cons, List.nodup_cons] at distinct
      have new : ¬ seen.contains key = true := fun known =>
        fresh key List.mem_cons_self (List.contains_iff_mem.1 known)
      simp only [Source.ofMemberValues, Shape.readMembers, named, if_neg new, stored]
      refine ih distinct.2 (fun other member known => ?_) fun field member required => ?_
      · rcases List.mem_cons.1 known with rfl | earlier
        · exact distinct.1 member
        · exact fresh other (List.mem_cons_of_mem _ member) earlier
      · rcases complete field member required with earlier | here
        · exact Or.inl (List.mem_cons_of_mem _ earlier)
        · rcases List.mem_cons.1 here with rfl | later
          · exact Or.inl List.mem_cons_self
          · exact Or.inr later

end Stores

/-- A record is read from an object of such members. -/
theorem Shape.readNamed_of_stores {shape : Shape σ}
    (stores : Stores shape.fields members shape.initial final)
    (distinct : (members.map Prod.fst).Nodup)
    (complete : ∀ field ∈ shape.fields, field.presence = .required →
      field.name ∈ members.map Prod.fst) :
    shape.readNamed (Source.ofValue (.object members)) = .ok final :=
  stores.readMembers distinct (fun _ _ => List.not_mem_nil) fun field member required =>
    Or.inr (complete field member required)

/-- The same, with the fields given in any way. The keys of the members are among some keys, and
those that are needed are there. -/
theorem Shape.read_of_stores {shape : Shape σ} (keys needed : List String)
    (stores : Stores shape.fields members shape.initial final)
    (named : (members.map Prod.fst).Sublist keys) (distinct : keys.Nodup)
    (required : (shape.fields.all fun field =>
      field.presence != .required || needed.contains field.name) = true)
    (present : needed ⊆ members.map Prod.fst) :
    shape.read (Source.ofValue (.object members)) = .ok final := by
  refine stores.readMembers (named.nodup distinct) (fun _ _ => List.not_mem_nil)
    fun field member asked => Or.inr (present ?_)
  have known := List.all_eq_true.1 required field member
  rwa [asked, bne_self_eq_false, Bool.false_or, List.contains_iff_mem] at known

/-- A record that is read has got its required fields. -/
theorem required_of_readMembers {ending : Ending} {seen : List String}
    {sources : List (Option String × Source)}
    (found : Shape.readMembers fields ending seen draft sources = .ok final)
    {field : Field σ} (member : field ∈ fields) (required : field.presence = .required) :
    field.name ∈ seen ∨ some field.name ∈ sources.map Prod.fst := by
  induction sources generalizing seen draft with
  | nil =>
      cases ending with
      | broken => cases found
      | closed =>
          simp only [Shape.readMembers] at found
          split at found
          · cases found
          · next present =>
            refine Or.inl (by_contra fun unseen => present (List.any_eq_true.2 ⟨field, member, ?_⟩))
            rw [required, beq_self_eq_true, Bool.true_and, Bool.not_eq_true', Bool.eq_false_iff]
            exact fun known => unseen (List.contains_iff_mem.1 known)
  | cons source rest ih =>
      obtain ⟨key?, source⟩ := source
      cases key? with
      | none => cases found
      | some key =>
          simp only [Shape.readMembers] at found
          split at found
          · split at found
            · exact (ih found).imp id (List.mem_cons_of_mem _)
            · cases found
          · split at found
            · cases found
            · split at found
              · rcases ih found with seen | later
                · rcases List.mem_cons.1 seen with same | earlier
                  · exact Or.inr (same ▸ List.mem_cons_self)
                  · exact Or.inl earlier
                · exact Or.inr (List.mem_cons_of_mem _ later)
              · cases found

/-- An object without a required member is not read. -/
theorem Shape.readNamed_of_missing {shape : Shape σ} (name : String)
    (needed : (shape.fields.any fun field => field.presence == .required && field.name == name)
      = true)
    (missing : name ∉ members.map Prod.fst) :
    ∃ fault, shape.readNamed (Source.ofValue (.object members)) = .error fault := by
  obtain ⟨field, known, required⟩ := List.any_eq_true.1 needed
  rw [Bool.and_eq_true, beq_iff_eq, beq_iff_eq] at required
  obtain ⟨required, rfl⟩ := required
  cases found : shape.readNamed (Source.ofValue (.object members)) with
  | error fault => exact ⟨fault, rfl⟩
  | ok record =>
      rcases required_of_readMembers found known required with seen | member
      · exact absurd seen List.not_mem_nil
      · rw [Source.keys_ofMemberValues, List.mem_map] at member
        obtain ⟨own, member, same⟩ := member
        rw [← Option.some.inj same] at missing
        exact absurd (List.mem_map_of_mem member) missing

/-! ## Alternatives -/

namespace Reader

variable {α : Type u} {read : Reader α} {readers : List (Reader α)}

theorem firstOf_cons_of_ok {given : Json} {value : α}
    (found : read (Source.ofValue given) = .ok value) :
    firstOf (read :: readers) (Source.ofValue given) = .ok value := by
  obtain ⟨whole, known⟩ := Option.isSome_iff_exists.1 (Source.isSome_value?_ofValue given)
  simp [firstOf, known, found, Except.toOption]

theorem firstOf_cons_of_error {source : Source} {fault : Fault}
    (failed : read source = .error fault) :
    firstOf (read :: readers) source = firstOf readers source := by
  simp [firstOf, failed, Except.toOption]

end Reader

end DnsReconcile.Json
