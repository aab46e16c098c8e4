/-
# Entries as they are sent

An entry that is written as JSON and read again is the entry it was, but for what only
Cloudflare says of it. Members that were left out come back as the defaults they stood for,
and a payload given by its fields is told apart from those of other types by the names of
its fields.
-/

import DnsReconcile.Cloudflare.Entry
import DnsReconcile.Proofs.Json.Members
import DnsReconcile.Proofs.Json.PrintedText
import Mathlib.Algebra.Order.Group.Multiset
import Mathlib.Tactic.Abel

namespace DnsReconcile.Cloudflare

open Json

theorem readable_bool {level : Nat} (value : Bool) : Readable level (.bool value) :=
  trivial

theorem readable_uint8 (n : UInt8) {level : Nat} : Readable level (.nat n.toNat) :=
  fitsWord_nat (Nat.lt_trans n.toNat_lt_size (by decide))

theorem readable_uint16 (n : UInt16) {level : Nat} : Readable level (.nat n.toNat) :=
  fitsWord_nat (Nat.lt_trans n.toNat_lt_size (by decide))

theorem SrvTarget.read_ofValue (target : SrvTarget) :
    SrvTarget.read (Source.ofValue target.toJson) = .ok target := by
  cases target with
  | name text => exact Reader.firstOf_cons_of_ok rfl
  | flag value => exact (Reader.firstOf_cons_of_error rfl).trans (Reader.firstOf_cons_of_ok rfl)

namespace Fields

/-! ## Payloads given by their fields -/

/-- The members of a payload in key order. -/
def members : Fields → List (String × Json)
  | srv priority weight port target =>
      [("port", .nat port.toNat), ("priority", .nat priority.toNat), ("target", target.toJson),
        ("weight", .nat weight.toNat)]
  | caa flags tag value =>
      [("flags", .nat flags.toNat), ("tag", .string tag), ("value", .string value)]
  | tlsa usage selector matchingType certificate =>
      [("certificate", .string certificate), ("matching_type", .nat matchingType.toNat),
        ("selector", .nat selector.toNat), ("usage", .nat usage.toNat)]
  | sshfp algorithm fingerprintType fingerprint =>
      [("algorithm", .nat algorithm.toNat), ("fingerprint", .string fingerprint),
        ("type", .nat fingerprintType.toNat)]
  | ds keyTag algorithm digestType digest =>
      [("algorithm", .nat algorithm.toNat), ("digest", .string digest),
        ("digest_type", .nat digestType.toNat), ("key_tag", .nat keyTag.toNat)]

/-- The keys of the members of a payload. -/
def keys : Fields → List String
  | srv .. => ["port", "priority", "target", "weight"]
  | caa .. => ["flags", "tag", "value"]
  | tlsa .. => ["certificate", "matching_type", "selector", "usage"]
  | sshfp .. => ["algorithm", "fingerprint", "type"]
  | ds .. => ["algorithm", "digest", "digest_type", "key_tag"]

theorem map_members (fields : Fields) : fields.members.map Prod.fst = fields.keys := by
  cases fields <;> rfl

theorem ascending_keys (fields : Fields) : fields.keys.Pairwise (· < ·) := by
  cases fields <;> simp only [keys] <;> decide

theorem nodup_members (fields : Fields) : (fields.members.map Prod.fst).Nodup := by
  rw [map_members, List.nodup_iff_pairwise_ne]
  refine fields.ascending_keys.imp fun {first second} less equal => ?_
  exact String.lt_irrefl _ (equal ▸ less)

theorem toJson_eq (fields : Fields) : fields.toJson = .object fields.members := by
  have sorted {given : List (String × Json)} (same : fields.members.Perm given) :
      Json.ofMembers given = .object fields.members :=
    ofMembers_eq fields.keys same (fields.map_members ▸ .refl _) fields.ascending_keys
  cases fields with
  | srv priority weight port target =>
      exact sorted ((List.Perm.swap _ _ _).trans
        ((@List.perm_append_comm _ [_, _] [_]).cons _))
  | caa flags tag value => exact sorted (.refl _)
  | tlsa usage selector matchingType certificate => exact sorted (List.reverse_perm _).symm
  | sshfp algorithm fingerprintType fingerprint => exact sorted ((List.Perm.swap _ _ _).cons _)
  | ds keyTag algorithm digestType digest =>
      exact sorted ((@List.perm_append_comm _ [_, _, _] [_]).trans
        (((List.Perm.swap _ _ _).cons _).cons _))

/-- A payload is read by a shape that stores its members and whose fields are all among them. -/
theorem readNamed_of_stores {σ : Type} {shape : Shape σ} {final : σ} {fields : Fields}
    (named : (shape.fields.all fun field => fields.keys.contains field.name) = true)
    (stores : Stores shape.fields fields.members shape.initial final) :
    shape.readNamed (Source.ofValue (.object fields.members)) = .ok final := by
  refine Shape.readNamed_of_stores stores fields.nodup_members fun field member _ => ?_
  rw [map_members]
  exact List.contains_iff_mem.1 (List.all_eq_true.1 named field member)

theorem readNamed_srv (priority weight port : UInt16) (target : SrvTarget) :
    srvShape.readNamed (Source.ofValue (.object (srv priority weight port target).members)) =
      .ok (priority, weight, port, target) :=
  readNamed_of_stores rfl (.required (Reader.uint16_ofValue port)
    (.required (Reader.uint16_ofValue priority) (.required (SrvTarget.read_ofValue target)
      (.required (Reader.uint16_ofValue weight) (.nil _) rfl) rfl) rfl) rfl)

theorem readNamed_caa (flags : UInt8) (tag value : String) :
    caaShape.readNamed (Source.ofValue (.object (caa flags tag value).members)) =
      .ok (flags, tag, value) :=
  readNamed_of_stores rfl (.required (Reader.uint8_ofValue flags)
    (.required (Reader.text_ofValue tag) (.required (Reader.text_ofValue value)
      (.nil _) rfl) rfl) rfl)

theorem readNamed_tlsa (usage selector matchingType : UInt8) (certificate : String) :
    tlsaShape.readNamed
        (Source.ofValue (.object (tlsa usage selector matchingType certificate).members)) =
      .ok (usage, selector, matchingType, certificate) :=
  readNamed_of_stores rfl (.required (Reader.text_ofValue certificate)
    (.required (Reader.uint8_ofValue matchingType) (.required (Reader.uint8_ofValue selector)
      (.required (Reader.uint8_ofValue usage) (.nil _) rfl) rfl) rfl) rfl)

theorem readNamed_sshfp (algorithm fingerprintType : UInt8) (fingerprint : String) :
    sshfpShape.readNamed
        (Source.ofValue (.object (sshfp algorithm fingerprintType fingerprint).members)) =
      .ok (algorithm, fingerprintType, fingerprint) :=
  readNamed_of_stores rfl (.required (Reader.uint8_ofValue algorithm)
    (.required (Reader.text_ofValue fingerprint)
      (.required (Reader.uint8_ofValue fingerprintType) (.nil _) rfl) rfl) rfl)

theorem readNamed_ds (keyTag : UInt16) (algorithm digestType : UInt8) (digest : String) :
    dsShape.readNamed (Source.ofValue (.object (ds keyTag algorithm digestType digest).members)) =
      .ok (keyTag, algorithm, digestType, digest) :=
  readNamed_of_stores rfl (.required (Reader.uint8_ofValue algorithm)
    (.required (Reader.text_ofValue digest) (.required (Reader.uint8_ofValue digestType)
      (.required (Reader.uint16_ofValue keyTag) (.nil _) rfl) rfl) rfl) rfl)

section Alternatives

variable {σ : Type} {shape : Shape σ} {make : σ → Fields} {others : List (Reader Fields)}

/-- A form is passed over if a field of it is missing. -/
theorem firstOf_of_missing (fields : Fields) (name : String)
    (needed : (shape.fields.any fun field => field.presence == .required && field.name == name)
      = true)
    (missing : fields.keys.contains name = false) :
    Reader.firstOf ((fun source => (shape.readNamed source).map make) :: others)
        (Source.ofValue (.object fields.members)) =
      Reader.firstOf others (Source.ofValue (.object fields.members)) := by
  have absent : name ∉ fields.members.map Prod.fst := by
    rw [map_members, ← List.contains_iff_mem, missing]
    exact Bool.false_ne_true
  obtain ⟨fault, failed⟩ := Shape.readNamed_of_missing name needed absent
  exact Reader.firstOf_cons_of_error (congrArg (·.map make) failed)

/-- A form is taken if it can be read. -/
theorem firstOf_of_read {value : Json} {content : σ}
    (found : shape.readNamed (Source.ofValue value) = .ok content) :
    Reader.firstOf ((fun source => (shape.readNamed source).map make) :: others)
      (Source.ofValue value) = .ok (make content) :=
  Reader.firstOf_cons_of_ok (congrArg (·.map make) found)

end Alternatives

/-- Whatever the type, a payload is told apart from the types that are tried before. -/
theorem read_ofValue (fields : Fields) : read (Source.ofValue fields.toJson) = .ok fields := by
  rw [toJson_eq]
  unfold read
  cases fields with
  | srv priority weight port target =>
      exact firstOf_of_read (readNamed_srv priority weight port target)
  | caa flags tag value =>
      rw [firstOf_of_missing _ "priority" rfl rfl]
      exact firstOf_of_read (readNamed_caa flags tag value)
  | tlsa usage selector matchingType certificate =>
      rw [firstOf_of_missing _ "priority" rfl rfl,
        firstOf_of_missing _ "flags" rfl rfl]
      exact firstOf_of_read (readNamed_tlsa usage selector matchingType certificate)
  | sshfp algorithm fingerprintType fingerprint =>
      rw [firstOf_of_missing _ "priority" rfl rfl,
        firstOf_of_missing _ "flags" rfl rfl,
        firstOf_of_missing _ "usage" rfl rfl]
      exact firstOf_of_read (readNamed_sshfp algorithm fingerprintType fingerprint)
  | ds keyTag algorithm digestType digest =>
      rw [firstOf_of_missing _ "priority" rfl rfl,
        firstOf_of_missing _ "flags" rfl rfl,
        firstOf_of_missing _ "usage" rfl rfl,
        firstOf_of_missing _ "type" rfl rfl]
      exact firstOf_of_read (readNamed_ds keyTag algorithm digestType digest)

theorem readable_toJson (fields : Fields) : Readable 2 fields.toJson := by
  rw [toJson_eq]
  refine ⟨by decide, ?_⟩
  cases fields with
  | srv priority weight port target =>
      refine ⟨readable_uint16 _, readable_uint16 _, ?_, readable_uint16 _, trivial⟩
      cases target <;> exact trivial
  | caa flags tag value => exact ⟨readable_uint8 _, trivial, trivial, trivial⟩
  | tlsa usage selector matchingType certificate =>
      exact ⟨trivial, readable_uint8 _, readable_uint8 _, readable_uint8 _, trivial⟩
  | sshfp algorithm fingerprintType fingerprint =>
      exact ⟨readable_uint8 _, trivial, readable_uint8 _, trivial⟩
  | ds keyTag algorithm digestType digest =>
      exact ⟨readable_uint8 _, trivial, readable_uint8 _, readable_uint16 _, trivial⟩

end Fields

namespace Entry

/-! ## Whole entries -/

variable {entry draft : Entry} {key : String}

/-- A text that may be left out is stored where its absence stands for the empty one. -/
theorem stores_textMember {σ : Type} {fields : List (Json.Field σ)} {draft : σ}
    {put : σ → String → σ} (text : String) (blank : put draft "" = draft)
    (named : fields.find? (·.name == key) = some (.defaulted key Reader.text put)) :
    Stores fields (textMember key text) draft (put draft text) := by
  unfold textMember
  split
  · next empty =>
    rw [String.isEmpty_iff.1 empty, blank]
    exact .nil draft
  · exact .defaulted (Reader.text_ofValue text) (.nil _) named

theorem stores_optionalMember {α : Type} {toJson : α → Json} {read : Reader α}
    {put : Entry → Option α → Entry} (value : Option α) (blank : put draft none = draft)
    (found : ∀ value, Reader.nullable read (Source.ofValue (toJson value)) = .ok (some value))
    (named : shape.fields.find? (·.name == key) =
      some (.defaulted key (Reader.nullable read) put)) :
    Stores shape.fields (optionalMember key toJson value) draft (put draft value) := by
  cases value with
  | none =>
      rw [blank]
      exact .nil draft
  | some value => exact .defaulted (found value) (.nil _) named

/-- The members of an entry in key order. -/
def members (entry : Entry) : List (String × Json) :=
  textMember "content" entry.content ++ optionalMember "data" Fields.toJson entry.data ++
    textMember "id" entry.id ++ [("name", .string entry.name)] ++
    optionalMember "priority" (fun value => Json.nat value.toNat) entry.priority ++
    optionalMember "proxied" Json.bool entry.proxied ++
    [("ttl", .nat entry.ttl.toNat), ("type", .string entry.type)]

theorem stores_members (entry : Entry) :
    Stores shape.fields entry.members {} { entry with proxiable := false } := by
  have scalars : Stores shape.fields
      [("ttl", .nat entry.ttl.toNat), ("type", .string entry.type)]
      { entry with ttl := 0, type := "", proxiable := false }
      { entry with proxiable := false } :=
    .defaulted (Reader.uint32_ofValue entry.ttl)
      (.required (Reader.text_ofValue entry.type) (.nil _) rfl) rfl
  have name {draft : Entry} : Stores shape.fields [("name", .string entry.name)] draft
      { draft with name := entry.name } :=
    .required (Reader.text_ofValue entry.name) (.nil _) rfl
  have data (fields : Fields) : Reader.nullable Fields.read (Source.ofValue fields.toJson) =
      .ok (some fields) := by
    have found := Fields.read_ofValue fields
    rw [Fields.toJson_eq] at found ⊢
    exact congrArg (·.map some) found
  exact ((((((stores_textMember entry.content rfl rfl).append
    (stores_optionalMember entry.data rfl data rfl)).append
    (stores_textMember entry.id rfl rfl)).append name).append
    (stores_optionalMember entry.priority rfl
      (fun value => congrArg (·.map some) (Reader.uint16_ofValue value)) rfl)).append
    (stores_optionalMember entry.proxied rfl (fun _ => rfl) rfl)).append scalars

/-- The keys that the members of an entry can have. -/
def keys : List String :=
  ["content", "data", "id", "name", "priority", "proxied", "ttl", "type"]

theorem keys_textMember_sublist (key text : String) :
    ((textMember key text).map Prod.fst).Sublist [key] := by
  unfold textMember
  split
  · exact List.nil_sublist _
  · exact .refl _

theorem keys_members_sublist (entry : Entry) : (entry.members.map Prod.fst).Sublist keys := by
  have text := keys_textMember_sublist
  have optional {α : Type} (key : String) (toJson : α → Json) (value : Option α) :
      ((optionalMember key toJson value).map Prod.fst).Sublist [key] := by
    cases value with
    | none => exact List.nil_sublist _
    | some value => exact .refl _
  simp only [members, List.map_append]
  exact ((((((text _ _).append (optional _ _ _)).append (text _ _)).append (.refl _)).append
    (optional _ _ _)).append (optional _ _ _)).append (.refl _)

theorem members_perm (entry : Entry) : entry.members.Perm (
    textMember "id" entry.id ++
    [("type", .string entry.type), ("name", .string entry.name)] ++
    textMember "content" entry.content ++
    [("ttl", .nat entry.ttl.toNat)] ++
    optionalMember "proxied" Json.bool entry.proxied ++
    optionalMember "priority" (fun value => Json.nat value.toNat) entry.priority ++
    optionalMember "data" Fields.toJson entry.data) := by
  have pair (first second : String × Json) : [first, second] = [first] ++ [second] := rfl
  rw [← Multiset.coe_eq_coe, members, pair, pair]
  simp only [← Multiset.coe_add]
  abel

theorem toJson_eq (entry : Entry) : entry.toJson = .object entry.members :=
  ofMembers_eq keys (members_perm entry) (keys_members_sublist entry) (by decide)

/-- An entry is read from its own JSON. Only Cloudflare says whether it can be proxied. -/
theorem read_ofValue (entry : Entry) :
    shape.read (Source.ofValue entry.toJson) = .ok { entry with proxiable := false } := by
  rw [toJson_eq]
  exact Shape.read_of_stores keys ["name", "type"] (stores_members entry)
    (keys_members_sublist entry) (by decide) rfl (by simp [members])

theorem readable_textMember {level : Nat} {text : String} {member : String × Json}
    (known : member ∈ textMember key text) : Readable level member.2 := by
  unfold textMember at known
  split at known
  · exact absurd known List.not_mem_nil
  · rw [List.mem_singleton.1 known]
    exact trivial

theorem readable_optionalMember {α : Type} {toJson : α → Json} {level : Nat} {value : Option α}
    {member : String × Json} (readable : ∀ value, Readable level (toJson value))
    (known : member ∈ optionalMember key toJson value) : Readable level member.2 := by
  cases value with
  | none => exact absurd known List.not_mem_nil
  | some value =>
      rw [List.mem_singleton.1 known]
      exact readable value

theorem readable_toJson (entry : Entry) : Readable 1 entry.toJson := by
  rw [toJson_eq]
  refine ⟨by decide, membersReadable_iff.2 fun member known => ?_⟩
  simp only [members, List.mem_append] at known
  rcases known with (((((content | data) | id) | name) | priority) | proxied) | scalars
  · exact readable_textMember content
  · exact readable_optionalMember Fields.readable_toJson data
  · exact readable_textMember id
  · rw [List.mem_singleton.1 name]
    exact trivial
  · exact readable_optionalMember (fun value => readable_uint16 value) priority
  · exact readable_optionalMember readable_bool proxied
  · simp only [List.mem_cons, List.not_mem_nil, or_false] at scalars
    rcases scalars with rfl | rfl
    · exact fitsWord_nat (Nat.lt_trans entry.ttl.toNat_lt_size (by decide))
    · exact trivial

/-- Read an entry from a text. -/
def ofText (text : String) : Except Fault Entry :=
  (scan text).read shape.read

/-- An entry that is sent and read is the same entry, but for what only Cloudflare says. -/
theorem ofText_print (entry : Entry) :
    ofText entry.toJson.print = .ok { entry with proxiable := false } := by
  rw [ofText, scan_print (readable_toJson entry), Document.read, read_ofValue]

end Entry

end DnsReconcile.Cloudflare
