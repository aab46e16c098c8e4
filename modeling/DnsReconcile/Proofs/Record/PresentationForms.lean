/-
# Payloads and their presentation forms

A payload that was read from a text is read again from the form in which it is printed. Most forms
are fields with a space between them, and a field is a word; what remains is a name or a text that
is taken as it stands, an address, and the value of a CAA payload, which is everything behind the
second word. The value is printed between quotation marks, so it may be any text, while the tag
before it has to be a word. For TXT payloads nothing like this holds: what is printed between
quotation marks is read as a text with quotation marks.
-/

import DnsReconcile.Proofs.Address.WrittenForms
import DnsReconcile.Proofs.Refusals
import DnsReconcile.Proofs.Text.Quoting
import DnsReconcile.Proofs.Text.Words
import DnsReconcile.Record.Payload

namespace DnsReconcile.Payload

open Text

variable {payload : Payload} {type : RecordType} {content : String}

/-! ## Payloads that are printed as fields -/

/-- The fields of a payload that is printed as fields only. -/
def fields : Payload → List (List Char)
  | mx preference exchange => [Nat.toDigits 10 preference.toNat, exchange.toList]
  | srv priority weight port target =>
      [Nat.toDigits 10 priority.toNat, Nat.toDigits 10 weight.toNat, Nat.toDigits 10 port.toNat,
        target.toList]
  | tlsa usage selector matchingType certificate =>
      [Nat.toDigits 10 usage.toNat, Nat.toDigits 10 selector.toNat,
        Nat.toDigits 10 matchingType.toNat, certificate.toList]
  | sshfp algorithm fingerprintType fingerprint =>
      [Nat.toDigits 10 algorithm.toNat, Nat.toDigits 10 fingerprintType.toNat, fingerprint.toList]
  | ds keyTag algorithm digestType digest =>
      [Nat.toDigits 10 keyTag.toNat, Nat.toDigits 10 algorithm.toNat,
        Nat.toDigits 10 digestType.toNat, digest.toList]
  | soa mname rname serial refresh retry expire minimum =>
      [mname.toList, rname.toList, Nat.toDigits 10 serial.toNat, Nat.toDigits 10 refresh.toNat,
        Nat.toDigits 10 retry.toNat, Nat.toDigits 10 expire.toNat, Nat.toDigits 10 minimum.toNat]
  | _ => []

theorem toList_print_of_fields (several : payload.fields ≠ []) :
    payload.print.toList = joined payload.fields := by
  cases payload <;> first | exact absurd rfl several | skip
  all_goals
    simp only [print, fields, joined_cons_cons, joined_singleton, String.toList_append,
      toList_uint8, toList_uint16, toList_uint32, List.append_assoc]
    rfl

theorem isField_toDigits (n : Nat) : IsField (Nat.toDigits 10 n) where
  present := Nat.toDigits_ne_nil
  visible _ member := isBlank_of_hexDigit?
    (isSome_hexDigit?_of_mem_toDigits (by decide) (by decide) member)

/-- Fields are read from the form in which they are joined. -/
theorem read_joined {fields : List (List Char)} (each : ∀ field ∈ fields, IsField field) :
    read type (String.ofList (joined fields)) = readFields type (joined fields) fields := by
  rw [read, String.toList_ofList, trim_joined each, words_joined each]

/-! ## Reading what is printed -/

/-- What is known of a payload that was read: names and texts that were taken as they stood have no
blanks around them, and what was one field is a word. -/
def Readable : Payload → Prop
  | a _ | aaaa _ => True
  | cname text | aliased text | ns text | ptr text | encoded text =>
      trim text.toList = text.toList
  | txt _ => False
  | caa _ tag _ => IsField tag.toList
  | payload => ∀ field ∈ payload.fields, IsField field

theorem number_of_read? {α : Type} {read? : List Char → Option α} {name : String}
    {field : List Char} {value : α} (read : read? field = some value) :
    number read? name field = .ok value := by
  rw [number, read]

theorem read_print_of_fields (several : payload.fields ≠ [])
    (each : ∀ field ∈ payload.fields, IsField field) :
    read payload.type payload.print = .ok payload := by
  rw [← String.ofList_toList (s := payload.print), toList_print_of_fields several,
    read_joined each]
  cases payload <;> first | exact absurd rfl several | skip
  all_goals
    simp only [type, fields, readFields, number_of_read? (readUInt8?_toDigits _),
      number_of_read? (readUInt16?_toDigits _), number_of_read? (readUInt32?_toDigits _),
      String.ofList_toList]
    rfl

/-- What stands behind the first two fields of a printed CAA payload is its value. -/
theorem caaValue_joined {flags tag : List Char} (word : IsField tag) (value : List Char) :
    caaValue (flags ++ ' ' :: (tag ++ ' ' :: quote value)) flags tag = value := by
  have front : trimStart (' ' :: (tag ++ ' ' :: quote value)) = tag ++ ' ' :: quote value := by
    rw [trimStart, List.dropWhile_cons_of_pos rfl]
    obtain ⟨c, rest, rfl⟩ := List.exists_cons_of_ne_nil word.present
    exact List.dropWhile_cons_of_neg
      (Bool.eq_false_iff.1 (word.visible c List.mem_cons_self))
  have blank : trim (' ' :: quote value) = trim (quote value) := rfl
  rw [caaValue, List.drop_left, front, List.drop_left, blank, trim_quote, unquote_quote]

theorem read_print_caa (flags : UInt8) {tag : String} (word : IsField tag.toList)
    (value : String) : read .caa (caa flags tag value).print = .ok (caa flags tag value) := by
  have number := isField_toDigits flags.toNat
  have text : (caa flags tag value).print.toList =
      Nat.toDigits 10 flags.toNat ++ ' ' :: (tag.toList ++ ' ' :: quote value.toList) := by
    simp only [print, quoted, String.toList_append, String.toList_ofList, toList_uint8,
      List.append_assoc]
    rfl
  have trimmed : trim (Nat.toDigits 10 flags.toNat ++ ' ' ::
      (tag.toList ++ ' ' :: quote value.toList)) =
      Nat.toDigits 10 flags.toNat ++ ' ' :: (tag.toList ++ ' ' :: quote value.toList) := by
    refine trim_eq_self number.isBlank_of_head? fun c last => ?_
    have closed : Nat.toDigits 10 flags.toNat ++ ' ' :: (tag.toList ++ ' ' :: quote value.toList) =
        (Nat.toDigits 10 flags.toNat ++ ' ' ::
          (tag.toList ++ ' ' :: '"' :: escapeQuotes value.toList)) ++ ['"'] := by
      simp [quote]
    rw [closed, List.getLast?_concat] at last
    rw [← Option.some.inj last]
    rfl
  have value_present : words (quote value.toList) ≠ [] := words_ne_nil List.mem_cons_self rfl
  obtain ⟨first, more, behind⟩ := List.exists_cons_of_ne_nil value_present
  rw [read, text, trimmed, words_append_blank number rfl, words_append_blank word rfl, behind]
  simp only [readFields, caaValue_joined word, number_of_read? (readUInt8?_toDigits flags),
    String.ofList_toList]
  rfl

/-- A text that is taken as it stands is read from itself. -/
theorem read_of_trimmed {text : String} (trimmed : trim text.toList = text.toList) :
    read type text = readFields type text.toList (words text.toList) := by
  rw [read, trimmed]

theorem read_print (readable : payload.Readable) (fits : payload.fits type = true) :
    read type payload.print = .ok payload := by
  cases payload
  case a address =>
    obtain rfl := beq_iff_eq.1 fits
    rw [print, read_of_trimmed address.trim_print]
    simp only [type, readFields, IPv4.read?_print]
  case aaaa address =>
    obtain rfl := beq_iff_eq.1 fits
    rw [print, read_of_trimmed address.trim_print]
    simp only [type, readFields, IPv6.read?_print]
  case txt => exact absurd readable id
  case caa flags tag value =>
    obtain rfl := beq_iff_eq.1 fits
    exact read_print_caa flags readable value
  case encoded text =>
    rw [print, read_of_trimmed readable]
    cases type <;> cases fits <;> simp only [readFields, String.ofList_toList]
  case cname | aliased | ns | ptr =>
    obtain rfl := beq_iff_eq.1 fits
    rw [print, read_of_trimmed readable]
    simp only [type, readFields, String.ofList_toList]
  all_goals
    obtain rfl := beq_iff_eq.1 fits
    exact read_print_of_fields (List.cons_ne_nil _ _) readable

/-! ## What is read -/

theorem forall_isField_of_number {fields : List (List Char)} {n : Nat}
    (others : ∀ field ∈ fields, IsField field) :
    ∀ field ∈ Nat.toDigits 10 n :: fields, IsField field :=
  List.forall_mem_cons.2 ⟨isField_toDigits n, others⟩

theorem forall_isField_of_word {fields : List (List Char)} {word : List Char}
    (field : IsField word) (others : ∀ field ∈ fields, IsField field) :
    ∀ field ∈ (String.ofList word).toList :: fields, IsField field := by
  rw [String.toList_ofList]
  exact List.forall_mem_cons.2 ⟨field, others⟩

/-- What was read from words can be read again. -/
theorem readable_of_readFields {text : List Char} {words : List (List Char)}
    (trimmed : trim text = text) (each : ∀ word ∈ words, IsField word) (other : type ≠ .txt)
    (found : readFields type text words = .ok payload) :
    payload.fits type = true ∧ payload.Readable := by
  have taken : trim (String.ofList text).toList = (String.ofList text).toList := by
    rw [String.toList_ofList, trimmed]
  cases type
  case txt => exact absurd rfl other
  case a | aaaa =>
    simp only [readFields] at found
    split at found
    · obtain rfl := Except.ok.inj found
      exact ⟨rfl, trivial⟩
    · cases found
  case cname | aliased | ns | ptr | redirect | tempRedirect | pageRule | workerRoute =>
    obtain rfl := Except.ok.inj found
    exact ⟨rfl, taken⟩
  case mx =>
    simp only [readFields] at found
    split at found
    · next preference exchange =>
      simp only [bind_eq_ok_iff, pure_eq_ok_iff] at found
      obtain ⟨preference, -, rfl⟩ := found
      exact ⟨rfl, forall_isField_of_number
        (forall_isField_of_word (each exchange (by simp)) (List.forall_mem_nil _))⟩
    · cases found
  case srv =>
    simp only [readFields] at found
    split at found
    · next priority weight port target =>
      simp only [bind_eq_ok_iff, pure_eq_ok_iff] at found
      obtain ⟨priority, -, weight, -, port, -, rfl⟩ := found
      exact ⟨rfl, forall_isField_of_number <| forall_isField_of_number <|
        forall_isField_of_number
          (forall_isField_of_word (each target (by simp)) (List.forall_mem_nil _))⟩
    · cases found
  case caa =>
    simp only [readFields] at found
    split at found
    · next flags tag value more =>
      simp only [bind_eq_ok_iff, pure_eq_ok_iff] at found
      obtain ⟨flags, -, rfl⟩ := found
      refine ⟨rfl, ?_⟩
      rw [Readable, String.toList_ofList]
      exact each tag (by simp)
    · cases found
  case tlsa =>
    simp only [readFields] at found
    split at found
    · next usage selector matchingType certificate =>
      simp only [bind_eq_ok_iff, pure_eq_ok_iff] at found
      obtain ⟨usage, -, selector, -, matchingType, -, rfl⟩ := found
      exact ⟨rfl, forall_isField_of_number <| forall_isField_of_number <|
        forall_isField_of_number
          (forall_isField_of_word (each certificate (by simp)) (List.forall_mem_nil _))⟩
    · cases found
  case sshfp =>
    simp only [readFields] at found
    split at found
    · next algorithm fingerprintType fingerprint =>
      simp only [bind_eq_ok_iff, pure_eq_ok_iff] at found
      obtain ⟨algorithm, -, fingerprintType, -, rfl⟩ := found
      exact ⟨rfl, forall_isField_of_number <|
        forall_isField_of_number
          (forall_isField_of_word (each fingerprint (by simp)) (List.forall_mem_nil _))⟩
    · cases found
  case ds =>
    simp only [readFields] at found
    split at found
    · next keyTag algorithm digestType digest =>
      simp only [bind_eq_ok_iff, pure_eq_ok_iff] at found
      obtain ⟨keyTag, -, algorithm, -, digestType, -, rfl⟩ := found
      exact ⟨rfl, forall_isField_of_number <| forall_isField_of_number <|
        forall_isField_of_number
          (forall_isField_of_word (each digest (by simp)) (List.forall_mem_nil _))⟩
    · cases found
  case soa =>
    simp only [readFields] at found
    split at found
    · next mname rname serial refresh retry expire minimum =>
      simp only [bind_eq_ok_iff, pure_eq_ok_iff] at found
      obtain ⟨serial, -, refresh, -, retry, -, expire, -, minimum, -, rfl⟩ := found
      exact ⟨rfl, forall_isField_of_word (each mname (by simp)) <|
        forall_isField_of_word (each rname (by simp)) <| forall_isField_of_number <|
        forall_isField_of_number <| forall_isField_of_number <| forall_isField_of_number <|
        forall_isField_of_number (List.forall_mem_nil _)⟩
    · cases found

theorem readable_of_read (other : type ≠ .txt) (found : read type content = .ok payload) :
    payload.fits type = true ∧ payload.Readable := by
  refine readable_of_readFields ?_ (fun word member => isField_of_mem_words member) other found
  exact trim_eq_self isBlank_of_head?_trim isBlank_of_getLast?_trim

/-! ## The value of a CAA payload -/

/-- Where the value of a CAA payload is looked for, the content is cut behind its first word, and
what then follows, without blanks before it, behind the second. -/
theorem cutsAfter_of_words {flags tag : List Char} {more : List (List Char)}
    (cut : words (trim content.toList) = flags :: tag :: more) :
    CutsAfter (trim content.toList) flags ∧
      CutsAfter (trimStart ((trim content.toList).drop flags.length)) tag := by
  obtain ⟨rest, begins, -, words_rest⟩ := exists_of_words_eq_cons cut
  obtain ⟨others, begins', -, -⟩ := exists_of_words_eq_cons words_rest
  have front : trimStart (trim content.toList) = trim content.toList := by
    cases whole : trim content.toList with
    | nil => rfl
    | cons c others =>
        have head : (trim content.toList).head? = some c := by rw [whole, List.head?_cons]
        have visible := isBlank_of_head?_trim c head
        exact List.dropWhile_cons_of_neg (Bool.eq_false_iff.1 visible)
  rw [front] at begins
  rw [begins, List.drop_left, begins']
  exact ⟨cutsAfter_append flags rest, cutsAfter_append tag others⟩

/-- A payload that is no TXT payload is read again from the form in which it is printed, if it was
read from any text: it fits its type, and the same payload comes out. A CAA payload is read again
whatever its value is, if only its tag is a word. To find that value, content is cut at the ends of
characters only. -/
theorem presentation_read_again :
    (∀ (type : RecordType) (content : String) (payload : Payload), type ≠ .txt →
      read type content = .ok payload →
      payload.fits type = true ∧ read type payload.print = .ok payload) ∧
    (∀ (flags : UInt8) (tag value : String), IsField tag.toList →
      read .caa (caa flags tag value).print = .ok (caa flags tag value)) ∧
    ∀ (content : String) (flags tag : List Char) (more : List (List Char)),
      words (trim content.toList) = flags :: tag :: more →
      CutsAfter (trim content.toList) flags ∧
        CutsAfter (trimStart ((trim content.toList).drop flags.length)) tag := by
  refine ⟨fun type content payload other found => ?_, fun flags tag value word => ?_,
    fun content flags tag more cut => cutsAfter_of_words cut⟩
  · obtain ⟨fits, readable⟩ := readable_of_read other found
    exact ⟨fits, read_print readable fits⟩
  · exact read_print_caa flags word value

/-- A value that ends in a backslash before a quotation mark, read with and without the marks
around it, and a content in which blanks and characters of several octets stand between fields. -/
theorem presentation_read_again_of_escapes :
    let value := "a \\\" \\\\"
    read .caa " +7\u3000ísue  \"x\" \\y\t" = .ok (caa 7 "ísue" "\"x\" \\y") ∧
      read .caa (caa 7 "ísue" "\"x\" \\y").print = .ok (caa 7 "ísue" "\"x\" \\y") ∧
      IsField "issue".toList ∧
      read .caa (caa 0 "issue" value).print = .ok (caa 0 "issue" value) ∧
      CutsAfter "+7\u3000ísue  x".toList "+7".toList ∧
      CutsAfter "ísue  x".toList "ísue".toList := by
  intro value
  have found : read .caa " +7\u3000ísue  \"x\" \\y\t" = .ok (caa 7 "ísue" "\"x\" \\y") := by
    decide +kernel
  have visible : ("issue".toList.all fun c => !isBlank c) = true := by decide
  have word : IsField "issue".toList := ⟨by decide, by simpa using visible⟩
  obtain ⟨again, quoted, cuts⟩ := presentation_read_again
  obtain ⟨first, second⟩ := cuts "+7\u3000ísue  x" "+7".toList "ísue".toList [['x']]
    (by decide +kernel)
  exact ⟨found, (again .caa _ _ (by decide) found).2, word, quoted 0 "issue" value word, first,
    second⟩

end DnsReconcile.Payload
