import Gldap.Message
import Gldap.Ber.Tlv
import Mathlib.Data.Nat.Bitwise

/-! Modify requests end to end: modify.go's `Change.encode` and
`PartialAttribute.encode`, testing.go's `testModifyRequestPacket`, the
modify reader of packet.go as `newMessage` runs it, and request.go's
`ConvertString`, which the documentation gives for turning the values read
back into strings.

The encoder puts a change's values in a SET that is the second child of the
partial attribute. The reader takes as values the content octets of every
child of the partial attribute after the type, that is of the SET itself: a
change always comes back with one value, the encodings of all its values one
after the other.
-/

set_option autoImplicit false

namespace Gldap

open Go Ber

section Encoders

variable (codec : Codec)

def PartialAttribute.encode (p : PartialAttribute) : Packet :=
  let set := (Ber.Encode .universal .constructed TagSet).AppendChildren codec
    (p.vals.map (NewString .universal .primitive TagOctetString))
  ((Ber.Encode .universal .constructed TagSequence).AppendChild codec
    (NewString .universal .primitive TagOctetString p.type)).AppendChild codec set

def Change.encode (c : Change) : Packet :=
  ((Ber.Encode .universal .constructed TagSequence).AppendChild codec
    (NewInteger codec .universal .primitive TagEnumerated c.operation)).AppendChild codec
    (c.modification.encode codec)

def testRequestEnvelope (messageID : Int64) : Packet :=
  (Ber.Encode .universal .constructed TagSequence).AppendChild codec
    (NewInteger codec .universal .primitive TagInteger messageID)

def testModifyRequestPacket (m : ModifyMessage) : Packet :=
  let pkt := ((Ber.Encode .application .constructed ApplicationModifyRequest).AppendChild codec
    (NewString .universal .primitive TagOctetString m.dn)).AppendChild codec
    ((Ber.Encode .universal .constructed TagSequence).AppendChildren codec (m.changes.map (Change.encode codec)))
  let envelope := (testRequestEnvelope codec m.id).AppendChild codec pkt
  if m.controls.length > 0 then envelope.AppendChild codec (encodeControls codec m.controls) else envelope

/-- The values of a change as the reader returns them: the content octets of
its encoded SET, as one string. -/
def readBackVals (vals : List GoString) : List GoString :=
  [(vals.map (NewString .universal .primitive TagOctetString)).flatMap codec.bytes]

/-- A change as the reader returns it. -/
def readBackChange (c : Change) : Change :=
  ⟨c.operation, ⟨c.modification.type, readBackVals codec c.modification.vals⟩⟩

/-- The op of a modify request without controls. -/
def modifyRequestOp (dn : GoString) (changes : List Change) : Packet :=
  ((Ber.Encode .application .constructed ApplicationModifyRequest).AppendChild codec
    (NewString .universal .primitive TagOctetString dn)).AppendChild codec
    ((Ber.Encode .universal .constructed TagSequence).AppendChildren codec (changes.map (Change.encode codec)))

theorem modifyRequestOp_shape (dn : GoString) (changes : List Change) :
    (modifyRequestOp codec dn changes).tag = ApplicationModifyRequest ∧
      (modifyRequestOp codec dn changes).children = [NewString .universal .primitive TagOctetString dn,
        (Ber.Encode .universal .constructed TagSequence).AppendChildren codec
          (changes.map (Change.encode codec))] := by
  simp [modifyRequestOp, Encode]

@[simp] theorem PartialAttribute.encode_shape (p : PartialAttribute) :
    (p.encode codec).classType = .universal ∧ (p.encode codec).tagType = .constructed ∧
      (p.encode codec).tag = TagSequence ∧
      (p.encode codec).children = [NewString .universal .primitive TagOctetString p.type,
        (Ber.Encode .universal .constructed TagSet).AppendChildren codec
          (p.vals.map (NewString .universal .primitive TagOctetString))] := by
  simp [PartialAttribute.encode, Encode]

@[simp] theorem Change.encode_shape (c : Change) :
    (c.encode codec).classType = .universal ∧ (c.encode codec).tagType = .constructed ∧
      (c.encode codec).tag = TagSequence ∧
      (c.encode codec).children = [NewInteger codec .universal .primitive TagEnumerated c.operation,
        c.modification.encode codec] := by
  simp [Change.encode, Encode]

end Encoders

section Reader

variable (codec : Codec)

/-- Each encoded change is read back with its operation and type, and with
its values as one string. -/
theorem modifyChange_encode (op : GoString) (c : Change) :
    modifyChange op (c.encode codec) =
      .ok (readBackChange codec c) := by
  -- the four shape checks pass on what the encoder builds
  have hchange : assert (c.encode codec) .universal .constructed [.withTag TagSequence] = .ok () := by
    simp [assert_self_eq_ok]
  have hoperation : assert (c.encode codec) .universal .primitive
      [.withTag TagEnumerated, .withAssertChild 0] = .ok () := by
    simp [assert_child_eq_ok, NewInteger, Encode]
  have hmodification : assert (c.encode codec) .universal .constructed
      [.withTag TagSequence, .withAssertChild 1] = .ok () := by
    simp [assert_child_eq_ok]
  have htype : assert (c.modification.encode codec) .universal .primitive
      [.withTag TagOctetString, .withAssertChild 0] = .ok () := by
    simp [assert_child_eq_ok, NewString, Encode]
  simp [modifyChange, assertChild_of_assert, hchange, hoperation, hmodification, htype,
    Outcome.index, childData, readBackChange, readBackVals, NewString, NewInteger, Encode,
    Bind.bind, Outcome.bind]

theorem testModifyRequestPacket_children (id : Int64) (dn : GoString) (changes : List Change) :
    (testModifyRequestPacket codec ⟨id, dn, changes, []⟩).children =
      [NewInteger codec .universal .primitive TagInteger id, modifyRequestOp codec dn changes] := by
  simp [testModifyRequestPacket, testRequestEnvelope, modifyRequestOp, Encode]

theorem basicValidation_testModifyRequestPacket (id : Int64) (dn : GoString) (changes : List Change) :
    basicValidation (testModifyRequestPacket codec ⟨id, dn, changes, []⟩) = .ok () := by
  rw [basicValidation_eq_ok, testModifyRequestPacket_children]
  simp [testModifyRequestPacket, testRequestEnvelope, Encode]

/-- The envelope passes both checks and its op is the modify request. -/
theorem requestPacket_testModifyRequestPacket (id : Int64) (dn : GoString) (changes : List Change) :
    requestPacket (testModifyRequestPacket codec ⟨id, dn, changes, []⟩) =
      .ok (modifyRequestOp codec dn changes) := by
  have hchildren := testModifyRequestPacket_children codec id dn changes
  have hvalid := basicValidation_testModifyRequestPacket codec id dn changes
  have happ : assertApplicationRequest (testModifyRequestPacket codec ⟨id, dn, changes, []⟩) = .ok () := by
    rw [assertApplicationRequest_eq_ok, hchildren]
    simp [modifyRequestOp, Encode]
  refine requestPacket_eq_ok hvalid happ (by simp [hchildren]) ?_
  simp [modifyRequestOp, Encode, ApplicationModifyRequest, ApplicationBindRequest]

theorem modifyParameters_testModifyRequestPacket (id : Int64) (dn : GoString) (changes : List Change) :
    modifyParameters codec (testModifyRequestPacket codec ⟨id, dn, changes, []⟩) =
      .ok ⟨dn, changes.map (readBackChange codec), []⟩ := by
  have hdn : assert (modifyRequestOp codec dn changes) .universal .primitive
      [.withTag TagOctetString, .withAssertChild 0] = .ok () := by
    simp [assert_child_eq_ok, modifyRequestOp, NewString, Encode]
  have hchanges : assert (modifyRequestOp codec dn changes) .universal .constructed
      [.withTag TagSequence, .withAssertChild 1] = .ok () := by
    simp [assert_child_eq_ok, modifyRequestOp, Encode]
  -- every change decodes to its read-back form, and there is no controls element
  have heach : (changes.map (Change.encode codec)).mapM (modifyChange (lit "gldap.(packet).modifyParameters")) =
      .ok (changes.map (readBackChange codec)) := by
    rw [List.mapM_map]
    exact Outcome.mapM_eq_ok fun c _ => modifyChange_encode codec _ c
  have hcontrols : decodeControls codec (lit "gldap.(packet).modifyParameters")
      (testModifyRequestPacket codec ⟨id, dn, changes, []⟩) = .ok [] := by
    simp [decodeControls, controlPacket, testModifyRequestPacket_children, Bind.bind, Outcome.bind]
  simp [modifyParameters, requestPacket_testModifyRequestPacket, assertChild_of_assert, hdn, hchanges,
    Outcome.index, childData, heach, hcontrols, modifyRequestOp_shape, NewString, Encode, Bind.bind,
    Outcome.bind]

/-- `newMessage` on an encoded modify request without controls: the ID, DN
and changes come back, each change with its values as one string. -/
theorem newMessage_testModifyRequestPacket (filters : FilterCodec) (id : Int64) (dn : GoString)
    (changes : List Change) :
    newMessage codec filters (testModifyRequestPacket codec ⟨id, dn, changes, []⟩) =
      .ok (.modify ⟨id, dn, changes.map (readBackChange codec), []⟩) := by
  have htype : requestType (testModifyRequestPacket codec ⟨id, dn, changes, []⟩) = .ok .modify := by
    simp [requestType, requestPacket_testModifyRequestPacket, modifyRequestOp_shape,
      ApplicationModifyRequest, ApplicationBindRequest, ApplicationSearchRequest,
      ApplicationExtendedRequest]
  have hmsgID : assert (NewInteger codec .universal .primitive TagInteger id) .universal .primitive
      [.withTag TagInteger] = .ok () := by
    simp [assert_self_eq_ok, NewInteger, Encode]
  have hid : requestMessageID (testModifyRequestPacket codec ⟨id, dn, changes, []⟩) = .ok id := by
    simp [requestMessageID, basicValidation_testModifyRequestPacket, testModifyRequestPacket_children,
      Outcome.index, hmsgID, Bind.bind, Outcome.bind]
  simp [newMessage, htype, hid, modifyParameters_testModifyRequestPacket, Bind.bind, Outcome.bind]

end Reader

/-- request.go's `readLength`: the length that the length octets at the
front of `bytes` give, and how many octets they take. -/
def readLength (bytes : GoString) : Outcome GoError (Int64 × Nat) := do
  let b ← Outcome.index bytes 0
  if b = 0xFF then .error (.new "invalid length byte 0xff")
  -- the indefinite form
  else if b = 0x80 then pure (-1, 1)
  else if b &&& 0x80 = 0 then pure ((b &&& 0x7f).toUInt64.toInt64, 1)
  else
    let lengthBytes := (b &&& 0x7f).toNat
    if lengthBytes > 8 then .error (.new "long-form length overflow")
    else do
      -- the length accumulates in an int64, which wraps
      let length64 ← (List.range lengthBytes).foldlM (fun (length64 : Int64) i => do
          let b ← Outcome.index bytes (1 + i)
          pure ((length64 <<< 8) ||| b.toUInt64.toInt64)) (0 : Int64)
      pure (length64, 1 + lengthBytes)

/-- `ConvertString`: each string should be one BER OCTET STRING or
GeneralString element; what follows its length octets is kept, whatever the
length says. -/
def ConvertString (octetString : List GoString) : Outcome GoError (List GoString) :=
  octetString.mapM fun data => do
    let tag ← Outcome.index data 0
    if tag.toNat = TagOctetString ∨ tag.toNat = TagGeneralString then
      let (_, strDataLen) ← readLength (data.drop 1)
      Outcome.sliceFrom data (1 + strDataLen)
    else
      .error (.wrapf "%s: unsupported ber encoding type %s: %w"
        [.str (lit "gldap.ConvertOctetString"), .str (lit (String.singleton (Char.ofNat tag.toNat)))]
        ErrInvalidParameter)

/-- A change without values is read back with one empty value, which
`ConvertString` indexes at 0. -/
theorem ConvertString_readBackVals_nil (codec : Codec) :
    ConvertString (readBackVals codec []) = .panic "runtime error: index out of range [0] with length 0" := by
  simp [ConvertString, readBackVals, Outcome.index, Bind.bind, Outcome.bind]
  decide

/-- A modify with a change of no values and a change of two: both come back
with one value each, `ConvertString` panics on the first and returns the
second as the first value followed by the encoding of the second. -/
theorem modify_values_read_back_as_one_string :
    newMessage tlvCodec presentFilters (testModifyRequestPacket tlvCodec
        ⟨1, lit "cn=x", [⟨0, ⟨lit "mail", []⟩⟩, ⟨2, ⟨lit "cn", [lit "a", lit "b"]⟩⟩], []⟩) =
      .ok (.modify ⟨1, lit "cn=x", [⟨0, ⟨lit "mail", [[]]⟩⟩, ⟨2, ⟨lit "cn", [[4, 1, 97, 4, 1, 98]]⟩⟩], []⟩) ∧
    ConvertString [[]] = .panic "runtime error: index out of range [0] with length 0" ∧
    ConvertString [[4, 1, 97, 4, 1, 98]] = .ok [[97, 4, 1, 98]] := by
  refine ⟨?_, by rfl, by decide⟩
  rw [newMessage_testModifyRequestPacket]
  decide +kernel

/-! ### `ConvertString` on the strings `TestEncodeString` writes -/

/-- testing.go's `TestEncodeString`: `s` as a primitive universal string
with the given tag, read back with `DecodePacketErr` and written out again; a
decoding error fails the test. -/
def TestEncodeString (codec : Codec) (tag : Nat) (s : GoString) : Except GoError GoString :=
  (codec.decodePacketErr (codec.bytes (NewString .universal .primitive tag s))).map codec.bytes

theorem highBit_eq_zero_iff (b : UInt8) : b &&& 0x80 = 0 ↔ b.toNat < 128 := by
  have hlt := b.toNat_lt
  rw [← UInt8.toNat_inj, UInt8.toNat_and, show (0x80 : UInt8).toNat = 2 ^ 7 from rfl, Nat.and_two_pow]
  by_cases hlow : b.toNat < 128
  · rw [Nat.testBit_lt_two_pow (by omega)]
    simpa using hlow
  · -- the top bit of a byte from 128 on is set
    have htop : b.toNat = 2 ^ 7 + (b.toNat - 128) := by omega
    rw [htop, Nat.testBit_two_pow_add_eq, Nat.testBit_lt_two_pow (by omega)]
    simp

theorem lowBits_toNat (b : UInt8) : (b &&& 0x7f).toNat = b.toNat % 128 := by
  rw [UInt8.toNat_and, show (0x7f : UInt8).toNat = 2 ^ 7 - 1 from rfl, Nat.and_two_pow_sub_one_eq_mod]

/-- A first octet below 128 is the length itself. -/
theorem readLength_short {b : UInt8} (hb : b.toNat < 128) (rest : GoString) :
    readLength (b :: rest) = .ok ((b &&& 0x7f).toUInt64.toInt64, 1) := by
  have hff : b ≠ 0xFF := fun h => by subst h; simp at hb
  have h80 : b ≠ 0x80 := fun h => by subst h; simp at hb
  simp only [readLength, Outcome.index_of_getElem? (show (b :: rest)[0]? = some b from rfl), Outcome.ok_bind,
    if_neg hff, if_neg h80, if_pos ((highBit_eq_zero_iff b).mpr hb)]
  rfl

/-- A first octet 0x80 + count, for a count from 1 to 8, announces count
more octets; when they are all there the loop reads them without a panic. -/
theorem readLength_long {b : UInt8} {count : Nat} (hb : b.toNat = 128 + count) (hpos : 0 < count)
    (hcount : count ≤ 8) (rest : GoString) (hrest : count ≤ rest.length) :
    ∃ length, readLength (b :: rest) = .ok (length, 1 + count) := by
  have hff : b ≠ 0xFF := fun h => by subst h; simp at hb; omega
  have h80 : b ≠ 0x80 := fun h => by subst h; simp at hb; omega
  have hhigh : ¬(b &&& 0x80 = 0) := by
    rw [highBit_eq_zero_iff]
    omega
  have hlow : (b &&& 0x7f).toNat = count := by
    rw [lowBits_toNat, hb]
    omega
  -- each octet the loop indexes is inside the input
  obtain ⟨length, hfold⟩ : ∃ length, (List.range count).foldlM (fun (length64 : Int64) i => do
      let b ← (Outcome.index (b :: rest) (1 + i) : Outcome GoError UInt8)
      pure ((length64 <<< 8) ||| b.toUInt64.toInt64)) 0 = .ok length := by
    refine Outcome.foldlM_eq_ok_of_forall (fun acc i hi => ?_) 0
    have hbound : 1 + i < (b :: rest).length := by
      have := List.mem_range.mp hi
      simp only [List.length_cons]
      omega
    exact ⟨_, by rw [Outcome.index_of_lt hbound]; rfl⟩
  refine ⟨length, ?_⟩
  simp only [readLength, Outcome.index_of_getElem? (show (b :: rest)[0]? = some b from rfl), Outcome.ok_bind,
    if_neg hff, if_neg h80, if_neg hhigh, hlow, show ¬(count > 8) by omega, if_false]
  rw [hfold]
  rfl

/-- `readLength` takes exactly the length octets that `encodeLength` writes. -/
theorem readLength_encodeLength_append (n : Nat) (rest : GoString) (hn : n < 2 ^ 64) :
    ∃ length, readLength (encodeLength n ++ rest) = .ok (length, (encodeLength n).length) := by
  by_cases hshort : n < 128
  · -- one octet, the length itself
    have hbyte : n.toUInt8.toNat = n := by simp; omega
    have henc : encodeLength n = [n.toUInt8] := if_pos hshort
    rw [henc, List.singleton_append, readLength_short (by omega) rest]
    exact ⟨_, rfl⟩
  · -- a count octet, then that many octets
    obtain ⟨hpos, hcount⟩ := bigEndian_length_bounds hshort hn
    set octets := bigEndian 256 n with hoctets
    have hfirst : (0x80 + octets.length).toUInt8.toNat = 128 + octets.length := by
      rw [Nat.toUInt8, UInt8.toNat_ofNat']
      omega
    have henc : encodeLength n = (0x80 + octets.length).toUInt8 :: octets.map Nat.toUInt8 := if_neg hshort
    obtain ⟨length, hread⟩ := readLength_long hfirst hpos hcount (octets.map Nat.toUInt8 ++ rest) (by simp)
    refine ⟨length, ?_⟩
    rw [henc, List.cons_append, hread, List.length_cons, List.length_map, Nat.add_comm]

/-- One OCTET STRING or GeneralString element as go-asn1-ber writes it comes
back as its content octets, whatever its length. -/
theorem ConvertString_encoded (strings : List (Nat × GoString))
    (htags : ∀ e ∈ strings, e.1 = TagOctetString ∨ e.1 = TagGeneralString)
    (hfit : ∀ e ∈ strings, e.2.length < 2 ^ 63) :
    ConvertString (strings.map fun e => e.1.toUInt8 :: (encodeLength e.2.length ++ e.2)) =
      .ok (strings.map Prod.snd) := by
  refine Outcome.mapM_map_eq_ok fun e he => ?_
  obtain ⟨tag, s⟩ := e
  have htag : tag.toUInt8.toNat = tag := by
    rcases htags _ he with h | h <;> simp only at h <;> simp [h, TagOctetString, TagGeneralString]
  obtain ⟨length, hlength⟩ := readLength_encodeLength_append s.length s (by have := hfit _ he; simp at this; omega)
  have hslice : (Outcome.sliceFrom (tag.toUInt8 :: (encodeLength s.length ++ s)) (1 + (encodeLength s.length).length) :
      Outcome GoError GoString) = .ok s := by
    simp [Outcome.sliceFrom, Nat.add_comm 1]
  simp only [Outcome.index_of_getElem? (show (tag.toUInt8 :: (encodeLength s.length ++ s))[0]? = some tag.toUInt8
    from rfl), Outcome.ok_bind, htag, if_pos (htags _ he), List.drop_succ_cons, List.drop_zero, hlength, hslice]

/-- What `TestEncodeString` returns with go-asn1-ber's octets: the tag, the
length octets and the string. -/
theorem TestEncodeString_tlvCodec {tag : Nat} (htag : tag < 31) (s : GoString) (hs : s.length < 2 ^ 63) :
    TestEncodeString tlvCodec tag s = .ok (tag.toUInt8 :: (encodeLength s.length ++ s)) := by
  have hfits : (NewString .universal .primitive tag s).Fits := by
    intro data hdata
    simp only [NewString, Encode, Packet.contents, Packet.contentsAll, List.mem_singleton] at hdata
    rw [hdata]
    exact hs
  rw [TestEncodeString, tlvCodec_lawful.decodePacketErr_bytes _ (wellFormed_NewString _ _ _ _) hfits]
  simp [Except.map, tlvCodec, tlvBytes, encodeIdentifier, htag, NewString, Encode, Class.value, TagType.value]

/-- `ConvertString` inverts `TestEncodeString` for both string tags and every
string a Go slice can hold, in the long length form as in the short. -/
theorem ConvertString_TestEncodeString {tag : Nat} (htag : tag = TagOctetString ∨ tag = TagGeneralString)
    (s : GoString) (hs : s.length < 2 ^ 63) :
    ∃ encoded, TestEncodeString tlvCodec tag s = .ok encoded ∧ ConvertString [encoded] = .ok [s] := by
  have hsmall : tag < 31 := by rcases htag with h | h <;> simp [h, TagOctetString, TagGeneralString]
  refine ⟨_, TestEncodeString_tlvCodec hsmall s hs, ?_⟩
  exact ConvertString_encoded [(tag, s)] (by simpa using htag) (by simpa using hs)

/-- `ConvertString` panics on an OCTET STRING tag with no length octet and
on a long-form length cut short, and accepts an element whose declared
length does not match its content. -/
theorem ConvertString_panics_on_truncated_length :
    ConvertString [[4]] = .panic "runtime error: index out of range [0] with length 0" ∧
    ConvertString [[4, 0x82, 1]] = .panic "runtime error: index out of range [2] with length 2" ∧
    ConvertString [[4, 5, 97]] = .ok [[97]] := by
  decide

end Gldap
