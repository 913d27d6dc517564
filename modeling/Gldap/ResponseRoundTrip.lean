import Gldap.RequestRoundTrip
import Gldap.Response

/-! What a client reads back from the responses the server writes.

`(*ResponseWriter).Write` sends the octets of a response's packet. Read back
by the BER reader, every response is an LDAP message whose first child is the
response's message ID and whose second is its protocol op: for a search entry
the DN and, for each attribute, its type and values; for every other
response the op's tag and the first three fields of an LDAPResult, the
result code, the matched DN and the diagnostic message, in that order
(`response_reads_back`). The controls a bind or a search-done response may
carry come after the op, and the extended response's name is never written.
-/

set_option autoImplicit false

namespace Gldap

open Go Ber

/-- What a client reads off an LDAP response. -/
inductive ResponseView where
  | result (messageID : Int64) (op : Nat) (code : Int64) (matchedDN diagnosticMessage : GoString)
  | entry (messageID : Int64) (dn : GoString) (attributes : List (GoString × List GoString))
  deriving Repr, DecidableEq

/-- The fields a response is meant to put on the wire. -/
def Response.view : Response → ResponseView
  | .extended r =>
    .result r.base.messageID ApplicationExtendedResponse r.base.code.toInt64 r.base.matchedDN r.base.diagMessage
  | .bind r => .result r.base.messageID ApplicationBindResponse r.base.code.toInt64 r.base.matchedDN r.base.diagMessage
  | .general r =>
    .result r.base.messageID r.applicationCode.toUInt64.toNat r.base.code.toInt64 r.base.matchedDN r.base.diagMessage
  | .searchDone r =>
    .result r.base.messageID ApplicationSearchResultDone r.base.code.toInt64 r.base.matchedDN r.base.diagMessage
  | .searchEntry r => .entry r.base.messageID r.entry.dn (r.entry.attributes.map fun a => (a.name, a.values))
  | .modify r =>
    .result r.general.base.messageID r.general.applicationCode.toUInt64.toNat r.general.base.code.toInt64
      r.general.base.matchedDN r.general.base.diagMessage

/-- A search entry's attribute as a client reads it: its type, then the set
of its values. -/
def readAttribute (p : Packet) : Option (GoString × List GoString) :=
  match p.children with
  | [name, values] => do
    let n ← name.value.toString?
    let vs ← values.children.mapM (·.value.toString?)
    pure (n, vs)
  | _ => none

/-- A client's reading of an LDAP response message: the message ID, then a
protocol op holding either the DN and the attributes of a search entry, or
the leading fields of an LDAPResult. -/
def readResponse (p : Packet) : Option ResponseView :=
  match p.children with
  | messageID :: op :: _ => do
    let id ← messageID.value.toInt64?
    match op.children with
    | [dn, attributes] => do
      let d ← dn.value.toString?
      let attrs ← attributes.children.mapM readAttribute
      pure (.entry id d attrs)
    | code :: matchedDN :: diagnosticMessage :: _ => do
      let c ← code.value.toInt64?
      let m ← matchedDN.value.toString?
      let msg ← diagnosticMessage.value.toString?
      pure (.result id op.tag c m msg)
    | _ => none
  | _ => none

section Codec

variable {codec : Codec}

/-! ### The packets of a response -/

theorem resultPacket_children (tag : Nat) (base : BaseResponse) :
    (resultPacket codec tag base).children =
      [NewInteger codec .universal .primitive TagEnumerated base.code.toInt64,
        NewString .universal .primitive TagOctetString base.matchedDN,
        NewString .universal .primitive TagOctetString base.diagMessage] := by
  simp [resultPacket, addOptionalResponseChildren, getResponseOpts, applyOpts, ResponseOptions.apply,
    responseDefaults, Encode]

theorem resultPacket_identifier (tag : Nat) (base : BaseResponse) :
    (resultPacket codec tag base).tagType = .constructed ∧ (resultPacket codec tag base).value = .nil ∧
      (resultPacket codec tag base).tag = tag := by
  simp [resultPacket, addOptionalResponseChildren, Encode]

theorem resultPacket_wellFormed (tag : Nat) (base : BaseResponse) : (resultPacket codec tag base).WellFormed codec := by
  simp [resultPacket, addOptionalResponseChildren]

/-- The op of a search entry: the DN, then the sequence of attributes. -/
def entryPacket (codec : Codec) (entry : Entry) : Packet :=
  ((Ber.Encode .application .constructed ApplicationSearchResultEntry).AppendChild codec
    (NewString .universal .primitive TagOctetString entry.dn)).AppendChild codec
    ((Ber.Encode .universal .constructed TagSequence).AppendChildren codec
      (entry.attributes.map (EntryAttribute.encode codec)))

theorem EntryAttribute.encode_children (e : EntryAttribute) :
    (e.encode codec).children = [NewString .universal .primitive TagOctetString e.name,
      (Ber.Encode .universal .constructed TagSet).AppendChildren codec
        (e.values.map (NewString .universal .primitive TagOctetString))] := by
  simp [EntryAttribute.encode, Encode]

theorem EntryAttribute.encode_wellFormed (e : EntryAttribute) : (e.encode codec).WellFormed codec := by
  simp [EntryAttribute.encode]

theorem entryPacket_children (entry : Entry) :
    (entryPacket codec entry).children = [NewString .universal .primitive TagOctetString entry.dn,
      (Ber.Encode .universal .constructed TagSequence).AppendChildren codec
        (entry.attributes.map (EntryAttribute.encode codec))] := by
  simp [entryPacket, Encode]

theorem entryPacket_wellFormed (entry : Entry) : (entryPacket codec entry).WellFormed codec := by
  simp [entryPacket, EntryAttribute.encode_wellFormed]

/-- Every response's packet: the envelope holds the message ID and the op,
and after them at most the controls. -/
theorem Response.packet_children (r : Response) :
    ∃ rest, (r.packet codec).children =
      NewInteger codec .universal .primitive TagInteger (match r with
        | .extended r => r.base.messageID | .bind r => r.base.messageID | .general r => r.base.messageID
        | .searchDone r => r.base.messageID | .searchEntry r => r.base.messageID
        | .modify r => r.general.base.messageID) ::
      (match r with
        | .extended r => resultPacket codec ApplicationExtendedResponse r.base
        | .bind r => resultPacket codec ApplicationBindResponse r.base
        | .general r => resultPacket codec r.applicationCode.toUInt64.toNat r.base
        | .searchDone r => resultPacket codec ApplicationSearchResultDone r.base
        | .searchEntry r => entryPacket codec r.entry
        | .modify r => resultPacket codec r.general.applicationCode.toUInt64.toNat r.general.base) :: rest := by
  cases r with
  | bind r =>
    by_cases hc : r.controls.length > 0
    · exact ⟨[encodeControls codec r.controls], by simp [Response.packet, hc, beginResponse, Encode]⟩
    · exact ⟨[], by simp [Response.packet, hc, beginResponse, Encode]⟩
  | searchDone r =>
    by_cases hc : r.controls.length > 0
    · exact ⟨[encodeControls codec r.controls], by simp [Response.packet, hc, beginResponse, Encode]⟩
    · exact ⟨[], by simp [Response.packet, hc, beginResponse, Encode]⟩
  | searchEntry r => exact ⟨[], by simp [Response.packet, beginResponse, entryPacket, Encode]⟩
  | _ => exact ⟨[], by simp [Response.packet, beginResponse, Encode]⟩

theorem Response.packet_wellFormed (r : Response) : (r.packet codec).WellFormed codec := by
  cases r with
  | bind r =>
    simp only [Response.packet]
    split_ifs <;> simp [beginResponse, resultPacket_wellFormed, encodeControls_wellFormed]
  | searchDone r =>
    simp only [Response.packet]
    split_ifs <;> simp [beginResponse, resultPacket_wellFormed, encodeControls_wellFormed]
  | searchEntry r =>
    have hentry : (entryPacket codec r.entry).WellFormed codec := entryPacket_wellFormed r.entry
    simp only [entryPacket] at hentry
    simp [Response.packet, beginResponse, hentry]
  | _ => simp [Response.packet, beginResponse, resultPacket_wellFormed]

theorem Response.packet_constructed (r : Response) : (r.packet codec).tagType = .constructed := by
  cases r <;> simp only [Response.packet] <;> (try split_ifs) <;> simp [beginResponse, Encode]

/-! ### Reading them back -/

variable (hcodec : codec.Lawful)
include hcodec

/-- An LDAPResult reads back as itself. -/
theorem wire_resultPacket (tag : Nat) (base : BaseResponse) :
    (resultPacket codec tag base).wire codec = resultPacket codec tag base := by
  obtain ⟨hty, hvalue, -⟩ := @resultPacket_identifier codec tag base
  apply wire_eq_self_of_constructed codec hty hvalue
  simp [resultPacket_children, hcodec.wire_NewString, hcodec.wire_NewInteger]

theorem EntryAttribute.wire_encode (e : EntryAttribute) : (e.encode codec).wire codec = e.encode codec := by
  apply wire_eq_self_of_constructed codec (by simp [EntryAttribute.encode, Encode])
    (by simp [EntryAttribute.encode, Encode])
  simp [EntryAttribute.encode_children, hcodec.wire_NewString, wire_stringSequence hcodec]

theorem wire_entryPacket (entry : Entry) : (entryPacket codec entry).wire codec = entryPacket codec entry := by
  apply wire_eq_self_of_constructed codec (by simp [entryPacket, Encode]) (by simp [entryPacket, Encode])
  have hattributes : ((Ber.Encode .universal .constructed TagSequence).AppendChildren codec
      (entry.attributes.map (EntryAttribute.encode codec))).wire codec =
      (Ber.Encode .universal .constructed TagSequence).AppendChildren codec
        (entry.attributes.map (EntryAttribute.encode codec)) :=
    wire_eq_self_of_constructed codec (by simp [Encode]) (by simp [Encode])
      (by simp [EntryAttribute.wire_encode hcodec])
  simp [entryPacket_children, hattributes, hcodec.wire_NewString]

omit hcodec in
/-- A list of encodings read back element by element with a reader that
inverts the encoder. -/
theorem mapM_map_of_inverse {α β γ : Type} {f : α → β} {g : β → Option γ} {h : α → γ}
    (hinv : ∀ a, g (f a) = some (h a)) (l : List α) : (l.map f).mapM g = some (l.map h) := by
  induction l with
  | nil => rfl
  | cons a l ih =>
    rw [List.map_cons, List.mapM_cons, hinv a, ih]
    rfl

omit hcodec in
theorem readAttribute_encode (e : EntryAttribute) : readAttribute (e.encode codec) = some (e.name, e.values) := by
  have hvalues : (e.values.map (NewString .universal .primitive TagOctetString)).mapM
      (fun p => p.value.toString?) = some e.values := by
    have hread := mapM_map_of_inverse (f := NewString .universal .primitive TagOctetString)
      (g := fun p : Packet => p.value.toString?) (h := fun v => v) (fun v => rfl) e.values
    rwa [List.map_id'] at hread
  simp only [readAttribute, EntryAttribute.encode_children, Encode_AppendChildren_children, hvalues]
  rfl

/-- The packet of any response, as it comes off the wire, reads back as the
response. -/
theorem readResponse_wire (r : Response) : readResponse ((r.packet codec).wire codec) = some r.view := by
  obtain ⟨rest, hchildren⟩ := @Response.packet_children codec r
  have hwire := wire_children_of_constructed codec (@Response.packet_constructed codec r)
  rw [hchildren, List.map_cons, List.map_cons, hcodec.wire_NewInteger _ _ (.inl rfl)] at hwire
  -- the op reads back as itself; what the client reads off it is its fields
  cases r with
  | searchEntry r =>
    have hattributes : (r.entry.attributes.map (EntryAttribute.encode codec)).mapM readAttribute =
        some (r.entry.attributes.map fun a => (a.name, a.values)) := by
      exact mapM_map_of_inverse readAttribute_encode r.entry.attributes
    rw [wire_entryPacket hcodec] at hwire
    simp [readResponse, hwire, entryPacket, Encode, NewString, NewInteger, GoValue.toString?,
      hattributes, Response.view]
  | _ =>
    rw [wire_resultPacket hcodec] at hwire
    simp [readResponse, hwire, resultPacket_children, resultPacket_identifier, NewString, NewInteger,
      GoValue.toString?, Response.view]

/-- What a client reads from the octets of any response the server writes. -/
theorem response_reads_back (r : Response) (hfits : (r.packet codec).Fits) :
    ∃ p, codec.decodePacketErr (codec.bytes (r.packet codec)) = .ok p ∧ readResponse p = some r.view :=
  ⟨(r.packet codec).wire codec, hcodec.decodePacketErr_bytes _ (Response.packet_wellFormed r) hfits,
    readResponse_wire hcodec r⟩

end Codec

/-- The invalid-credentials answer to bind 1, written by the definite-length
codec, reads back as that bind response. -/
theorem invalid_credentials_reads_back :
    let r : Response := .bind ⟨⟨1, ResultInvalidCredentials.toInt16, [], []⟩, []⟩
    (r.packet tlvCodec).Fits ∧
      ∃ p, tlvCodec.decodePacketErr (tlvCodec.bytes (r.packet tlvCodec)) = .ok p ∧ readResponse p = some r.view := by
  intro r
  have hfits : (r.packet tlvCodec).Fits := by
    unfold Packet.Fits
    decide +kernel
  exact ⟨hfits, response_reads_back tlvCodec_lawful r hfits⟩

end Gldap
