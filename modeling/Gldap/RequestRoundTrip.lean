import Gldap.Modify
import Gldap.ControlRoundTrip

/-! Requests read back what the test encoders of testing.go write.

`newMessage` inverts the bind, search, add, unbind and extended encoders on
the packet they build and on the packet read back from its octets; the
delete encoder only on the packet itself. That encoder writes the DN as the
content octets of a constructed op, and the reader parses the content of a
constructed packet as child packets: for a DN such as `cn=alice` the octets
do not read back at all.

Every encoder but unbind's and extended's wraps its op in the same envelope,
so the readers are proved once against what they need of an envelope
(`Envelope`), which both the built packet and the packet off the wire have.
-/

set_option autoImplicit false

namespace Gldap

open Go Ber

/-! ### The encoders -/

section Encoders

variable (codec : Codec)

/-- `(*Attribute).encode`: a SEQUENCE of the type and a SET of the values. -/
def Attribute.encode (a : Attribute) : Packet :=
  let seq := (Ber.Encode .universal .constructed TagSequence).AppendChild codec
    (NewString .universal .primitive TagOctetString a.type)
  let set := (Ber.Encode .universal .constructed TagSet).AppendChildren codec
    (a.vals.map (NewString .universal .primitive TagOctetString))
  seq.AppendChild codec set

/-- The envelope the test encoders share: the message ID, the op and, when
there are controls, the controls element. -/
def requestEnvelope (messageID : Int64) (pkt : Packet) (controls : List Control) : Packet :=
  let envelope := (testRequestEnvelope codec messageID).AppendChild codec pkt
  if controls.length > 0 then envelope.AppendChild codec (encodeControls codec controls) else envelope

def testSearchRequestPacket (filters : FilterCodec) (s : SearchMessage) : Except GoError Packet := do
  let pkt := (Ber.Encode .application .constructed ApplicationSearchRequest).AppendChildren codec
    [NewString .universal .primitive TagOctetString s.baseDN,
      NewInteger codec .universal .primitive TagEnumerated s.scope,
      NewInteger codec .universal .primitive TagEnumerated s.derefAliases,
      NewInteger codec .universal .primitive TagInteger s.sizeLimit,
      NewInteger codec .universal .primitive TagInteger s.timeLimit,
      NewBoolean codec .universal .primitive TagBoolean s.typesOnly]
  -- compile and encode filter
  let filterPacket ← filters.CompileFilter s.filter
  let attributesPacket := (Ber.Encode .universal .constructed TagSequence).AppendChildren codec
    (s.attributes.map (NewString .universal .primitive TagOctetString))
  pure (requestEnvelope codec s.id ((pkt.AppendChild codec filterPacket).AppendChild codec attributesPacket)
    s.controls)

def testSimpleBindRequestPacket (m : SimpleBindMessage) : Packet :=
  requestEnvelope codec m.id
    ((Ber.Encode .application .constructed ApplicationBindRequest).AppendChildren codec
      [NewInteger codec .universal .primitive TagInteger 3,
        NewString .universal .primitive TagOctetString m.userName,
        NewString .context .primitive 0 m.password])
    m.controls

def testUnbindRequestPacket (m : UnbindMessage) : Packet :=
  (testRequestEnvelope codec m.id).AppendChild codec (Ber.Encode .application .constructed ApplicationUnbindRequest)

/-- `testDeleteRequestPacket`: the DN goes straight into the content octets of
a constructed op. -/
def testDeleteRequestPacket (m : DeleteMessage) : Packet :=
  requestEnvelope codec m.id { Ber.Encode .application .constructed ApplicationDelRequest with data := m.dn }
    m.controls

def testAddRequestPacket (m : AddMessage) : Packet :=
  requestEnvelope codec m.id
    ((Ber.Encode .application .constructed ApplicationAddRequest).AppendChildren codec
      [NewString .universal .primitive TagOctetString m.dn,
        (Ber.Encode .universal .constructed TagSequence).AppendChildren codec
          (m.attributes.map (Attribute.encode codec))])
    m.controls

/-- `testStartTLSRequestPacket` with the operation name as a parameter. -/
def testExtendedRequestPacket (messageID : Int64) (name : ExtendedOperationName) : Packet :=
  (testRequestEnvelope codec messageID).AppendChild codec
    ((Ber.Encode .application .constructed ApplicationExtendedRequest).AppendChild codec
      (NewString .context .primitive 0 name))

def testStartTLSRequestPacket (messageID : Int64) : Packet :=
  testExtendedRequestPacket codec messageID ExtendedOperationStartTLS

end Encoders

/-- What the development assumes of go-ldap's filter compiler: a compiled
filter is a well-formed packet, and it decompiles the same off the wire. -/
structure FilterCodec.Lawful (filters : FilterCodec) (codec : Codec) : Prop where
  compile_wellFormed : ∀ f p, filters.CompileFilter f = .ok p → p.WellFormed codec
  decompile_wire : ∀ f p, filters.CompileFilter f = .ok p →
    filters.DecompileFilter (p.wire codec) = filters.DecompileFilter p

theorem presentFilters_lawful (codec : Codec) : presentFilters.Lawful codec where
  compile_wellFormed f p h := by
    simp only [presentFilters] at h
    split_ifs at h
    cases h
    exact wellFormed_of_leaf codec rfl rfl
  decompile_wire f p h := by
    simp only [presentFilters] at h
    split_ifs at h
    cases h
    simp [presentFilters, Packet.wire]

/-- The packet reads back as the message, both as it is and, when it fits,
from its octets. -/
def RoundTrips (codec : Codec) (filters : FilterCodec) (p : Packet) (m : Message) : Prop :=
  newMessage codec filters p = .ok m ∧
    (p.Fits → ∃ q, codec.decodePacketErr (codec.bytes p) = .ok q ∧ newMessage codec filters q = .ok m)

/-! ### What the readers need of an envelope -/

/-- A SEQUENCE of the message ID, an application-class constructed op and,
exactly when there are controls, a controls element they decode from. -/
structure Envelope (codec : Codec) (p : Packet) (id : Int64) (op : Packet) (controls : List Control) : Prop where
  identifier : p.classType = .universal ∧ p.tagType = .constructed ∧ p.tag = TagSequence
  application : op.classType = .application ∧ op.tagType = .constructed
  children : ∃ rest, p.children = NewInteger codec .universal .primitive TagInteger id :: op :: rest ∧
    (rest = [] ∧ controls = [] ∨ ∃ element, rest = [element] ∧ element.classType = .context ∧
      element.tagType = .constructed ∧ element.children.mapM (decodeControl codec) = .ok controls)

namespace Envelope

variable {codec : Codec} {p op : Packet} {id : Int64} {controls : List Control}

theorem basicValidation_eq (he : Envelope codec p id op controls) : basicValidation p = .ok () := by
  obtain ⟨rest, hchildren, -⟩ := he.children
  obtain ⟨hcl, hty, htag⟩ := he.identifier
  exact basicValidation_eq_ok.mpr ⟨hcl, hty, htag, by simp [hchildren]⟩

theorem requestMessageID_eq (he : Envelope codec p id op controls) : requestMessageID p = .ok id := by
  obtain ⟨rest, hchildren, -⟩ := he.children
  have hid : assert (NewInteger codec .universal .primitive TagInteger id) .universal .primitive
      [.withTag TagInteger] = .ok () :=
    assert_self_eq_ok.mpr ⟨rfl, rfl, rfl⟩
  simp [requestMessageID, he.basicValidation_eq, hchildren, Outcome.index, hid]

theorem assertApplicationRequest_eq (he : Envelope codec p id op controls) :
    assertApplicationRequest p = .ok () := by
  obtain ⟨rest, hchildren, -⟩ := he.children
  refine assertApplicationRequest_eq_ok.mpr ⟨op, by simp [hchildren], he.application.1, fun hprim => ?_⟩
  simp [he.application.2] at hprim

/-- The op, once a bind op's version child is the 3 the encoder writes. -/
theorem requestPacket_eq (he : Envelope codec p id op controls)
    (hversion : op.tag = ApplicationBindRequest →
      op.children[0]? = some (NewInteger codec .universal .primitive TagInteger 3)) :
    requestPacket p = .ok op := by
  obtain ⟨rest, hchildren, -⟩ := he.children
  by_cases hbind : op.tag = ApplicationBindRequest
  · have hv : assert op .universal .primitive [.withTag TagInteger, .withAssertChild 0] = .ok () :=
      assert_child_eq_ok.mpr ⟨_, hversion hbind, rfl, rfl, rfl⟩
    simp [requestPacket, he.basicValidation_eq, he.assertApplicationRequest_eq, hchildren, Outcome.index,
      hbind, hv, hversion hbind]
  · exact requestPacket_eq_ok he.basicValidation_eq he.assertApplicationRequest_eq (by simp [hchildren]) hbind

theorem decodeControls_eq (he : Envelope codec p id op controls) (name : GoString) :
    decodeControls codec name p = .ok controls := by
  obtain ⟨rest, hchildren, hrest⟩ := he.children
  rcases hrest with ⟨rfl, rfl⟩ | ⟨element, rfl, hcl, hty, hdecode⟩
  · simp [decodeControls, controlPacket, hchildren]
  · have helement : assert element .context .constructed [] = .ok () := by
      simp [assert_eq_ok, assertedPacket_eq_ok, getMessageOpts, applyOpts, messageDefaults, hcl, hty]
    simp [decodeControls, controlPacket, hchildren, Outcome.index, helement, hdecode]

end Envelope

/-! ### The encoder's envelope, built and off the wire -/

section Envelopes

variable {codec : Codec}

theorem requestEnvelope_children (id : Int64) (op : Packet) (controls : List Control) :
    (requestEnvelope codec id op controls).children =
      NewInteger codec .universal .primitive TagInteger id :: op ::
        (if controls.length > 0 then [encodeControls codec controls] else []) := by
  unfold requestEnvelope testRequestEnvelope
  split_ifs <;> simp [Encode]

theorem requestEnvelope_identifier (id : Int64) (op : Packet) (controls : List Control) :
    (requestEnvelope codec id op controls).classType = .universal ∧
      (requestEnvelope codec id op controls).tagType = .constructed ∧
      (requestEnvelope codec id op controls).tag = TagSequence := by
  unfold requestEnvelope testRequestEnvelope
  split_ifs <;> simp [Encode]

theorem encodeControls_identifier (controls : List Control) :
    (encodeControls codec controls).classType = .context ∧ (encodeControls codec controls).tagType = .constructed := by
  simp [encodeControls, Encode]

theorem encodeControls_children (controls : List Control) :
    (encodeControls codec controls).children = controls.map (Control.Encode codec) := by
  simp [encodeControls, Encode]

theorem encodeControls_wellFormed (controls : List Control) : (encodeControls codec controls).WellFormed codec := by
  have hbuilt : ∀ c : Control, (c.Encode codec).WellFormed codec := fun c => (Control.Encode_built c).wellFormed codec
  simp [encodeControls, hbuilt]

theorem requestEnvelope_wellFormed (id : Int64) {op : Packet} (controls : List Control)
    (hop : op.WellFormed codec) : (requestEnvelope codec id op controls).WellFormed codec := by
  unfold requestEnvelope testRequestEnvelope
  split_ifs <;> simp [hop, encodeControls_wellFormed]

theorem envelope_requestEnvelope (hcodec : codec.Lawful) (id : Int64) {op : Packet} {controls : List Control}
    (happ : op.classType = .application ∧ op.tagType = .constructed) (hcontrols : ∀ c ∈ controls, c.Valid) :
    Envelope codec (requestEnvelope codec id op controls) id op controls := by
  refine ⟨requestEnvelope_identifier id op controls, happ, _, requestEnvelope_children id op controls, ?_⟩
  cases controls with
  | nil => simp
  | cons c cs =>
    -- the controls element holds the encodings, each of which reads back
    have hdecode : ((c :: cs).map (Control.Encode codec)).mapM (decodeControl codec) =
        .ok ((c :: cs).map fun c' => c') :=
      Outcome.mapM_map_eq_ok fun c' hc' => decodeControl_Encode hcodec c' (hcontrols c' hc')
    rw [List.map_id'] at hdecode
    exact .inr ⟨encodeControls codec (c :: cs), by simp, encodeControls_identifier _ |>.1,
      encodeControls_identifier _ |>.2, by rw [encodeControls_children]; exact hdecode⟩

theorem envelope_wire_requestEnvelope (hcodec : codec.Lawful) (id : Int64) {op : Packet} {controls : List Control}
    (happ : op.classType = .application ∧ op.tagType = .constructed) (hcontrols : ∀ c ∈ controls, c.Valid)
    (hfits : (requestEnvelope codec id op controls).Fits) :
    Envelope codec ((requestEnvelope codec id op controls).wire codec) id (op.wire codec) controls := by
  obtain ⟨hcl, hty, htag⟩ := @requestEnvelope_identifier codec id op controls
  have hchildren := wire_children_of_constructed codec hty
  rw [requestEnvelope_children, List.map_cons, List.map_cons, hcodec.wire_NewInteger _ _ (.inl rfl)] at hchildren
  have hidentifier : ((requestEnvelope codec id op controls).wire codec).classType = .universal ∧
      ((requestEnvelope codec id op controls).wire codec).tagType = .constructed ∧
      ((requestEnvelope codec id op controls).wire codec).tag = TagSequence := by
    simp [hcl, hty, htag]
  have happ' : (op.wire codec).classType = .application ∧ (op.wire codec).tagType = .constructed := by
    simp [happ]
  cases controls with
  | nil => exact ⟨hidentifier, happ', [], by simpa using hchildren, .inl ⟨rfl, rfl⟩⟩
  | cons c cs =>
    -- each control fits as a child of the controls element, itself a child of the envelope
    have helement : (encodeControls codec (c :: cs)).Fits :=
      hfits.child (by simp [requestEnvelope_children])
    have heach : ∀ c' ∈ c :: cs, decodeControl codec ((c'.Encode codec).wire codec) = .ok c' := fun c' hc' =>
      decodeControl_wire_Encode hcodec c' (hcontrols c' hc')
        (helement.child (by rw [encodeControls_children]; exact List.mem_map_of_mem hc'))
    have hdecode : ((c :: cs).map fun c' => (c'.Encode codec).wire codec).mapM (decodeControl codec) =
        .ok ((c :: cs).map fun c' => c') :=
      Outcome.mapM_map_eq_ok heach
    rw [List.map_id'] at hdecode
    have hwireChildren : ((encodeControls codec (c :: cs)).wire codec).children =
        (c :: cs).map fun c' => (c'.Encode codec).wire codec := by
      rw [wire_children_of_constructed codec (encodeControls_identifier _).2, encodeControls_children,
        List.map_map]
      rfl
    refine ⟨hidentifier, happ', [(encodeControls codec (c :: cs)).wire codec], by simpa using hchildren,
      .inr ⟨_, rfl, ?_, ?_, by rw [hwireChildren]; exact hdecode⟩⟩
    · simp [encodeControls_identifier]
    · simp [encodeControls_identifier]

end Envelopes

/-! ### The readers of each op -/

section Readers

variable {codec : Codec}

/-- A SET or SEQUENCE of OCTET STRINGs reads as its strings. -/
theorem readStringChildren_eq (wrap : GoError → GoError) {q : Packet} {strings : List GoString}
    (hq : q.children = strings.map (NewString .universal .primitive TagOctetString)) :
    readStringChildren wrap q = .ok strings := by
  have heach : ∀ idx ∈ List.range q.children.length,
      (do (assert q .universal .primitive [.withTag TagOctetString, .withAssertChild idx]).mapError wrap
          childData q idx) = (.ok (strings.getD idx []) : Outcome GoError GoString) := by
    intro idx hidx
    have hlt : idx < strings.length := by simpa [hq] using hidx
    have hchild : q.children[idx]? = some (NewString .universal .primitive TagOctetString strings[idx]) := by
      simp [hq, hlt]
    have hassert : assert q .universal .primitive [.withTag TagOctetString, .withAssertChild idx] = .ok () :=
      assert_child_eq_ok.mpr ⟨_, hchild, rfl, rfl, rfl⟩
    simp [hassert, childData, Outcome.index, hchild, NewString, hlt]
  rw [readStringChildren, Outcome.mapM_eq_ok heach]
  congr 1
  apply List.ext_getElem (by simp [hq])
  intro i _ hi
  simp [List.getElem?_eq_getElem hi]

theorem Attribute.encode_children (a : Attribute) :
    (a.encode codec).children = [NewString .universal .primitive TagOctetString a.type,
      (Ber.Encode .universal .constructed TagSet).AppendChildren codec
        (a.vals.map (NewString .universal .primitive TagOctetString))] := by
  simp [Attribute.encode, Encode]

theorem decodeAttribute_encode (a : Attribute) : decodeAttribute (a.encode codec) = .ok a := by
  have hchildren := @Attribute.encode_children codec a
  have hsequence : assert (a.encode codec) .universal .constructed [.withTag TagSequence] = .ok () :=
    assert_self_eq_ok.mpr (by simp [Attribute.encode, Encode])
  have htype : assert (a.encode codec) .universal .primitive [.withTag TagOctetString, .withAssertChild 0] = .ok () := by
    simp [assert_child_eq_ok, hchildren, NewString, Encode]
  have hset : assert (a.encode codec) .universal .constructed [.withTag TagSet, .withAssertChild 1] = .ok () := by
    simp [assert_child_eq_ok, hchildren, Encode]
  have hvals := readStringChildren_eq (.wrapf "%s: invalid attribute values packet: %w"
    [.str (lit "gldap.decodeAttribute")])
    (Encode_AppendChildren_children codec .universal .constructed TagSet
      (a.vals.map (NewString .universal .primitive TagOctetString)))
  simp [decodeAttribute, assertChild_of_assert, hsequence, htype, hset, childData, Outcome.index, hchildren,
    NewString, hvals]

variable {p op : Packet} {id : Int64} {controls : List Control}

theorem simpleBindParameters_eq (he : Envelope codec p id op controls) {userName password : GoString}
    {pw : Packet}
    (hchildren : op.children = [NewInteger codec .universal .primitive TagInteger 3,
      NewString .universal .primitive TagOctetString userName, pw])
    (hpw : pw.classType = .context ∧ pw.tagType = .primitive ∧ pw.tag = 0 ∧ pw.data = password) :
    simpleBindParameters codec p = .ok (userName, password, controls) := by
  obtain ⟨hcl, hty, htag, hdata⟩ := hpw
  have hop := he.requestPacket_eq fun _ => by simp [hchildren]
  have huser : assert op .universal .primitive [.withTag TagOctetString, .withAssertChild 1] = .ok () := by
    simp [assert_child_eq_ok, hchildren, NewString, Encode]
  have hpassword : assert op .context .primitive [.withTag 0, .withAssertChild 2] = .ok () := by
    simp [assert_child_eq_ok, hchildren, hcl, hty, htag]
  simp [simpleBindParameters, hop, assertChild_of_assert, huser, hpassword, childData, Outcome.index,
    hchildren, hdata, he.decodeControls_eq, NewString]

theorem searchParmeters_eq (filters : FilterCodec) (he : Envelope codec p id op controls)
    (htag : op.tag = ApplicationSearchRequest) {baseDN filter : GoString} {scope derefAliases sizeLimit timeLimit : Int64}
    {typesOnly : Bool} {attributes : List GoString} {filterPacket : Packet}
    (hchildren : op.children = [NewString .universal .primitive TagOctetString baseDN,
      NewInteger codec .universal .primitive TagEnumerated scope,
      NewInteger codec .universal .primitive TagEnumerated derefAliases,
      NewInteger codec .universal .primitive TagInteger sizeLimit,
      NewInteger codec .universal .primitive TagInteger timeLimit,
      NewBoolean codec .universal .primitive TagBoolean typesOnly, filterPacket,
      (Ber.Encode .universal .constructed TagSequence).AppendChildren codec
        (attributes.map (NewString .universal .primitive TagOctetString))])
    (hfilter : filters.DecompileFilter filterPacket = .ok filter) :
    searchParmeters codec filters p =
      .ok ⟨baseDN, scope, derefAliases, sizeLimit, timeLimit, typesOnly, filter, attributes, controls⟩ := by
  have hop := he.requestPacket_eq fun h => absurd (htag.symm.trans h) (by decide)
  -- each child is checked before it is read
  have hbase : assert op .universal .primitive [.withTag TagOctetString, .withAssertChild 0] = .ok () := by
    simp [assert_child_eq_ok, hchildren, NewString, Encode]
  have hscope : assert op .universal .primitive [.withTag TagEnumerated, .withAssertChild 1] = .ok () := by
    simp [assert_child_eq_ok, hchildren, NewInteger, Encode]
  have hderef : assert op .universal .primitive [.withTag TagEnumerated, .withAssertChild 2] = .ok () := by
    simp [assert_child_eq_ok, hchildren, NewInteger, Encode]
  have hsize : assert op .universal .primitive [.withTag TagInteger, .withAssertChild 3] = .ok () := by
    simp [assert_child_eq_ok, hchildren, NewInteger, Encode]
  have htime : assert op .universal .primitive [.withTag TagInteger, .withAssertChild 4] = .ok () := by
    simp [assert_child_eq_ok, hchildren, NewInteger, Encode]
  have htypes : assert op .universal .primitive [.withTag TagBoolean, .withAssertChild 5] = .ok () := by
    simp [assert_child_eq_ok, hchildren, NewBoolean, Encode]
  have hattributes : assert op .universal .constructed [.withTag TagSequence, .withAssertChild 7] = .ok () := by
    simp [assert_child_eq_ok, hchildren, Encode]
  have hstrings := readStringChildren_eq (.wrapf "%s: invalid attribute child packet: %w"
    [.str (lit "gldap.(Packet).searchParmeters")])
    (Encode_AppendChildren_children codec .universal .constructed TagSequence
      (attributes.map (NewString .universal .primitive TagOctetString)))
  simp [searchParmeters, hop, htag, ApplicationSearchRequest, assertChild_of_assert, hbase, childData,
    Outcome.index, hchildren, searchInt64, hscope, hderef, hsize, htime, htypes, hfilter, hattributes,
    he.decodeControls_eq, NewString, NewBoolean, GoValue.toBool?, hstrings]

theorem addParameters_eq (he : Envelope codec p id op controls) (htag : op.tag = ApplicationAddRequest)
    {dn : GoString} {attributes : List Attribute}
    (hchildren : op.children = [NewString .universal .primitive TagOctetString dn,
      (Ber.Encode .universal .constructed TagSequence).AppendChildren codec (attributes.map (Attribute.encode codec))]) :
    addParameters codec p = .ok ⟨dn, attributes, controls⟩ := by
  have hop := he.requestPacket_eq fun h => absurd (htag.symm.trans h) (by decide)
  have hdn : assert op .universal .primitive [.withTag TagOctetString, .withAssertChild 0] = .ok () := by
    simp [assert_child_eq_ok, hchildren, NewString, Encode]
  have hsequence : assert op .universal .constructed [.withTag TagSequence, .withAssertChild 1] = .ok () := by
    simp [assert_child_eq_ok, hchildren, Encode]
  -- every attribute reads back
  have hdecode : (attributes.map (Attribute.encode codec)).mapM (fun attributePacket =>
      (decodeAttribute attributePacket).mapError (.wrapf "%s: failed to decode attribute packet: %w"
        [.str (lit "gldap.(Packet).addParameters")])) = .ok (attributes.map fun a => a) :=
    Outcome.mapM_map_eq_ok fun a _ => by rw [decodeAttribute_encode]; rfl
  rw [List.map_id'] at hdecode
  simp [addParameters, hop, htag, ApplicationAddRequest, assertChild_of_assert, hdn, hsequence, childData,
    Outcome.index, hchildren, NewString, Encode, hdecode, he.decodeControls_eq]

theorem deleteParameters_eq (he : Envelope codec p id op controls) (htag : op.tag = ApplicationDelRequest) :
    deleteParameters codec p = .ok (op.data, controls) := by
  have hop := he.requestPacket_eq fun h => absurd (htag.symm.trans h) (by decide)
  simp [deleteParameters, hop, htag, ApplicationDelRequest, he.decodeControls_eq]

theorem extendedOperationName_eq (he : Envelope codec p id op controls) (htag : op.tag = ApplicationExtendedRequest)
    {nameP : Packet} {name : GoString} (hname : op.children[0]? = some nameP)
    (hnameP : nameP.classType = .context ∧ nameP.tagType = .primitive ∧ nameP.tag = 0 ∧ nameP.data = name) :
    extendedOperationName p = .ok name := by
  obtain ⟨hcl, hty, hzero, hdata⟩ := hnameP
  have hop := he.requestPacket_eq fun h => absurd (htag.symm.trans h) (by decide)
  have hassert : assert op .context .primitive [.withTag 0, .withAssertChild 0] = .ok () :=
    assert_child_eq_ok.mpr ⟨_, hname, hcl, hty, hzero⟩
  simp [extendedOperationName, hop, htag, ApplicationExtendedRequest, assertChild_of_assert, hassert, childData,
    Outcome.index, hname, hdata]

end Readers

/-! ### `newMessage` on an envelope -/

section Messages

variable {codec : Codec} (filters : FilterCodec) {p op : Packet} {id : Int64} {controls : List Control}

theorem newMessage_simpleBind_eq (he : Envelope codec p id op controls) (htag : op.tag = ApplicationBindRequest)
    {userName password : GoString} {pw : Packet}
    (hchildren : op.children = [NewInteger codec .universal .primitive TagInteger 3,
      NewString .universal .primitive TagOctetString userName, pw])
    (hpw : pw.classType = .context ∧ pw.tagType = .primitive ∧ pw.tag = 0 ∧ pw.data = password) :
    newMessage codec filters p = .ok (.simpleBind ⟨id, SimpleAuthChoice, userName, password, controls⟩) := by
  have hop := he.requestPacket_eq fun _ => by simp [hchildren]
  simp [newMessage, requestType, hop, htag, he.requestMessageID_eq, simpleBindParameters_eq he hchildren hpw]

theorem newMessage_search_eq (he : Envelope codec p id op controls) (htag : op.tag = ApplicationSearchRequest)
    {baseDN filter : GoString} {scope derefAliases sizeLimit timeLimit : Int64} {typesOnly : Bool}
    {attributes : List GoString} {filterPacket : Packet}
    (hchildren : op.children = [NewString .universal .primitive TagOctetString baseDN,
      NewInteger codec .universal .primitive TagEnumerated scope,
      NewInteger codec .universal .primitive TagEnumerated derefAliases,
      NewInteger codec .universal .primitive TagInteger sizeLimit,
      NewInteger codec .universal .primitive TagInteger timeLimit,
      NewBoolean codec .universal .primitive TagBoolean typesOnly, filterPacket,
      (Ber.Encode .universal .constructed TagSequence).AppendChildren codec
        (attributes.map (NewString .universal .primitive TagOctetString))])
    (hfilter : filters.DecompileFilter filterPacket = .ok filter) :
    newMessage codec filters p = .ok (.search ⟨id, baseDN, scope, derefAliases, timeLimit, sizeLimit, typesOnly,
      filter, attributes, controls⟩) := by
  have hop := he.requestPacket_eq fun h => absurd (htag.symm.trans h) (by decide)
  simp [newMessage, requestType, hop, htag, ApplicationSearchRequest, ApplicationBindRequest, he.requestMessageID_eq,
    searchParmeters_eq filters he htag hchildren hfilter]

theorem newMessage_add_eq (he : Envelope codec p id op controls) (htag : op.tag = ApplicationAddRequest)
    {dn : GoString} {attributes : List Attribute}
    (hchildren : op.children = [NewString .universal .primitive TagOctetString dn,
      (Ber.Encode .universal .constructed TagSequence).AppendChildren codec (attributes.map (Attribute.encode codec))]) :
    newMessage codec filters p = .ok (.add ⟨id, dn, attributes, controls⟩) := by
  have hop := he.requestPacket_eq fun h => absurd (htag.symm.trans h) (by decide)
  simp [newMessage, requestType, hop, htag, ApplicationAddRequest, ApplicationBindRequest, ApplicationSearchRequest,
    ApplicationExtendedRequest, ApplicationModifyRequest, he.requestMessageID_eq, addParameters_eq he htag hchildren]

theorem newMessage_delete_eq (he : Envelope codec p id op controls) (htag : op.tag = ApplicationDelRequest) :
    newMessage codec filters p = .ok (.delete ⟨id, op.data, controls⟩) := by
  have hop := he.requestPacket_eq fun h => absurd (htag.symm.trans h) (by decide)
  simp [newMessage, requestType, hop, htag, ApplicationDelRequest, ApplicationBindRequest, ApplicationSearchRequest,
    ApplicationExtendedRequest, ApplicationModifyRequest, ApplicationAddRequest, he.requestMessageID_eq,
    deleteParameters_eq he htag]

theorem newMessage_unbind_eq (he : Envelope codec p id op controls) (htag : op.tag = ApplicationUnbindRequest) :
    newMessage codec filters p = .ok (.unbind ⟨id⟩) := by
  have hop := he.requestPacket_eq fun h => absurd (htag.symm.trans h) (by decide)
  simp [newMessage, requestType, hop, htag, ApplicationUnbindRequest, ApplicationDelRequest, ApplicationBindRequest,
    ApplicationSearchRequest, ApplicationExtendedRequest, ApplicationModifyRequest, ApplicationAddRequest,
    he.requestMessageID_eq]

theorem newMessage_extended_eq (he : Envelope codec p id op controls) (htag : op.tag = ApplicationExtendedRequest)
    {nameP : Packet} {name : GoString} (hname : op.children[0]? = some nameP)
    (hnameP : nameP.classType = .context ∧ nameP.tagType = .primitive ∧ nameP.tag = 0 ∧ nameP.data = name) :
    newMessage codec filters p = .ok (.extendedOperation ⟨id, name, []⟩) := by
  have hop := he.requestPacket_eq fun h => absurd (htag.symm.trans h) (by decide)
  simp [newMessage, requestType, hop, htag, ApplicationExtendedRequest, ApplicationBindRequest,
    ApplicationSearchRequest, he.requestMessageID_eq, extendedOperationName_eq he htag hname hnameP]

end Messages

/-! ### Each encoder, built and off the wire -/

section Encoded

variable {codec : Codec} (filters : FilterCodec)

theorem roundTrips_of (hcodec : codec.Lawful) {p : Packet} {m : Message} (hwf : p.WellFormed codec)
    (hdirect : newMessage codec filters p = .ok m)
    (hwire : p.Fits → newMessage codec filters (p.wire codec) = .ok m) : RoundTrips codec filters p m :=
  ⟨hdirect, fun hfits => ⟨_, hcodec.decodePacketErr_bytes p hwf hfits, hwire hfits⟩⟩

/-- A SET or SEQUENCE of OCTET STRINGs reads back as itself. -/
theorem wire_stringSequence (hcodec : codec.Lawful) (tag : Nat) (strings : List GoString) :
    ((Ber.Encode .universal .constructed tag).AppendChildren codec
      (strings.map (NewString .universal .primitive TagOctetString))).wire codec =
    (Ber.Encode .universal .constructed tag).AppendChildren codec
      (strings.map (NewString .universal .primitive TagOctetString)) := by
  apply wire_eq_self_of_constructed codec (by simp [Encode]) (by simp [Encode])
  simp [hcodec.wire_NewString]

theorem Attribute.wire_encode (hcodec : codec.Lawful) (a : Attribute) : (a.encode codec).wire codec = a.encode codec := by
  apply wire_eq_self_of_constructed codec (by simp [Attribute.encode, Encode]) (by simp [Attribute.encode, Encode])
  simp [Attribute.encode_children, hcodec.wire_NewString, wire_stringSequence hcodec]

theorem testSimpleBindRequestPacket_roundTrips (hcodec : codec.Lawful) (m : SimpleBindMessage)
    (hcontrols : ∀ c ∈ m.controls, c.Valid) :
    RoundTrips codec filters (testSimpleBindRequestPacket codec m)
      (.simpleBind { m with authChoice := SimpleAuthChoice }) := by
  let op := (Ber.Encode .application .constructed ApplicationBindRequest).AppendChildren codec
    [NewInteger codec .universal .primitive TagInteger 3, NewString .universal .primitive TagOctetString m.userName,
      NewString .context .primitive 0 m.password]
  have happ : op.classType = .application ∧ op.tagType = .constructed := by simp [op, Encode]
  have htag : op.tag = ApplicationBindRequest := by simp [op, Encode]
  have hchildren := Encode_AppendChildren_children codec .application .constructed ApplicationBindRequest
    [NewInteger codec .universal .primitive TagInteger 3, NewString .universal .primitive TagOctetString m.userName,
      NewString .context .primitive 0 m.password]
  refine roundTrips_of filters hcodec (requestEnvelope_wellFormed m.id m.controls (by simp)) ?_ fun hfits => ?_
  · exact newMessage_simpleBind_eq filters (envelope_requestEnvelope hcodec m.id happ hcontrols) htag hchildren
      ⟨rfl, rfl, rfl, rfl⟩
  · -- off the wire the password loses its string value, which the reader does not look at
    have hwire : (op.wire codec).children = [NewInteger codec .universal .primitive TagInteger 3,
        NewString .universal .primitive TagOctetString m.userName,
        (NewString .context .primitive 0 m.password).wire codec] := by
      rw [wire_children_of_constructed codec happ.2, hchildren]
      simp [hcodec.wire_NewInteger, hcodec.wire_NewString]
    exact newMessage_simpleBind_eq filters (envelope_wire_requestEnvelope hcodec m.id happ hcontrols hfits)
      (by simp [htag]) hwire (by simp [NewString, Encode])

theorem testSearchRequestPacket_roundTrips (hcodec : codec.Lawful) (hfilters : filters.Lawful codec)
    (m : SearchMessage) {filterPacket : Packet} {filter : GoString} (hcontrols : ∀ c ∈ m.controls, c.Valid)
    (hcompile : filters.CompileFilter m.filter = .ok filterPacket)
    (hdecompile : filters.DecompileFilter filterPacket = .ok filter) :
    ∃ p, testSearchRequestPacket codec filters m = .ok p ∧
      RoundTrips codec filters p (.search { m with filter := filter }) := by
  let attributesPacket := (Ber.Encode .universal .constructed TagSequence).AppendChildren codec
    (m.attributes.map (NewString .universal .primitive TagOctetString))
  let op := (((Ber.Encode .application .constructed ApplicationSearchRequest).AppendChildren codec
    [NewString .universal .primitive TagOctetString m.baseDN,
      NewInteger codec .universal .primitive TagEnumerated m.scope,
      NewInteger codec .universal .primitive TagEnumerated m.derefAliases,
      NewInteger codec .universal .primitive TagInteger m.sizeLimit,
      NewInteger codec .universal .primitive TagInteger m.timeLimit,
      NewBoolean codec .universal .primitive TagBoolean m.typesOnly]).AppendChild codec filterPacket).AppendChild
    codec attributesPacket
  have happ : op.classType = .application ∧ op.tagType = .constructed := by simp [op, Encode]
  have htag : op.tag = ApplicationSearchRequest := by simp [op, Encode]
  have hchildren : op.children = [NewString .universal .primitive TagOctetString m.baseDN,
      NewInteger codec .universal .primitive TagEnumerated m.scope,
      NewInteger codec .universal .primitive TagEnumerated m.derefAliases,
      NewInteger codec .universal .primitive TagInteger m.sizeLimit,
      NewInteger codec .universal .primitive TagInteger m.timeLimit,
      NewBoolean codec .universal .primitive TagBoolean m.typesOnly, filterPacket, attributesPacket] := by
    simp [op]
  have hencode : testSearchRequestPacket codec filters m = .ok (requestEnvelope codec m.id op m.controls) := by
    rw [testSearchRequestPacket, hcompile]
    rfl
  have hwf : op.WellFormed codec := by
    simp [op, attributesPacket, hfilters.compile_wellFormed _ _ hcompile]
  refine ⟨_, hencode, roundTrips_of filters hcodec (requestEnvelope_wellFormed m.id m.controls hwf) ?_
    fun hfits => ?_⟩
  · exact newMessage_search_eq filters (envelope_requestEnvelope hcodec m.id happ hcontrols) htag hchildren hdecompile
  · -- off the wire only the filter changes, and it decompiles the same
    have hwire : (op.wire codec).children = [NewString .universal .primitive TagOctetString m.baseDN,
        NewInteger codec .universal .primitive TagEnumerated m.scope,
        NewInteger codec .universal .primitive TagEnumerated m.derefAliases,
        NewInteger codec .universal .primitive TagInteger m.sizeLimit,
        NewInteger codec .universal .primitive TagInteger m.timeLimit,
        NewBoolean codec .universal .primitive TagBoolean m.typesOnly, filterPacket.wire codec,
        attributesPacket] := by
      rw [wire_children_of_constructed codec happ.2, hchildren]
      simp [attributesPacket, hcodec.wire_NewInteger, hcodec.wire_NewString, hcodec.wire_NewBoolean,
        wire_stringSequence hcodec]
    exact newMessage_search_eq filters (envelope_wire_requestEnvelope hcodec m.id happ hcontrols hfits)
      (by simp [htag]) hwire ((hfilters.decompile_wire _ _ hcompile).trans hdecompile)

theorem testAddRequestPacket_roundTrips (hcodec : codec.Lawful) (m : AddMessage)
    (hcontrols : ∀ c ∈ m.controls, c.Valid) :
    RoundTrips codec filters (testAddRequestPacket codec m) (.add m) := by
  let attributesPacket := (Ber.Encode .universal .constructed TagSequence).AppendChildren codec
    (m.attributes.map (Attribute.encode codec))
  let op := (Ber.Encode .application .constructed ApplicationAddRequest).AppendChildren codec
    [NewString .universal .primitive TagOctetString m.dn, attributesPacket]
  have happ : op.classType = .application ∧ op.tagType = .constructed := by simp [op, Encode]
  have htag : op.tag = ApplicationAddRequest := by simp [op, Encode]
  have hchildren : op.children = [NewString .universal .primitive TagOctetString m.dn, attributesPacket] :=
    Encode_AppendChildren_children codec .application .constructed ApplicationAddRequest _
  have hwf : op.WellFormed codec := by
    simp [op, attributesPacket, Attribute.encode]
  -- every part of the op is universal and reads back as itself
  have hattributes : attributesPacket.wire codec = attributesPacket :=
    wire_eq_self_of_constructed codec (by simp [attributesPacket, Encode]) (by simp [attributesPacket, Encode])
      (by simp [attributesPacket, Attribute.wire_encode hcodec])
  have hself : op.wire codec = op :=
    wire_eq_self_of_constructed codec happ.2 (by simp [op, Encode])
      (by simp [hchildren, hattributes, hcodec.wire_NewString])
  refine roundTrips_of filters hcodec (requestEnvelope_wellFormed m.id m.controls hwf) ?_ fun hfits => ?_
  · exact newMessage_add_eq filters (envelope_requestEnvelope hcodec m.id happ hcontrols) htag hchildren
  · have he := envelope_wire_requestEnvelope hcodec m.id happ hcontrols hfits
    rw [hself] at he
    exact newMessage_add_eq filters he htag hchildren

/-- The delete request reads back from the packet itself. -/
theorem testDeleteRequestPacket_reads (hcodec : codec.Lawful) (m : DeleteMessage)
    (hcontrols : ∀ c ∈ m.controls, c.Valid) :
    newMessage codec filters (testDeleteRequestPacket codec m) = .ok (.delete m) :=
  newMessage_delete_eq filters (envelope_requestEnvelope hcodec m.id ⟨rfl, rfl⟩ hcontrols) rfl

theorem testUnbindRequestPacket_roundTrips (hcodec : codec.Lawful) (m : UnbindMessage) :
    RoundTrips codec filters (testUnbindRequestPacket codec m) (.unbind m) := by
  have henvelope : testUnbindRequestPacket codec m =
      requestEnvelope codec m.id (Ber.Encode .application .constructed ApplicationUnbindRequest) [] := by
    simp [testUnbindRequestPacket, requestEnvelope]
  have happ : (Ber.Encode .application .constructed ApplicationUnbindRequest).classType = .application ∧
      (Ber.Encode .application .constructed ApplicationUnbindRequest).tagType = .constructed := ⟨rfl, rfl⟩
  have hself : (Ber.Encode .application .constructed ApplicationUnbindRequest).wire codec =
      Ber.Encode .application .constructed ApplicationUnbindRequest := rfl
  rw [henvelope]
  refine roundTrips_of filters hcodec (requestEnvelope_wellFormed m.id [] ((built_Encode codec _ _ _).wellFormed codec))
    (newMessage_unbind_eq filters (envelope_requestEnvelope hcodec m.id happ (by simp)) rfl) fun hfits => ?_
  have he := envelope_wire_requestEnvelope hcodec m.id happ (by simp) hfits
  rw [hself] at he
  exact newMessage_unbind_eq filters he rfl

theorem testExtendedRequestPacket_roundTrips (hcodec : codec.Lawful) (id : Int64) (name : ExtendedOperationName) :
    RoundTrips codec filters (testExtendedRequestPacket codec id name) (.extendedOperation ⟨id, name, []⟩) := by
  let op := (Ber.Encode .application .constructed ApplicationExtendedRequest).AppendChild codec
    (NewString .context .primitive 0 name)
  have henvelope : testExtendedRequestPacket codec id name = requestEnvelope codec id op [] := by
    simp [testExtendedRequestPacket, requestEnvelope, op]
  have happ : op.classType = .application ∧ op.tagType = .constructed := by simp [op, Encode]
  have htag : op.tag = ApplicationExtendedRequest := by simp [op, Encode]
  have hname : op.children[0]? = some (NewString .context .primitive 0 name) := by simp [op, Encode]
  have hwire : (op.wire codec).children[0]? = some ((NewString .context .primitive 0 name).wire codec) := by
    rw [wire_children_of_constructed codec happ.2]
    simp [hname]
  rw [henvelope]
  refine roundTrips_of filters hcodec (requestEnvelope_wellFormed id [] (by simp [op])) ?_ fun hfits => ?_
  · exact newMessage_extended_eq filters (envelope_requestEnvelope hcodec id happ (by simp)) htag hname
      ⟨rfl, rfl, rfl, rfl⟩
  · exact newMessage_extended_eq filters (envelope_wire_requestEnvelope hcodec id happ (by simp) hfits)
      (by simp [htag]) hwire (by simp [NewString, Encode])

end Encoded

/-- `newMessage` reads back the bind, search, add, unbind and extended
requests the test encoders write, from the packet and from its octets, and
the delete request from the packet. -/
theorem requests_round_trip (codec : Codec) (hcodec : codec.Lawful) (filters : FilterCodec)
    (hfilters : filters.Lawful codec) :
    (∀ m : SimpleBindMessage, (∀ c ∈ m.controls, c.Valid) →
      RoundTrips codec filters (testSimpleBindRequestPacket codec m)
        (.simpleBind { m with authChoice := SimpleAuthChoice })) ∧
    (∀ (m : SearchMessage) (filterPacket : Packet) (filter : GoString), (∀ c ∈ m.controls, c.Valid) →
      filters.CompileFilter m.filter = .ok filterPacket → filters.DecompileFilter filterPacket = .ok filter →
      ∃ p, testSearchRequestPacket codec filters m = .ok p ∧
        RoundTrips codec filters p (.search { m with filter := filter })) ∧
    (∀ m : AddMessage, (∀ c ∈ m.controls, c.Valid) →
      RoundTrips codec filters (testAddRequestPacket codec m) (.add m)) ∧
    (∀ m : DeleteMessage, (∀ c ∈ m.controls, c.Valid) →
      newMessage codec filters (testDeleteRequestPacket codec m) = .ok (.delete m)) ∧
    (∀ m : UnbindMessage, RoundTrips codec filters (testUnbindRequestPacket codec m) (.unbind m)) ∧
    (∀ (id : Int64) (name : ExtendedOperationName),
      RoundTrips codec filters (testExtendedRequestPacket codec id name) (.extendedOperation ⟨id, name, []⟩)) :=
  ⟨fun m hcontrols => testSimpleBindRequestPacket_roundTrips filters hcodec m hcontrols,
    fun m _ _ hcontrols hcompile hdecompile =>
      testSearchRequestPacket_roundTrips filters hcodec hfilters m hcontrols hcompile hdecompile,
    fun m hcontrols => testAddRequestPacket_roundTrips filters hcodec m hcontrols,
    fun m hcontrols => testDeleteRequestPacket_reads filters hcodec m hcontrols,
    fun m => testUnbindRequestPacket_roundTrips filters hcodec m,
    fun id name => testExtendedRequestPacket_roundTrips filters hcodec id name⟩

theorem requests_round_trip_bind :
    (∀ c ∈ [Control.manageDsaIT ⟨true⟩], c.Valid) ∧
      RoundTrips tlvCodec presentFilters
        (testSimpleBindRequestPacket tlvCodec ⟨1, SimpleAuthChoice, lit "cn=alice", lit "secret", [.manageDsaIT ⟨true⟩]⟩)
        (.simpleBind ⟨1, SimpleAuthChoice, lit "cn=alice", lit "secret", [.manageDsaIT ⟨true⟩]⟩) ∧
      (testSimpleBindRequestPacket tlvCodec
        ⟨1, SimpleAuthChoice, lit "cn=alice", lit "secret", [.manageDsaIT ⟨true⟩]⟩).Fits := by
  have hvalid : ∀ c ∈ [Control.manageDsaIT ⟨true⟩], c.Valid := by decide
  have hfits : (testSimpleBindRequestPacket tlvCodec
      ⟨1, SimpleAuthChoice, lit "cn=alice", lit "secret", [.manageDsaIT ⟨true⟩]⟩).Fits := by
    decide +kernel
  exact ⟨hvalid, (requests_round_trip tlvCodec tlvCodec_lawful presentFilters (presentFilters_lawful tlvCodec)).1
    _ hvalid, hfits⟩

/-- The delete request for `cn=alice` reads back from the packet, but not from
its octets: the reader takes `c` for the identifier of a child packet and `n`
for a length of 110, past the end of the DN. -/
theorem delete_request_octets_unreadable :
    newMessage tlvCodec presentFilters (testDeleteRequestPacket tlvCodec ⟨1, lit "cn=alice", []⟩) =
        .ok (.delete ⟨1, lit "cn=alice", []⟩) ∧
      tlvCodec.decodePacketErr (tlvCodec.bytes (testDeleteRequestPacket tlvCodec ⟨1, lit "cn=alice", []⟩)) =
        .error ErrUnexpectedEOF := by
  have hdn : lit "cn=alice" = [99, 110, 61, 97, 108, 105, 99, 101] := by decide +kernel
  refine ⟨testDeleteRequestPacket_reads presentFilters tlvCodec_lawful _ (by simp), ?_⟩
  rw [hdn]
  rfl

end Gldap
