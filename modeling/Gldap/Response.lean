import Gldap.Message

/-! Responses: the entry types of entry.go, the response options, the six
response types of response.go, their constructors on a `Request` and their
`packet` encoders.

A Go `map` is kept as the list of its entries in the order a `range` over it
visits them; the language leaves that order open, so results are stated for
every order.
-/

set_option autoImplicit false

namespace Gldap

open Go Ber

/-- `EntryAttribute`. -/
structure EntryAttribute where
  name : GoString
  values : List GoString
  byteValues : List GoString
  deriving Repr, DecidableEq

/-- `Entry`. -/
structure Entry where
  dn : GoString
  attributes : List EntryAttribute
  deriving Repr, DecidableEq

/-- `NewEntryAttribute`. -/
def NewEntryAttribute (name : GoString) (values : List GoString) : EntryAttribute :=
  { name := name, values := values, byteValues := values }

/-- `(*EntryAttribute).AddValue`. -/
def EntryAttribute.AddValue (e : EntryAttribute) (value : List GoString) : EntryAttribute :=
  { e with values := e.values ++ value, byteValues := e.byteValues ++ value }

/-- `NewEntry`: the attributes in ascending byte order of their names, as
`sort.Strings` leaves them. -/
def NewEntry (dn : GoString) (attributes : List (GoString × List GoString)) : Entry :=
  { dn := dn,
    attributes := (attributes.mergeSort fun a b => decide (a.1 ≤ b.1)).map
      fun attributeName => NewEntryAttribute attributeName.1 attributeName.2 }

/-- `(*Entry).GetAttributeValues`: the values of the first attribute of that name. -/
def Entry.GetAttributeValues (e : Entry) (name : GoString) : List GoString :=
  match e.attributes.find? fun attr => attr.name = name with
  | some attr => attr.values
  | none => []

/-- responseOptions; the two pointers are `none` when nil. -/
structure ResponseOptions where
  withDiagnosticMessage : GoString
  withMatchedDN : GoString
  withResponseCode : Option Int64
  withApplicationCode : Option Int64
  withAttributes : List (GoString × List GoString)
  deriving Repr, DecidableEq

def responseDefaults : ResponseOptions :=
  { withDiagnosticMessage := lit "Unused", withMatchedDN := lit "Unused", withResponseCode := none,
    withApplicationCode := none, withAttributes := [] }

def ResponseOptions.apply (opts : ResponseOptions) : Opt → ResponseOptions
  | .withDiagnosticMessage msg => { opts with withDiagnosticMessage := msg }
  | .withMatchedDN dn => { opts with withMatchedDN := dn }
  | .withResponseCode code => { opts with withResponseCode := some code }
  | .withApplicationCode applicationCode => { opts with withApplicationCode := some applicationCode }
  | .withAttributes attributes => { opts with withAttributes := attributes }
  | _ => opts

def getResponseOpts (opt : List Opt) : ResponseOptions :=
  applyOpts ResponseOptions.apply responseDefaults opt

/-- `baseResponse`; the result code is an `int16`. -/
structure BaseResponse where
  messageID : Int64
  code : Int16
  diagMessage : GoString
  matchedDN : GoString
  deriving Repr, DecidableEq

/-- `SetResultCode`: `int16(code)` keeps the low 16 bits. -/
def BaseResponse.SetResultCode (l : BaseResponse) (code : Int64) : BaseResponse :=
  { l with code := code.toInt16 }

def BaseResponse.SetDiagnosticMessage (l : BaseResponse) (msg : GoString) : BaseResponse :=
  { l with diagMessage := msg }

def BaseResponse.SetMatchedDN (l : BaseResponse) (dn : GoString) : BaseResponse :=
  { l with matchedDN := dn }

structure ExtendedResponse where
  base : BaseResponse
  name : ExtendedOperationName
  deriving Repr, DecidableEq

def ExtendedResponse.SetResponseName (r : ExtendedResponse) (n : ExtendedOperationName) :
    ExtendedResponse :=
  { r with name := n }

structure BindResponse where
  base : BaseResponse
  controls : List Control
  deriving Repr, DecidableEq

def BindResponse.SetControls (r : BindResponse) (controls : List Control) : BindResponse :=
  { r with controls := controls }

structure GeneralResponse where
  base : BaseResponse
  applicationCode : Int64
  deriving Repr, DecidableEq

def GeneralResponse.SetResultCode (r : GeneralResponse) (code : Int64) : GeneralResponse :=
  { r with base := r.base.SetResultCode code }

def GeneralResponse.SetDiagnosticMessage (r : GeneralResponse) (msg : GoString) : GeneralResponse :=
  { r with base := r.base.SetDiagnosticMessage msg }

def GeneralResponse.SetMatchedDN (r : GeneralResponse) (dn : GoString) : GeneralResponse :=
  { r with base := r.base.SetMatchedDN dn }

structure SearchResponseDone where
  base : BaseResponse
  controls : List Control
  deriving Repr, DecidableEq

def SearchResponseDone.SetControls (r : SearchResponseDone) (controls : List Control) :
    SearchResponseDone :=
  { r with controls := controls }

structure SearchResponseEntry where
  base : BaseResponse
  entry : Entry
  deriving Repr, DecidableEq

/-- `ModifyResponse` embeds a `*GeneralResponse`. -/
structure ModifyResponse where
  general : GeneralResponse
  deriving Repr, DecidableEq

/-- `(*SearchResponseEntry).AddAttribute`. -/
def SearchResponseEntry.AddAttribute (r : SearchResponseEntry) (name : GoString)
    (values : List GoString) : SearchResponseEntry :=
  { r with entry := { r.entry with attributes := r.entry.attributes ++ [NewEntryAttribute name values] } }

/-- The source's `Response` interface. -/
inductive Response where
  | extended (r : ExtendedResponse)
  | bind (r : BindResponse)
  | general (r : GeneralResponse)
  | searchDone (r : SearchResponseDone)
  | searchEntry (r : SearchResponseEntry)
  | modify (r : ModifyResponse)
  deriving Repr, DecidableEq

/-- `(*Request).NewResponse`: unwilling to perform, as an extended response,
unless the options say otherwise. -/
def Request.NewResponse (r : Request) (opt : List Opt) : GeneralResponse :=
  let opts := getResponseOpts opt
  let code := opts.withResponseCode.getD ResultUnwillingToPerform
  let applicationCode := opts.withApplicationCode.getD (.ofNat ApplicationExtendedResponse)
  { base := { messageID := r.message.GetID, code := code.toInt16,
              diagMessage := opts.withDiagnosticMessage, matchedDN := opts.withMatchedDN },
    applicationCode := applicationCode }

/-- `(*Request).NewModifyResponse`. It dereferences the response code pointer
to forward it, which is nil when no `WithResponseCode` was given. -/
def Request.NewModifyResponse (r : Request) (opt : List Opt) : Outcome GoError ModifyResponse := do
  let opts := getResponseOpts opt
  let code ← match opts.withResponseCode with
    | some code => pure code
    | none => .panic nilDereference
  pure { general := r.NewResponse [.withApplicationCode (.ofNat ApplicationModifyResponse),
    .withResponseCode code, .withDiagnosticMessage opts.withDiagnosticMessage,
    .withMatchedDN opts.withMatchedDN] }

/-- Every option list without `WithResponseCode` makes `NewModifyResponse`
dereference nil. -/
theorem NewModifyResponse_panic_of_no_code (r : Request) (opt : List Opt)
    (h : (getResponseOpts opt).withResponseCode = none) :
    r.NewModifyResponse opt = .panic nilDereference := by
  simp [Request.NewModifyResponse, h]

theorem NewModifyResponse_empty_options_panics (r : Request) :
    r.NewModifyResponse [] = .panic nilDereference :=
  NewModifyResponse_panic_of_no_code r [] rfl

/-- With a response code the modify response is the general response of the
modify application code carrying it. -/
theorem NewModifyResponse_eq_ok (r : Request) (opt : List Opt) (code : Int64)
    (h : (getResponseOpts opt).withResponseCode = some code) :
    r.NewModifyResponse opt = .ok ⟨{
      base := ⟨r.message.GetID, code.toInt16, (getResponseOpts opt).withDiagnosticMessage,
        (getResponseOpts opt).withMatchedDN⟩,
      applicationCode := .ofNat ApplicationModifyResponse }⟩ := by
  -- the forwarded options are a closed list, so the general response computes
  simp only [Request.NewModifyResponse, h]
  rfl

/-- The base of the responses whose constructor only reads `WithResponseCode`:
success with empty texts unless a code is given. -/
def codeOnlyBase (r : Request) (opt : List Opt) : BaseResponse :=
  { messageID := r.message.GetID,
    code := ((getResponseOpts opt).withResponseCode.map Int64.toInt16).getD 0,
    diagMessage := [], matchedDN := [] }

@[simp] theorem codeOnlyBase_withResponseCode (r : Request) (code : Int64) :
    codeOnlyBase r [.withResponseCode code] = ⟨r.message.GetID, code.toInt16, [], []⟩ := rfl

/-- `(*Request).NewExtendedResponse`. -/
def Request.NewExtendedResponse (r : Request) (opt : List Opt) : ExtendedResponse :=
  { base := codeOnlyBase r opt, name := [] }

/-- `(*Request).NewBindResponse`. -/
def Request.NewBindResponse (r : Request) (opt : List Opt) : BindResponse :=
  { base := codeOnlyBase r opt, controls := [] }

/-- `(*Request).NewSearchDoneResponse`. -/
def Request.NewSearchDoneResponse (r : Request) (opt : List Opt) : SearchResponseDone :=
  { base := codeOnlyBase r opt, controls := [] }

/-- `(*Request).NewSearchResponseEntry`: one attribute per entry of the
`WithAttributes` map, in its range order. -/
def Request.NewSearchResponseEntry (r : Request) (entryDN : GoString) (opt : List Opt) :
    SearchResponseEntry :=
  { base := ⟨r.message.GetID, 0, [], []⟩,
    entry := ⟨entryDN, (getResponseOpts opt).withAttributes.map fun a => NewEntryAttribute a.1 a.2⟩ }

section Codec

variable (codec : Codec)

/-- `beginResponse`: the envelope with its message ID. -/
def beginResponse (messageID : Int64) : Packet :=
  (Ber.Encode .universal .constructed TagSequence).AppendChild codec
    (NewInteger codec .universal .primitive TagInteger messageID)

/-- `addOptionalResponseChildren` as the packet encoders call it: the matched
DN, then the diagnostic message. -/
def addOptionalResponseChildren (resultPacket : Packet) (opt : List Opt) : Packet :=
  let opts := getResponseOpts opt
  (resultPacket.AppendChild codec (NewString .universal .primitive TagOctetString opts.withMatchedDN)).AppendChild
    codec (NewString .universal .primitive TagOctetString opts.withDiagnosticMessage)

/-- The LDAPResult of every response but the search entry: an application op
holding the result code, the matched DN and the diagnostic message. -/
def resultPacket (tag : Nat) (base : BaseResponse) : Packet :=
  addOptionalResponseChildren codec
    ((Ber.Encode .application .constructed tag).AppendChild codec
      (NewInteger codec .universal .primitive TagEnumerated base.code.toInt64))
    [.withDiagnosticMessage base.diagMessage, .withMatchedDN base.matchedDN]

/-- `(*EntryAttribute).encode`. -/
def EntryAttribute.encode (e : EntryAttribute) : Packet :=
  let seq := (Ber.Encode .universal .constructed TagSequence).AppendChild codec
    (NewString .universal .primitive TagOctetString e.name)
  let set := (Ber.Encode .universal .constructed TagSet).AppendChildren codec
    (e.values.map (NewString .universal .primitive TagOctetString))
  seq.AppendChild codec set

/-- `packet()` of each response type. -/
def Response.packet : Response → Packet
  | .extended r =>
    (beginResponse codec r.base.messageID).AppendChild codec
      (resultPacket codec ApplicationExtendedResponse r.base)
  | .bind r =>
    let replyPacket := (beginResponse codec r.base.messageID).AppendChild codec
      (resultPacket codec ApplicationBindResponse r.base)
    if r.controls.length > 0 then replyPacket.AppendChild codec (encodeControls codec r.controls)
    else replyPacket
  | .general r =>
    (beginResponse codec r.base.messageID).AppendChild codec
      (resultPacket codec r.applicationCode.toUInt64.toNat r.base)
  | .searchDone r =>
    let replyPacket := (beginResponse codec r.base.messageID).AppendChild codec
      (resultPacket codec ApplicationSearchResultDone r.base)
    if r.controls.length > 0 then replyPacket.AppendChild codec (encodeControls codec r.controls)
    else replyPacket
  | .searchEntry r =>
    let attributesPacket := (Ber.Encode .universal .constructed TagSequence).AppendChildren codec
      (r.entry.attributes.map (EntryAttribute.encode codec))
    let entryPacket := ((Ber.Encode .application .constructed ApplicationSearchResultEntry).AppendChild
      codec (NewString .universal .primitive TagOctetString r.entry.dn)).AppendChild codec
      attributesPacket
    (beginResponse codec r.base.messageID).AppendChild codec entryPacket
  | .modify r =>
    (beginResponse codec r.general.base.messageID).AppendChild codec
      (resultPacket codec r.general.applicationCode.toUInt64.toNat r.general.base)

/-- The extended response's packet never reads the name that
`SetResponseName` sets. -/
theorem packet_SetResponseName (r : ExtendedResponse) (n : ExtendedOperationName) :
    Response.packet codec (.extended (r.SetResponseName n)) = Response.packet codec (.extended r) :=
  rfl

end Codec

end Gldap
