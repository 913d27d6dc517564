import Gldap.Packet
import Gldap.Ber.Tlv

/-! Request messages and their construction from a packet: message.go's
`newMessage` and request.go's `newRequest`.

`newMessage` classifies the op with `requestType`, reads the message ID and
then hands the packet to the parameter reader of that type. Its `default`
branch builds an extended operation named `Unknown`; `requestType` has
already failed on every tag outside the seven it lists.
-/

set_option autoImplicit false

namespace Gldap

open Go Ber

/-- `AuthChoice`; the decoder only builds `SimpleAuthChoice`. -/
abbrev AuthChoice := GoString

def SimpleAuthChoice : AuthChoice := lit "simple"

/-- `ExtendedOperationName`. -/
abbrev ExtendedOperationName := GoString

def ExtendedOperationStartTLS : ExtendedOperationName := lit "1.3.6.1.4.1.1466.20037"
def ExtendedOperationUnknown : ExtendedOperationName := lit "Unknown"

structure SearchMessage where
  id : Int64
  baseDN : GoString
  scope : Scope
  derefAliases : Int64
  timeLimit : Int64
  sizeLimit : Int64
  typesOnly : Bool
  filter : GoString
  attributes : List GoString
  controls : List Control
  deriving Repr, DecidableEq

structure SimpleBindMessage where
  id : Int64
  authChoice : AuthChoice
  userName : GoString
  password : GoString
  controls : List Control
  deriving Repr, DecidableEq

structure ExtendedOperationMessage where
  id : Int64
  name : ExtendedOperationName
  value : GoString
  deriving Repr, DecidableEq

structure DeleteMessage where
  id : Int64
  dn : GoString
  controls : List Control
  deriving Repr, DecidableEq

structure UnbindMessage where
  id : Int64
  deriving Repr, DecidableEq

structure ModifyMessage where
  id : Int64
  dn : GoString
  changes : List Change
  controls : List Control
  deriving Repr, DecidableEq

structure AddMessage where
  id : Int64
  dn : GoString
  attributes : List Attribute
  controls : List Control
  deriving Repr, DecidableEq

/-- The source's `Message` interface, over the message types `newMessage`
builds. -/
inductive Message where
  | search (m : SearchMessage)
  | simpleBind (m : SimpleBindMessage)
  | extendedOperation (m : ExtendedOperationMessage)
  | delete (m : DeleteMessage)
  | unbind (m : UnbindMessage)
  | modify (m : ModifyMessage)
  | add (m : AddMessage)
  deriving Repr, DecidableEq

def Message.GetID : Message → Int64
  | search m => m.id
  | simpleBind m => m.id
  | extendedOperation m => m.id
  | delete m => m.id
  | unbind m => m.id
  | modify m => m.id
  | add m => m.id

/-- `routeOperation` is a string type: a request built by hand may carry any
string, as the shutdown path of `serveRequests` does. -/
abbrev RouteOperation := GoString

def bindRouteOperation : RouteOperation := lit "bind"
def searchRouteOperation : RouteOperation := lit "search"
def extendedRouteOperation : RouteOperation := lit "extendedOperation"
def modifyRouteOperation : RouteOperation := lit "modify"
def addRouteOperation : RouteOperation := lit "add"
def deleteRouteOperation : RouteOperation := lit "delete"
def unbindRouteOperation : RouteOperation := lit "unbind"

/-! The route operations as bytes, for telling them apart in proofs. -/

theorem bindRouteOperation_bytes : bindRouteOperation = [98, 105, 110, 100] := by decide +kernel
theorem searchRouteOperation_bytes : searchRouteOperation = [115, 101, 97, 114, 99, 104] := by
  decide +kernel
theorem extendedRouteOperation_bytes : extendedRouteOperation =
    [101, 120, 116, 101, 110, 100, 101, 100, 79, 112, 101, 114, 97, 116, 105, 111, 110] := by
  decide +kernel
theorem modifyRouteOperation_bytes : modifyRouteOperation = [109, 111, 100, 105, 102, 121] := by
  decide +kernel
theorem addRouteOperation_bytes : addRouteOperation = [97, 100, 100] := by decide +kernel
theorem deleteRouteOperation_bytes : deleteRouteOperation = [100, 101, 108, 101, 116, 101] := by
  decide +kernel
theorem unbindRouteOperation_bytes : unbindRouteOperation = [117, 110, 98, 105, 110, 100] := by
  decide +kernel

/-- `Request`; the connection is kept as its connection ID, the only part of
it a request reads outside StartTLS. -/
structure Request where
  ID : Int64
  conn : Nat
  message : Message
  routeOp : RouteOperation
  extendedName : ExtendedOperationName
  deriving Repr, DecidableEq

section Codecs

variable (codec : Codec) (filters : FilterCodec)

/-- `newMessage`. -/
def newMessage (p : Packet) : Outcome GoError Message := do
  let op := lit "gldap.NewMessage"
  let reqType ← (requestType p).mapError (.wrapf "%s: %w" [.str op])
  let msgID ← (requestMessageID p).mapError (.wrapf "%s: unable to get message id: %w" [.str op])
  match reqType with
  | .unbind => pure (.unbind ⟨msgID⟩)
  | .bind => do
    let (u, pass, controls) ← (simpleBindParameters codec p).mapError
      (.wrapf "%s: invalid bind message: %w" [.str op])
    pure (.simpleBind ⟨msgID, SimpleAuthChoice, u, pass, controls⟩)
  | .search => do
    let parameters ← (searchParmeters codec filters p).mapError
      (.wrapf "%s: invalid search message: %w" [.str op])
    pure (.search ⟨msgID, parameters.baseDN, parameters.scope, parameters.derefAliases,
      parameters.timeLimit, parameters.sizeLimit, parameters.typesOnly, parameters.filter,
      parameters.attributes, parameters.controls⟩)
  | .extended => do
    let opName ← (extendedOperationName p).mapError (.wrapf "%s: %w" [.str op])
    pure (.extendedOperation ⟨msgID, opName, []⟩)
  | .modify => do
    let parameters ← (modifyParameters codec p).mapError (.wrapf "%s: %w" [.str op])
    pure (.modify ⟨msgID, parameters.dn, parameters.changes, parameters.controls⟩)
  | .add => do
    let parameters ← (addParameters codec p).mapError (.wrapf "%s: %w" [.str op])
    pure (.add ⟨msgID, parameters.dn, parameters.attributes, parameters.controls⟩)
  | .delete => do
    let (dn, controls) ← (deleteParameters codec p).mapError (.wrapf "%s: %w" [.str op])
    pure (.delete ⟨msgID, dn, controls⟩)
  | .unknown => pure (.extendedOperation ⟨msgID, ExtendedOperationUnknown, []⟩)

/-- The route operation and extended name `newRequest` files a message under.
The source's `default` branch is unreachable: `Message` is closed. -/
def Message.routeOperation : Message → RouteOperation × ExtendedOperationName
  | .simpleBind _ => (bindRouteOperation, [])
  | .search _ => (searchRouteOperation, [])
  | .extendedOperation m => (extendedRouteOperation, m.name)
  | .modify _ => (modifyRouteOperation, [])
  | .add _ => (addRouteOperation, [])
  | .delete _ => (deleteRouteOperation, [])
  | .unbind _ => (unbindRouteOperation, [])

/-- `newRequest`; a nil connection is `none`. The packet is never nil here. -/
def newRequest (id : Int64) (c : Option Nat) (p : Packet) : Outcome GoError Request := do
  let op := lit "gldap.newRequest"
  let some conn := c
    | .error (.wrapf "%s: missing connection: %w" [.str op] ErrInvalidParameter)
  let m ← (newMessage codec filters p).mapError
    (.wrapf "%s: unable to build message for request %d: %w" [.str op, .int id.toInt])
  pure ⟨id, conn, m, m.routeOperation.1, m.routeOperation.2⟩

/-- A panic of `requestPacket` is not caught on the way up: `requestType`
calls it first, and `newRequest` panics with the same message. -/
theorem newRequest_panic_of_requestPacket {p : Packet} {message : String} (id : Int64) (conn : Nat)
    (h : requestPacket p = .panic message) :
    newRequest codec filters id (some conn) p = .panic message := by
  have htype : requestType p = .panic message := by
    simp [requestType, h]
  simp [newRequest, newMessage, htype]

/-- Only the bind branch builds a simple bind, and it always says simple. -/
theorem newMessage_simpleBind {p : Packet} {m : SimpleBindMessage}
    (h : newMessage codec filters p = .ok (.simpleBind m)) : m.authChoice = SimpleAuthChoice := by
  simp only [newMessage, Outcome.bind_eq_ok] at h
  obtain ⟨reqType, -, msgID, -, h⟩ := h
  cases reqType <;> simp [Outcome.bind_eq_ok] at h
  obtain ⟨-, -, -, -, rfl⟩ := h
  rfl

end Codecs

/-- An LDAPv2 simple bind as the decoder reads it from its fourteen octets: it
passes `basicValidation`, and `newRequest` panics on it. -/
theorem ldapv2_bind_request_panics :
    ∃ p, tlvCodec.decodePacketErr
        [0x30, 0x0c, 0x02, 0x01, 0x01, 0x60, 0x07, 0x02, 0x01, 0x02, 0x04, 0x00, 0x80, 0x00] = .ok p ∧
      basicValidation p = .ok () ∧
      newRequest tlvCodec presentFilters 1 (some 0) p = .panic "interface conversion: interface is not int64" := by
  -- message ID 1, then a bind op with version 2, an empty name and an empty simple password
  let version : Packet := ⟨.universal, .primitive, TagInteger, .int64 2, [2], []⟩
  let op : Packet := ⟨.application, .constructed, ApplicationBindRequest, .nil, [2, 1, 2, 4, 0, 128, 0],
    [version, ⟨.universal, .primitive, TagOctetString, .string [], [], []⟩, ⟨.context, .primitive, 0, .nil, [], []⟩]⟩
  let p : Packet := ⟨.universal, .constructed, TagSequence, .nil, [2, 1, 1, 96, 7, 2, 1, 2, 4, 0, 128, 0],
    [⟨.universal, .primitive, TagInteger, .int64 1, [1], []⟩, op]⟩
  have hdecode : tlvCodec.decodePacketErr
      [0x30, 0x0c, 0x02, 0x01, 0x01, 0x60, 0x07, 0x02, 0x01, 0x02, 0x04, 0x00, 0x80, 0x00] = .ok p := by
    rfl
  have hvalid : basicValidation p = .ok () := basicValidation_eq_ok.mpr (by decide)
  have happ : assertApplicationRequest p = .ok () := assertApplicationRequest_eq_ok.mpr ⟨op, rfl, rfl, by simp [op]⟩
  have hpanic : requestPacket p = .panic "interface conversion: interface is not int64" :=
    requestPacket_bind_version_panics hvalid happ rfl rfl rfl ⟨rfl, rfl, rfl⟩ rfl (by decide) rfl
  exact ⟨p, hdecode, hvalid, newRequest_panic_of_requestPacket tlvCodec presentFilters 1 0 hpanic⟩

/-- What `newRequest` guarantees of the request it builds: the operation and
the extended name are read off the message, and every bind is a simple bind. -/
structure Request.Consistent (req : Request) : Prop where
  routeOp : req.routeOp = req.message.routeOperation.1
  extendedName : req.extendedName = req.message.routeOperation.2
  simple : ∀ m, req.message = .simpleBind m → m.authChoice = SimpleAuthChoice

theorem newRequest_consistent (codec : Codec) (filters : FilterCodec) {id : Int64}
    {c : Option Nat} {p : Packet} {req : Request} (h : newRequest codec filters id c p = .ok req) :
    req.Consistent := by
  simp only [newRequest] at h
  obtain ⟨conn, rfl⟩ : ∃ conn, c = some conn := by
    cases c with
    | none => simp at h
    | some conn => exact ⟨conn, rfl⟩
  simp only [Outcome.bind_eq_ok] at h
  obtain ⟨m, built, h⟩ := h
  cases h
  have decoded : newMessage codec filters p = .ok m := by
    cases hm : newMessage codec filters p <;> simp_all
  refine ⟨rfl, rfl, fun _ hb => ?_⟩
  subst hb
  exact newMessage_simpleBind codec filters decoded

end Gldap
