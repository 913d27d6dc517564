import Gldap.Control

/-! The request envelope decoder of packet.go.

An LDAPMessage is a universal SEQUENCE whose child 0 is the message ID and
child 1 the application-class protocol op; an optional child 2 is the
context-class controls element. Each parameter reader re-runs
`requestPacket` and then walks the op's children by fixed index, checking
every child it reads with `assert` before it reads it.

`basicValidation` caches its success in the packet wrapper; the check is
pure and the envelope is never changed afterwards, so it is re-run here.
-/

set_option autoImplicit false

namespace Gldap

open Go Ber

/-- messageOptions. -/
structure MessageOptions where
  withMinChildren : Option Nat
  withLenChildren : Option Nat
  withAssertChild : Option Nat
  withTag : Option Nat
  deriving Repr, DecidableEq

def messageDefaults : MessageOptions := ⟨none, none, none, none⟩

def MessageOptions.apply (opts : MessageOptions) : Opt → MessageOptions
  | .withMinChildren min => { opts with withMinChildren := some min }
  | .withLenChildren len => { opts with withLenChildren := some len }
  | .withAssertChild idx => { opts with withAssertChild := some idx }
  | .withTag t => { opts with withTag := some t }
  | _ => opts

def getMessageOpts (opt : List Opt) : MessageOptions :=
  applyOpts MessageOptions.apply messageDefaults opt

/-- The packet `assert` inspects: the asserted child when one is named. -/
def assertedPacket (p : Packet) (opts : MessageOptions) : Outcome GoError Packet :=
  match opts.withAssertChild with
  | none => pure p
  | some idx => do
    if p.children.length < idx + 1 then
      .error (.errorf "%s: missing asserted child %d, but there are only %d"
        [.str (lit "gldap.assert"), .int idx, .int p.children.length])
    Outcome.index p.children idx

/-- The children counts `assert` checks first. -/
def checkChildren (op : GoString) (p : Packet) (opts : MessageOptions) : Outcome GoError Unit := do
  if let some len := opts.withLenChildren then
    if p.children.length ≠ len then
      .error (.errorf "%s: not the correct number of children packets, expected %d but got %d"
        [.str op, .int len, .int p.children.length])
  if let some min := opts.withMinChildren then
    if p.children.length < min then
      .error (.errorf "%s: not enough children packets, expected %d but got %d"
        [.str op, .int min, .int p.children.length])

/-- The class, type and tag checks `assert` makes on the packet it inspects. -/
def checkIdentifier (op : GoString) (chkPacket : Packet) (cl : Ber.Class) (ty : TagType)
    (tag : Option Nat) : Outcome GoError Unit := do
  if chkPacket.classType ≠ cl then
    .error (.errorf "%s: incorrect class, expected %v but got %v"
      [.str op, .int cl.value, .int chkPacket.classType.value])
  if chkPacket.tagType ≠ ty then
    .error (.errorf "%s: incorrect type, expected %v but got %v"
      [.str op, .int ty.value, .int chkPacket.tagType.value])
  if let some tag := tag then
    if chkPacket.tag ≠ tag then
      .error (.errorf "%s: incorrect tag, expected %v but got %v" [.str op, .int tag, .int chkPacket.tag])

/-- `(*packet).assert`. -/
def assert (p : Packet) (cl : Ber.Class) (ty : TagType) (opt : List Opt) : Outcome GoError Unit := do
  let op := lit "gldap.assert"
  let opts := getMessageOpts opt
  checkChildren op p opts
  let chkPacket ← assertedPacket p opts
  checkIdentifier op chkPacket cl ty opts.withTag

theorem assertedPacket_returns (p : Packet) (opts : MessageOptions) :
    (assertedPacket p opts).Returns := by
  unfold assertedPacket
  split
  · trivial
  · rename_i idx _
    by_cases short : p.children.length < idx + 1
    · simp [short, Bind.bind, Outcome.bind]
    · simp only [short, if_false]
      rw [Outcome.index_of_lt (by omega)]
      trivial

theorem assertedPacket_eq_ok {p chk : Packet} {opts : MessageOptions} :
    assertedPacket p opts = .ok chk ↔
      (opts.withAssertChild = none ∧ chk = p) ∨
        ∃ idx, opts.withAssertChild = some idx ∧ p.children[idx]? = some chk := by
  unfold assertedPacket
  split
  · rename_i unset
    simp [unset, eq_comm]
  · rename_i idx set
    by_cases short : p.children.length < idx + 1
    · have missing : p.children[idx]? = none := List.getElem?_eq_none (by omega)
      simp [short, set, missing, Bind.bind, Outcome.bind]
    · have bound : idx < p.children.length := by omega
      simp [short, set, Outcome.index_of_lt bound, List.getElem?_eq_getElem bound, eq_comm]

theorem checkChildren_eq_ok {op : GoString} {p : Packet} {opts : MessageOptions} :
    checkChildren op p opts = .ok () ↔
      (∀ len, opts.withLenChildren = some len → p.children.length = len) ∧
        ∀ min, opts.withMinChildren = some min → min ≤ p.children.length := by
  unfold checkChildren
  rcases opts with ⟨min, len, idx, tag⟩
  cases len <;> cases min <;> simp only [ne_eq, ite_not, reduceCtorEq, Option.some.injEq] <;>
    (try split_ifs) <;> simp_all [Bind.bind, Outcome.bind]

theorem checkChildren_returns (op : GoString) (p : Packet) (opts : MessageOptions) :
    (checkChildren op p opts).Returns := by
  unfold checkChildren
  rcases opts with ⟨min, len, idx, tag⟩
  cases len <;> cases min <;> simp only [ne_eq, ite_not] <;> (try split_ifs) <;>
    simp [Bind.bind, Outcome.bind]

theorem checkIdentifier_eq_ok {op : GoString} {chk : Packet} {cl : Ber.Class} {ty : TagType}
    {tag : Option Nat} :
    checkIdentifier op chk cl ty tag = .ok () ↔
      chk.classType = cl ∧ chk.tagType = ty ∧ ∀ t, tag = some t → chk.tag = t := by
  unfold checkIdentifier
  cases tag <;> split_ifs <;> simp_all [Bind.bind, Outcome.bind]

theorem checkIdentifier_returns (op : GoString) (chk : Packet) (cl : Ber.Class) (ty : TagType)
    (tag : Option Nat) : (checkIdentifier op chk cl ty tag).Returns := by
  unfold checkIdentifier
  cases tag <;> simp only [ne_eq, ite_not] <;> split_ifs <;> simp [Bind.bind, Outcome.bind]

/-- `assert` reports every failed check as an error; it never panics. -/
theorem assert_returns (p : Packet) (cl : Ber.Class) (ty : TagType) (opt : List Opt) :
    (assert p cl ty opt).Returns := by
  unfold assert
  refine Outcome.returns_bind_of (checkChildren_returns _ _ _) fun _ => ?_
  exact Outcome.returns_bind_of (assertedPacket_returns _ _) fun _ => checkIdentifier_returns _ _ _ _ _

theorem assert_eq_ok {p : Packet} {cl : Ber.Class} {ty : TagType} {opt : List Opt} :
    assert p cl ty opt = .ok () ↔
      (∀ len, (getMessageOpts opt).withLenChildren = some len → p.children.length = len) ∧
      (∀ min, (getMessageOpts opt).withMinChildren = some min → min ≤ p.children.length) ∧
      ∃ chk, assertedPacket p (getMessageOpts opt) = .ok chk ∧ chk.classType = cl ∧
        chk.tagType = ty ∧ ∀ t, (getMessageOpts opt).withTag = some t → chk.tag = t := by
  unfold assert
  simp only [Outcome.bind_eq_ok]
  constructor
  · rintro ⟨⟨⟩, counts, chk, found, identifier⟩
    have counts := checkChildren_eq_ok.mp counts
    exact ⟨counts.1, counts.2, chk, found, checkIdentifier_eq_ok.mp identifier⟩
  · rintro ⟨len, min, chk, found, identifier⟩
    exact ⟨(), checkChildren_eq_ok.mpr ⟨len, min⟩, chk, found, checkIdentifier_eq_ok.mpr identifier⟩

/-- The form every parameter reader uses: child `idx` has the class, type and tag. -/
theorem assert_child_eq_ok {p : Packet} {cl : Ber.Class} {ty : TagType} {tag idx : Nat} :
    assert p cl ty [.withTag tag, .withAssertChild idx] = .ok () ↔
      ∃ c, p.children[idx]? = some c ∧ c.classType = cl ∧ c.tagType = ty ∧ c.tag = tag := by
  simp [assert_eq_ok, assertedPacket_eq_ok, getMessageOpts, applyOpts, MessageOptions.apply,
    messageDefaults]

/-- The form that checks the packet itself. -/
theorem assert_self_eq_ok {p : Packet} {cl : Ber.Class} {ty : TagType} {tag : Nat} :
    assert p cl ty [.withTag tag] = .ok () ↔ p.classType = cl ∧ p.tagType = ty ∧ p.tag = tag := by
  simp [assert_eq_ok, assertedPacket_eq_ok, getMessageOpts, applyOpts, MessageOptions.apply,
    messageDefaults]

/-- `(*packet).basicValidation`: a SEQUENCE with at least two children. -/
def basicValidation (p : Packet) : Outcome GoError Unit :=
  (assert p .universal .constructed [.withTag TagSequence, .withMinChildren 2]).mapError fun _ =>
    .wrapf "%s: invalid ldap packet 0: %w" [.str (lit "gldap.(packet).basicValidation")]
      ErrInvalidParameter

/-- `(*packet).requestMessageID`. -/
def requestMessageID (p : Packet) : Outcome GoError Int64 := do
  let op := lit "gldap.(packet).requestMessageID"
  (basicValidation p).mapError (.wrapf "%s: %w" [.str op])
  let msgIDPacket ← Outcome.index p.children 0
  (assert msgIDPacket .universal .primitive [.withTag TagInteger]).mapError
    (.wrapf "%s: missing/invalid packet: %w" [.str op])
  match msgIDPacket.value.toInt64? with
  | some id => pure id
  | none => .error (.wrapf "%s: expected int64 message ID and got %t: %w"
      [.str op, .value msgIDPacket.value] ErrInvalidParameter)

/-- `(*packet).controlPacket`: `none` when there is no third child. -/
def controlPacket (p : Packet) : Outcome GoError (Option Packet) := do
  if p.children.length ≤ 2 then
    return none
  let controlPacket ← Outcome.index p.children 2
  (assert controlPacket .context .constructed []).mapError fun _ =>
    .wrapf "%s: invalid control packet: %w" [.str (lit "gldap.(packet).controlPacket")]
      ErrInvalidParameter
  pure (some controlPacket)

/-- `(*packet).assertApplicationRequest`: an application-class child 1,
constructed unless it is a delete or unbind request. -/
def assertApplicationRequest (p : Packet) : Outcome GoError Unit := do
  let op := lit "gldap.(packet).assertApplicationRequest"
  if p.children.length < 2 then
    .error (.errorf "%s: missing asserted application request child, but there are only %d"
      [.str op, .int p.children.length])
  let chkPacket ← Outcome.index p.children 1
  if chkPacket.classType ≠ .application then
    .error (.errorf "%s: incorrect class, expected %v (ber.ClassApplication) but got %v"
      [.str op, .int Ber.Class.application.value, .int chkPacket.classType.value])
  match chkPacket.tagType with
  | .primitive =>
    if chkPacket.tag ≠ ApplicationDelRequest ∧ chkPacket.tag ≠ ApplicationUnbindRequest then
      .error (.errorf
        "%s: incorrect type, primitive %q must be a delete request %q or an unbind request %q, but got %q"
        [.str op, .int TagType.primitive.value, .int ApplicationDelRequest,
          .int ApplicationUnbindRequest, .int chkPacket.tag])
  | .constructed => pure ()

/-- `(*packet).requestPacket`: the protocol op, after the LDAP version of a
bind request has been checked. -/
def requestPacket (p : Packet) : Outcome GoError Packet := do
  let op := lit "gldap.(packet).requestPacket"
  (basicValidation p).mapError (.wrapf "%s: %w" [.str op])
  (assertApplicationRequest p).mapError (.wrapf "%s: missing request child packet: %w" [.str op])
  let requestPacket ← Outcome.index p.children 1
  if requestPacket.tag = ApplicationBindRequest then
    (assert requestPacket .universal .primitive [.withTag TagInteger, .withAssertChild 0]).mapError
      (.wrapf "%s: missing/invalid packet: %w" [.str op])
    let versionPacket ← Outcome.index requestPacket.children 0
    match versionPacket.value.toInt64? with
    | none => .error (.wrapf "%s: %v is not the expected int64 type: %w"
        [.str op, .value versionPacket.value] ErrInvalidParameter)
    | some ldapVersion =>
      if ldapVersion ≠ 3 then do
        -- the message reads the version from the op packet itself, not its child 0
        let got ← requestPacket.value.assertInt64
        .error (.errorf "%s: incorrect ldap version, expected 3 but got %v"
          [.str op, .value (.int64 got)])
  Outcome.index p.children 1

/-- The request types of message.go. -/
inductive RequestType where
  | unknown
  | bind
  | search
  | extended
  | modify
  | add
  | delete
  | unbind
  deriving Repr, DecidableEq

/-- `(*packet).requestType`: every op tag outside the seven is an error. -/
def requestType (p : Packet) : Outcome GoError RequestType := do
  let op := lit "gldap.(Packet).requestType"
  let requestPacket ← (requestPacket p).mapError (.wrapf "%s: %w" [.str op])
  if requestPacket.tag = ApplicationBindRequest then pure .bind
  else if requestPacket.tag = ApplicationSearchRequest then pure .search
  else if requestPacket.tag = ApplicationExtendedRequest then pure .extended
  else if requestPacket.tag = ApplicationModifyRequest then pure .modify
  else if requestPacket.tag = ApplicationAddRequest then pure .add
  else if requestPacket.tag = ApplicationDelRequest then pure .delete
  else if requestPacket.tag = ApplicationUnbindRequest then pure .unbind
  else .error (.wrapf "%s: unhandled request type %d: %w" [.str op, .int requestPacket.tag]
    ErrInternal)

/-! ### The envelope checks -/

theorem basicValidation_eq_ok {p : Packet} :
    basicValidation p = .ok () ↔
      p.classType = .universal ∧ p.tagType = .constructed ∧ p.tag = TagSequence ∧
        2 ≤ p.children.length := by
  rw [basicValidation, Outcome.mapError_eq_ok, assert_eq_ok]
  simp only [getMessageOpts, applyOpts, List.foldl, MessageOptions.apply, messageDefaults,
    assertedPacket_eq_ok]
  simp
  tauto

theorem assertApplicationRequest_eq_ok {p : Packet} :
    assertApplicationRequest p = .ok () ↔
      ∃ op, p.children[1]? = some op ∧ op.classType = .application ∧
        (op.tagType = .primitive → op.tag = ApplicationDelRequest ∨ op.tag = ApplicationUnbindRequest) := by
  unfold assertApplicationRequest
  -- too few children, then the class and the form of child 1
  rcases p with ⟨cl, ty, tag, value, data, _ | ⟨msgID, _ | ⟨op, rest⟩⟩⟩
  · simp [Bind.bind, Outcome.bind]
  · simp [Bind.bind, Outcome.bind]
  · have enough : ¬(rest.length + 1 + 1 < 2) := by omega
    simp only [List.length_cons, enough, Outcome.index, List.getElem?_cons_succ,
      List.getElem?_cons_zero]
    cases hcl : op.classType <;> cases hty : op.tagType <;> simp [hcl, hty, Bind.bind, Outcome.bind]
    -- a primitive op: only a delete or an unbind request passes
    tauto

/-- The op packet of an envelope that passes both checks, when it is not a
bind request. -/
theorem requestPacket_eq_ok {p op : Packet} (hvalid : basicValidation p = .ok ())
    (happ : assertApplicationRequest p = .ok ()) (hop : p.children[1]? = some op)
    (hbind : op.tag ≠ ApplicationBindRequest) : requestPacket p = .ok op := by
  obtain ⟨hlen, hget⟩ := List.getElem?_eq_some_iff.mp hop
  simp [requestPacket, hvalid, happ, Outcome.index, hlen, hget, hbind]

/-- A bind request whose version child holds an int64 other than 3 reaches the
error message, which asserts the op's own value to be an int64: the decoder
gives an application-class op no value, so this is a panic. -/
theorem requestPacket_bind_version_panics {p op version : Packet} {ldapVersion : Int64}
    (hvalid : basicValidation p = .ok ()) (happ : assertApplicationRequest p = .ok ())
    (hop : p.children[1]? = some op) (hbind : op.tag = ApplicationBindRequest)
    (hversion : op.children[0]? = some version) (hinteger : version.classType = .universal ∧
      version.tagType = .primitive ∧ version.tag = TagInteger)
    (hvalue : version.value = .int64 ldapVersion) (hv3 : ldapVersion ≠ 3) (hnil : op.value = .nil) :
    requestPacket p = .panic "interface conversion: interface is not int64" := by
  have hchild : assert op .universal .primitive [.withTag TagInteger, .withAssertChild 0] = .ok () :=
    assert_child_eq_ok.mpr ⟨version, hversion, hinteger⟩
  obtain ⟨hlen, hget⟩ := List.getElem?_eq_some_iff.mp hop
  simp [requestPacket, hvalid, happ, Outcome.index, hlen, hget, hbind, hchild, hversion, hvalue, hv3,
    hnil, GoValue.assertInt64, GoValue.toInt64?]

/-- `PartialAttribute` of modify.go. -/
structure PartialAttribute where
  type : GoString
  vals : List GoString
  deriving Repr, DecidableEq

/-- `Change` of modify.go. -/
structure Change where
  operation : Int64
  modification : PartialAttribute
  deriving Repr, DecidableEq

/-- The change operations of modify.go that the modelled code tells apart. -/
def AddAttribute : Int64 := 0
def DeleteAttribute : Int64 := 1
def ReplaceAttribute : Int64 := 2

/-- `Attribute` of add.go. -/
structure Attribute where
  type : GoString
  vals : List GoString
  deriving Repr, DecidableEq

structure ModifyParameters where
  dn : GoString
  changes : List Change
  controls : List Control
  deriving Repr, DecidableEq

structure AddParameters where
  dn : GoString
  attributes : List Attribute
  controls : List Control
  deriving Repr, DecidableEq

structure SearchParameters where
  baseDN : GoString
  scope : Int64
  derefAliases : Int64
  sizeLimit : Int64
  timeLimit : Int64
  typesOnly : Bool
  filter : GoString
  attributes : List GoString
  controls : List Control
  deriving Repr, DecidableEq

/-- go-ldap's filter compiler, which the search decoder and the test encoder call. -/
structure FilterCodec where
  /-- `ldap.CompileFilter`. -/
  CompileFilter : GoString → Except GoError Packet
  /-- `ldap.DecompileFilter`. -/
  DecompileFilter : Packet → Except GoError GoString

/-- The present filters `(attr=*)` only, as go-ldap compiles and decompiles
them: a context-specific primitive [7] holding the attribute. Every other
filter is refused. It instantiates `FilterCodec` in closed instances. -/
def presentFilters : FilterCodec where
  CompileFilter f :=
    if f.take 1 = lit "(" ∧ f.drop (f.length - 3) = lit "=*)" ∧ 4 ≤ f.length then
      let attr := (f.drop 1).take (f.length - 4)
      .ok ⟨.context, .primitive, 7, .string attr, attr, []⟩
    else .error (.new "unsupported filter")
  DecompileFilter p :=
    if p.classType = .context ∧ p.tag = 7 then .ok (lit "(" ++ p.data ++ lit "=*)")
    else .error (.new "unsupported filter")

/-- Check a child with `assert` and report any failure as `invalid parameter`
under the given message. -/
def assertChild (op : GoString) (message : String) (p : Packet) (cl : Ber.Class) (ty : TagType)
    (opt : List Opt) : Outcome GoError Unit :=
  (assert p cl ty opt).mapError fun _ => .wrapf message [.str op] ErrInvalidParameter

theorem assertChild_of_assert {op : GoString} {message : String} {p : Packet} {cl : Ber.Class}
    {ty : TagType} {opt : List Opt} (h : assert p cl ty opt = .ok ()) :
    assertChild op message p cl ty opt = .ok () := by
  rw [assertChild, h, Outcome.mapError_ok]

/-- The `Data` of the `idx`-th child of `p`, read as a string. -/
def childData (p : Packet) (idx : Nat) : Outcome GoError GoString := do
  let child ← Outcome.index p.children idx
  pure child.data

section Codecs

variable (codec : Codec) (filters : FilterCodec)

/-- The controls loop each parameter reader ends with: nothing without a
controls element, else every child decoded in order. -/
def decodeControls (op : GoString) (p : Packet) : Outcome GoError (List Control) := do
  let controlPacket ← (controlPacket p).mapError (.wrapf "%s: %w" [.str op])
  match controlPacket with
  | none => pure []
  | some controlPacket =>
    (controlPacket.children.mapM (decodeControl codec)).mapError (.wrapf "%s: %w" [.str op])

/-- The body of the loop over the changes of a modify request. -/
def modifyChange (op : GoString) (c : Packet) : Outcome GoError Change := do
  assertChild op "%s: modify changes child packet: %w" c .universal .constructed
    [.withTag TagSequence]
  assertChild op "%s: modify changes child operation packet: %w" c .universal .primitive
    [.withTag TagEnumerated, .withAssertChild 0]
  let operationPacket ← Outcome.index c.children 0
  let operation ← match operationPacket.value.toInt64? with
    | some n => pure n
    | none => .error (.errorf "%s: change operation is not an int64: %t"
        [.str op, .value operationPacket.value])
  assertChild op "%s: change modification child packet: %w" c .universal .constructed
    [.withTag TagSequence, .withAssertChild 1]
  let modificationPacket ← Outcome.index c.children 1
  assertChild op "%s: modification type packet: %w" modificationPacket .universal .primitive
    [.withTag TagOctetString, .withAssertChild 0]
  let type ← childData modificationPacket 0
  if modificationPacket.children.length < 2 then
    .error (.wrapf "%s: missing modification values packet: %w" [.str op] ErrInvalidParameter)
  -- the values are the raw content octets of every child after the type
  let vals := (modificationPacket.children.drop 1).map Packet.data
  pure { operation := operation, modification := { type := type, vals := vals } }

/-- `(*packet).modifyParameters`. -/
def modifyParameters (p : Packet) : Outcome GoError ModifyParameters := do
  let op := lit "gldap.(packet).modifyParameters"
  let requestPacket ← (requestPacket p).mapError (.wrapf "%s: %w" [.str op])
  if requestPacket.tag ≠ ApplicationModifyRequest then
    .error (.wrapf "%s: not an modify request, expected tag %d and got %d: %w"
      [.str op, .int ApplicationModifyRequest, .int requestPacket.tag] ErrInvalidParameter)
  assertChild op "%s: modify dn packet: %w" requestPacket .universal .primitive
    [.withTag TagOctetString, .withAssertChild 0]
  let dn ← childData requestPacket 0
  assertChild op "%s: modify changes packet: %w" requestPacket .universal .constructed
    [.withTag TagSequence, .withAssertChild 1]
  let changesPacket ← Outcome.index requestPacket.children 1
  let changes ← changesPacket.children.mapM (modifyChange op)
  let controls ← decodeControls codec op p
  pure { dn := dn, changes := changes, controls := controls }

/-- `(*packet).extendedOperationName`. -/
def extendedOperationName (p : Packet) : Outcome GoError GoString := do
  -- the source reuses the bind reader's operation name here
  let op := lit "gldap.(Packet).simpleBindParameters"
  let requestPacket ← (requestPacket p).mapError (.wrapf "%s: %w" [.str op])
  if requestPacket.tag ≠ ApplicationExtendedRequest then
    .error (.wrapf "%s: not an extended operation request, expected tag %d and got %d: %w"
      [.str op, .int ApplicationExtendedRequest, .int requestPacket.tag] ErrInvalidParameter)
  assertChild op "%s: missing/invalid username packet: %w" requestPacket .context .primitive
    [.withTag 0, .withAssertChild 0]
  childData requestPacket 0

/-- `(*packet).simpleBindParameters`: user name, password and controls. A bind
op of more than three children returns after the user name. -/
def simpleBindParameters (p : Packet) : Outcome GoError (GoString × GoString × List Control) := do
  let op := lit "gldap.(Packet).simpleBindParameters"
  let requestPacket ← (requestPacket p).mapError (.wrapf "%s: %w" [.str op])
  assertChild op "%s: missing/invalid username packet: %w" requestPacket .universal .primitive
    [.withTag TagOctetString, .withAssertChild 1]
  let userName ← childData requestPacket 1
  if requestPacket.children.length > 3 then
    return (userName, [], [])
  assertChild op "%s: missing/invalid password packet: %w" requestPacket .context .primitive
    [.withTag 0, .withAssertChild 2]
  let password ← childData requestPacket 2
  let controls ← decodeControls codec op p
  pure (userName, password, controls)

/-- The loop of `decodeAttribute` and `searchParmeters` over the children of a
SET or SEQUENCE: each is asserted to be an OCTET STRING, then read. -/
def readStringChildren (wrap : GoError → GoError) (p : Packet) : Outcome GoError (List GoString) :=
  (List.range p.children.length).mapM fun idx => do
    (assert p .universal .primitive [.withTag TagOctetString, .withAssertChild idx]).mapError wrap
    childData p idx

/-- `decodeAttribute` of add.go: a SEQUENCE of a type and a SET of strings. -/
def decodeAttribute (berPacket : Packet) : Outcome GoError Attribute := do
  let op := lit "gldap.decodeAttribute"
  assertChild op "%s: missing/invalid attributes ber packet: %w" berPacket .universal .constructed
    [.withTag TagSequence]
  assertChild op "%s: missing/invalid attributes type: %w" berPacket .universal .primitive
    [.withTag TagOctetString, .withAssertChild 0]
  let type ← childData berPacket 0
  assertChild op "%s: missing/invalid attributes values: %w" berPacket .universal .constructed
    [.withTag TagSet, .withAssertChild 1]
  let valuesPacket ← Outcome.index berPacket.children 1
  let vals ← readStringChildren (.wrapf "%s: invalid attribute values packet: %w" [.str op]) valuesPacket
  pure { type := type, vals := vals }

/-- `(*packet).addParameters`. -/
def addParameters (p : Packet) : Outcome GoError AddParameters := do
  let op := lit "gldap.(Packet).addParameters"
  let requestPacket ← (requestPacket p).mapError (.wrapf "%s: %w" [.str op])
  if requestPacket.tag ≠ ApplicationAddRequest then
    .error (.wrapf "%s: not an add request, expected tag %d and got %d: %w"
      [.str op, .int ApplicationAddRequest, .int requestPacket.tag] ErrInvalidParameter)
  assertChild op "%s: missing/invalid DN: %w" requestPacket .universal .primitive
    [.withTag TagOctetString, .withAssertChild 0]
  let dn ← childData requestPacket 0
  assertChild op "%s: missing/invalid attributes: %w" requestPacket .universal .constructed
    [.withTag TagSequence, .withAssertChild 1]
  let attributesPackets ← Outcome.index requestPacket.children 1
  let attributes ← attributesPackets.children.mapM fun attributePacket =>
    (decodeAttribute attributePacket).mapError (.wrapf "%s: failed to decode attribute packet: %w" [.str op])
  let controls ← decodeControls codec op p
  pure { dn := dn, attributes := attributes, controls := controls }

/-- One integer field of a search request: the child is asserted, then its
value read with a comma-ok assertion. -/
def searchInt64 (op : GoString) (requestPacket : Packet) (idx tag : Nat)
    (missing notInt64 : String) : Outcome GoError Int64 := do
  assertChild op missing requestPacket .universal .primitive [.withTag tag, .withAssertChild idx]
  let child ← Outcome.index requestPacket.children idx
  match child.value.toInt64? with
  | some n => pure n
  | none => .error (.errorf notInt64 [.str op])

/-- `(*packet).searchParmeters`. Without an attributes child it returns before
reading the controls. -/
def searchParmeters (p : Packet) : Outcome GoError SearchParameters := do
  let op := lit "gldap.(Packet).searchParmeters"
  let requestPacket ← (requestPacket p).mapError (.wrapf "%s: %w" [.str op])
  if requestPacket.tag ≠ ApplicationSearchRequest then
    .error (.wrapf "%s: not an search request, expected tag %d and got %d: %w"
      [.str op, .int ApplicationSearchRequest, .int requestPacket.tag] ErrInvalidParameter)
  assertChild op "%s: missing/invalid baseDN: %w" requestPacket .universal .primitive
    [.withTag TagOctetString, .withAssertChild 0]
  let baseDN ← childData requestPacket 0
  let scope ← searchInt64 op requestPacket 1 TagEnumerated "%s: missing/invalid scope: %w"
    "%s: scope is not an int64"
  let derefAliases ← searchInt64 op requestPacket 2 TagEnumerated
    "%s: missing/invalid deref aliases: %w" "%s: deref aliases is not an int64"
  let sizeLimit ← searchInt64 op requestPacket 3 TagInteger "%s: missing/invalid size limit: %w"
    "%s: size limit is not an int64"
  let timeLimit ← searchInt64 op requestPacket 4 TagInteger "%s: missing/invalid time limit: %w"
    "%s: time limit is not an int64"
  assertChild op "%s: missing/invalid types only: %w" requestPacket .universal .primitive
    [.withTag TagBoolean, .withAssertChild 5]
  let typesOnlyPacket ← Outcome.index requestPacket.children 5
  let typesOnly ← match typesOnlyPacket.value.toBool? with
    | some b => pure b
    | none => .error (.errorf "%s: types only is not a bool" [.str op])
  if requestPacket.children.length < 7 then
    .error (.wrapf "%s: missing filter: %w" [.str op] ErrInvalidParameter)
  let filterPacket ← Outcome.index requestPacket.children 6
  let filter ← Outcome.ofExcept (.wrapf "%s: unable to decompile filter: %w" [.str op])
    (filters.DecompileFilter filterPacket)
  let found : SearchParameters :=
    ⟨baseDN, scope, derefAliases, sizeLimit, timeLimit, typesOnly, filter, [], []⟩
  if requestPacket.children.length < 8 then
    return found
  (assert requestPacket .universal .constructed [.withTag TagSequence, .withAssertChild 7]).mapError
    (.wrapf "%s: invalid attributes: %w" [.str op])
  let attributesPacket ← Outcome.index requestPacket.children 7
  let attributes ← readStringChildren (.wrapf "%s: invalid attribute child packet: %w" [.str op])
    attributesPacket
  let controls ← decodeControls codec op p
  pure { found with attributes := attributes, controls := controls }

/-- `(*packet).deleteParameters`: the DN is the op packet's own content octets. -/
def deleteParameters (p : Packet) : Outcome GoError (GoString × List Control) := do
  let op := lit "gldap.(packet).deleteDN"
  let requestPacket ← (requestPacket p).mapError (.wrapf "%s: %w" [.str op])
  if requestPacket.tag ≠ ApplicationDelRequest then
    .error (.wrapf "%s: not a delete request, expected tag %d and got %d: %w"
      [.str op, .int ApplicationDelRequest, .int requestPacket.tag] ErrInvalidParameter)
  let controls ← decodeControls codec op p
  pure (requestPacket.data, controls)

end Codecs

end Gldap
