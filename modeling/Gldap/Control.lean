import Gldap.Codes
import Gldap.Go.Strconv

/-! LDAP controls: the nine control types of control.go, their encoders, their
constructors and `decodeControl`.

`Control` is an interface in the source; the decoder only ever builds the
package's own types, so it is modelled as their sum. `decodeControl` reads a
control sequence of one to three children: the type, then a criticality
and a value that are both optional. With two children it duck-types on
whether the second one holds a bool. The paging and password policy values
are nested sequences, re-read from the octet string's content when the
packet came off the wire.
-/

set_option autoImplicit false

namespace Gldap

open Go Ber

def ControlTypePaging : GoString := lit "1.2.840.113556.1.4.319"
def ControlTypeBeheraPasswordPolicy : GoString := lit "1.3.6.1.4.1.42.2.27.8.5.1"
def ControlTypeVChuPasswordMustChange : GoString := lit "2.16.840.1.113730.3.4.4"
def ControlTypeVChuPasswordWarning : GoString := lit "2.16.840.1.113730.3.4.5"
def ControlTypeManageDsaIT : GoString := lit "2.16.840.1.113730.3.4.2"
def ControlTypeMicrosoftNotification : GoString := lit "1.2.840.113556.1.4.528"
def ControlTypeMicrosoftShowDeleted : GoString := lit "1.2.840.113556.1.4.417"
def ControlTypeMicrosoftServerLinkTTL : GoString := lit "1.2.840.113556.1.4.2309"

/-- `BeheraPasswordPolicyErrorMap`; a missing key reads as the empty string. -/
def BeheraPasswordPolicyErrorMap (code : Int8) : GoString :=
  match code.toInt with
  | 0 => lit "Password expired"
  | 1 => lit "Account locked"
  | 2 => lit "Password must be changed"
  | 3 => lit "Policy prevents password modification"
  | 4 => lit "Policy requires old password in order to change password"
  | 5 => lit "Password fails quality checks"
  | 6 => lit "Password is too short for policy"
  | 7 => lit "Password has been changed too recently"
  | 8 => lit "New password is in list of old passwords"
  | _ => []

structure ControlString where
  controlType : GoString
  criticality : Bool
  controlValue : GoString
  deriving Repr, DecidableEq

structure ControlManageDsaIT where
  criticality : Bool
  deriving Repr, DecidableEq

structure ControlBeheraPasswordPolicy where
  expire : Int64
  grace : Int64
  error : Int8
  errorString : GoString
  deriving Repr, DecidableEq

structure ControlVChuPasswordMustChange where
  mustChange : Bool
  deriving Repr, DecidableEq

structure ControlVChuPasswordWarning where
  expire : Int64
  deriving Repr, DecidableEq

structure ControlPaging where
  pagingSize : UInt32
  cookie : GoString
  deriving Repr, DecidableEq

/-- The source's `Control` interface, over the types the package defines. -/
inductive Control where
  | string (c : ControlString)
  | manageDsaIT (c : ControlManageDsaIT)
  | microsoftNotification
  | microsoftServerLinkTTL
  | microsoftShowDeleted
  | beheraPasswordPolicy (c : ControlBeheraPasswordPolicy)
  | vChuPasswordMustChange (c : ControlVChuPasswordMustChange)
  | vChuPasswordWarning (c : ControlVChuPasswordWarning)
  | paging (c : ControlPaging)
  deriving Repr, DecidableEq

/-- `GetControlType` of each control type. -/
def Control.GetControlType : Control → GoString
  | string c => c.controlType
  | manageDsaIT _ => ControlTypeManageDsaIT
  | microsoftNotification => ControlTypeMicrosoftNotification
  | microsoftServerLinkTTL => ControlTypeMicrosoftServerLinkTTL
  | microsoftShowDeleted => ControlTypeMicrosoftShowDeleted
  | beheraPasswordPolicy _ => ControlTypeBeheraPasswordPolicy
  | vChuPasswordMustChange _ => ControlTypeVChuPasswordMustChange
  | vChuPasswordWarning _ => ControlTypeVChuPasswordWarning
  | paging _ => ControlTypePaging

/-- controlOptions; Go's `int` is 64 bits wide. -/
structure ControlOptions where
  withGrace : Int64
  withExpire : Int64
  withErrorCode : Int64
  withCriticality : Bool
  withControlValue : GoString
  deriving Repr, DecidableEq

def controlDefaults : ControlOptions :=
  { withGrace := -1, withExpire := -1, withErrorCode := -1, withCriticality := false,
    withControlValue := [] }

/-- The control options; `int(remaining)` reinterprets the `uint` bits. -/
def ControlOptions.apply (opts : ControlOptions) : Opt → ControlOptions
  | .withGraceAuthNsRemaining remaining => { opts with withGrace := remaining.toInt64 }
  | .withSecondsBeforeExpiration seconds => { opts with withExpire := seconds.toInt64 }
  | .withErrorCode code => { opts with withErrorCode := code.toInt64 }
  | .withCriticality criticality => { opts with withCriticality := criticality }
  | .withControlValue value => { opts with withControlValue := value }
  | _ => opts

def getControlOpts (opt : List Opt) : ControlOptions :=
  applyOpts ControlOptions.apply controlDefaults opt

/-- `NewControlString`. -/
def NewControlString (controlType : GoString) (opt : List Opt) : Except GoError ControlString :=
  if controlType = [] then
    .error (.wrapf "%s: missing control type: %w" [.str (lit "gldap.NewControlString")]
      ErrInvalidParameter)
  else
    let opts := getControlOpts opt
    .ok { controlType := controlType, criticality := opts.withCriticality,
          controlValue := opts.withControlValue }

/-- `NewControlManageDsaIT`. -/
def NewControlManageDsaIT (opt : List Opt) : ControlManageDsaIT :=
  { criticality := (getControlOpts opt).withCriticality }

/-- `NewControlPaging`. -/
def NewControlPaging (pagingSize : UInt32) : ControlPaging :=
  { pagingSize := pagingSize, cookie := [] }

/-- `NewControlBeheraPasswordPolicy`: at most one of grace, expire and error
may be set, and an error code is at most 8. -/
def NewControlBeheraPasswordPolicy (opt : List Opt) : Except GoError ControlBeheraPasswordPolicy :=
  let op := lit "NewControlBeheraPolicy"
  let opts := getControlOpts opt
  if opts.withGrace ≠ -1 ∧ opts.withExpire ≠ -1 then
    .error (.wrapf "%s: behera policies cannot have both grace and expire set: %w" [.str op]
      ErrInvalidParameter)
  else if opts.withGrace ≠ -1 ∧ opts.withErrorCode ≠ -1 then
    .error (.wrapf "%s: behera policies cannot have both grace and error codes set: %w" [.str op]
      ErrInvalidParameter)
  else if opts.withExpire ≠ -1 ∧ opts.withErrorCode ≠ -1 then
    .error (.wrapf "%s: behera polices cannot have both expire and error codes set: %w" [.str op]
      ErrInvalidParameter)
  else if opts.withErrorCode > 8 then
    .error (.wrapf "%s: %d is not a valid behera policy error code (must be between 0-8: %w"
      [.str op, .int opts.withErrorCode.toInt] ErrInvalidParameter)
  else
    .ok { expire := opts.withExpire, grace := opts.withGrace, error := opts.withErrorCode.toInt8,
          errorString := if opts.withErrorCode ≠ -1 then
            BeheraPasswordPolicyErrorMap opts.withErrorCode.toInt8 else [] }

/-- A policy the constructor returns passed every check and holds the
options' numbers, the error code cut to an `int8`. -/
theorem NewControlBeheraPasswordPolicy_eq_ok {opt : List Opt} {c : ControlBeheraPasswordPolicy}
    (hc : NewControlBeheraPasswordPolicy opt = .ok c) :
    ((getControlOpts opt).withGrace ≠ -1 →
        (getControlOpts opt).withExpire = -1 ∧ (getControlOpts opt).withErrorCode = -1) ∧
      ((getControlOpts opt).withExpire ≠ -1 → (getControlOpts opt).withErrorCode = -1) ∧
      ¬((getControlOpts opt).withErrorCode > 8) ∧
      c = { expire := (getControlOpts opt).withExpire, grace := (getControlOpts opt).withGrace,
            error := (getControlOpts opt).withErrorCode.toInt8,
            errorString := if (getControlOpts opt).withErrorCode ≠ -1 then
              BeheraPasswordPolicyErrorMap (getControlOpts opt).withErrorCode.toInt8 else [] } := by
  unfold NewControlBeheraPasswordPolicy at hc
  dsimp only at hc
  -- every check passed, or the constructor would have returned its error
  have hge : ¬((getControlOpts opt).withGrace ≠ -1 ∧ (getControlOpts opt).withExpire ≠ -1) :=
    fun h => by rw [if_pos h] at hc; cases hc
  have hgk : ¬((getControlOpts opt).withGrace ≠ -1 ∧ (getControlOpts opt).withErrorCode ≠ -1) :=
    fun h => by rw [if_neg hge, if_pos h] at hc; cases hc
  have hek : ¬((getControlOpts opt).withExpire ≠ -1 ∧ (getControlOpts opt).withErrorCode ≠ -1) :=
    fun h => by rw [if_neg hge, if_neg hgk, if_pos h] at hc; cases hc
  have hrange : ¬((getControlOpts opt).withErrorCode > 8) :=
    fun h => by rw [if_neg hge, if_neg hgk, if_neg hek, if_pos h] at hc; cases hc
  rw [if_neg hge, if_neg hgk, if_neg hek, if_neg hrange] at hc
  simp only [ne_eq, not_and, not_not] at hge hgk hek
  exact ⟨fun h => ⟨hge h, hgk h⟩, hek, hrange, (Except.ok.inj hc).symm⟩

/-- `Grace`, `Expire` and `ErrorCode`: the fields as an `int`, which is 64
bits wide. -/
def ControlBeheraPasswordPolicy.Grace (c : ControlBeheraPasswordPolicy) : Int64 := c.grace

def ControlBeheraPasswordPolicy.Expire (c : ControlBeheraPasswordPolicy) : Int64 := c.expire

def ControlBeheraPasswordPolicy.ErrorCode (c : ControlBeheraPasswordPolicy) : Int64 × GoString :=
  (c.error.toInt64, c.errorString)

/-! ### Policies from options whose values an `int` holds -/

/-- An option whose `uint` is below `2 ^ 63`, which `int(...)` keeps as it is. -/
def Opt.UintFits : Opt → Prop
  | .withGraceAuthNsRemaining remaining => remaining.toNat < 2 ^ 63
  | .withSecondsBeforeExpiration seconds => seconds.toNat < 2 ^ 63
  | .withErrorCode code => code.toNat < 2 ^ 63
  | _ => True

/-- Each of the three numbers is the `-1` of `controlDefaults` or a count. -/
def ControlOptions.Sentinel (opts : ControlOptions) : Prop :=
  (opts.withGrace = -1 ∨ 0 ≤ opts.withGrace) ∧ (opts.withExpire = -1 ∨ 0 ≤ opts.withExpire) ∧
    (opts.withErrorCode = -1 ∨ 0 ≤ opts.withErrorCode)

theorem toInt64_toInt_of_lt {v : UInt64} (h : v.toNat < 2 ^ 63) : v.toInt64.toInt = v.toNat := by
  have hv : v.toInt64.toInt = v.toBitVec.toInt := rfl
  rw [hv, BitVec.toInt_eq_toNat_bmod, Int.bmod]
  simp only [UInt64.toNat_toBitVec]
  split <;> omega

theorem toInt64_nonneg {v : UInt64} (h : v.toNat < 2 ^ 63) : 0 ≤ v.toInt64 := by
  rw [Int64.le_iff_toInt_le, toInt64_toInt_of_lt h]
  simp

theorem ControlOptions.apply_sentinel {opts : ControlOptions} {o : Opt} (hopts : opts.Sentinel)
    (ho : o.UintFits) : (opts.apply o).Sentinel := by
  obtain ⟨hgrace, hexpire, herror⟩ := hopts
  -- the three numeric options set one number each, to a count; the others set none
  cases o with
  | withGraceAuthNsRemaining remaining => exact ⟨.inr (toInt64_nonneg ho), hexpire, herror⟩
  | withSecondsBeforeExpiration seconds => exact ⟨hgrace, .inr (toInt64_nonneg ho), herror⟩
  | withErrorCode code => exact ⟨hgrace, hexpire, .inr (toInt64_nonneg ho)⟩
  | _ => exact ⟨hgrace, hexpire, herror⟩

/-- With every `uint` option in range, the options keep the sentinel. -/
theorem getControlOpts_sentinel {opt : List Opt} (hopt : ∀ o ∈ opt, o.UintFits) :
    (getControlOpts opt).Sentinel :=
  applyOpts_invariant ControlOptions.Sentinel ⟨.inl rfl, .inl rfl, .inl rfl⟩
    fun _ o member _ hs => ControlOptions.apply_sentinel hs (hopt o member)

/-- The options a caller passes for a password policy, each at most once. -/
def beheraOptions (grace expire code : Option UInt64) : List Opt :=
  grace.toList.map .withGraceAuthNsRemaining ++ expire.toList.map .withSecondsBeforeExpiration ++
    code.toList.map .withErrorCode

theorem getControlOpts_beheraOptions (grace expire code : Option UInt64) :
    getControlOpts (beheraOptions grace expire code) =
      { controlDefaults with
        withGrace := grace.elim (-1) UInt64.toInt64, withExpire := expire.elim (-1) UInt64.toInt64,
        withErrorCode := code.elim (-1) UInt64.toInt64 } := by
  cases grace <;> cases expire <;> cases code <;> rfl

theorem toInt64_ne_neg_one {v : UInt64} (h : v.toNat < 2 ^ 63) : v.toInt64 ≠ -1 := fun heq => by
  have htoInt := toInt64_toInt_of_lt h
  rw [heq] at htoInt
  simp at htoInt

theorem toInt64_gt_eight_iff {v : UInt64} (h : v.toNat < 2 ^ 63) : v.toInt64 > 8 ↔ 8 < v.toNat := by
  rw [gt_iff_lt, Int64.lt_iff_toInt_lt, toInt64_toInt_of_lt h]
  simp

/-- With values an `int` holds, the constructor fails exactly when two of the
options are passed or the error code is above 8, and otherwise keeps every
value passed and `-1` for the others. -/
theorem NewControlBeheraPasswordPolicy_beheraOptions (grace expire code : Option UInt64)
    (hrange : ∀ v ∈ grace.toList ++ expire.toList ++ code.toList, v.toNat < 2 ^ 63) :
    (NewControlBeheraPasswordPolicy (beheraOptions grace expire code)).toOption =
      if 2 ≤ [grace, expire, code].countP Option.isSome ∨ ∃ k ∈ code, 8 < k.toNat then none
      else some
        { expire := expire.elim (-1) UInt64.toInt64, grace := grace.elim (-1) UInt64.toInt64,
          error := code.elim (-1) fun k => k.toInt64.toInt8,
          errorString := code.elim [] fun k => BeheraPasswordPolicyErrorMap k.toInt64.toInt8 } := by
  unfold NewControlBeheraPasswordPolicy
  rw [getControlOpts_beheraOptions]
  -- which options are passed decides the branch; a passed value is never the sentinel
  cases grace <;> cases expire <;> cases code <;>
    simp_all [toInt64_ne_neg_one, toInt64_gt_eight_iff, Except.toOption]
  -- only the error code is passed, and its range check decides
  rename_i code
  by_cases hcode : 8 < code.toNat <;> simp [hcode]

/-- From `2 ^ 63` on a `uint` wraps to a negative `int`: `2 ^ 64 - 1` is the
sentinel, so an error code above 8 or a second option goes unnoticed, and
`2 ^ 63 + 100` passes the range check and is error code 100 in the `int8`. -/
theorem behera_policy_large_uint_options :
    NewControlBeheraPasswordPolicy [.withErrorCode 0xFFFFFFFFFFFFFFFF] = .ok ⟨-1, -1, -1, []⟩ ∧
    NewControlBeheraPasswordPolicy [.withGraceAuthNsRemaining 0xFFFFFFFFFFFFFFFF,
      .withSecondsBeforeExpiration 5] = .ok ⟨5, -1, -1, []⟩ ∧
    NewControlBeheraPasswordPolicy [.withErrorCode 0x8000000000000064] = .ok ⟨-1, -1, 100, []⟩ :=
  ⟨rfl, rfl, rfl⟩

section Codec

variable (codec : Codec)

/-- The warning or error sequence of a password policy value. -/
def beheraValue (inner : Packet) : Packet :=
  let sequencePacket := (Ber.Encode .universal .constructed TagSequence).AppendChild codec inner
  (Ber.Encode .universal .primitive TagOctetString).AppendChild codec sequencePacket

/-- `Encode` of each control type. -/
def Control.Encode : Control → Packet
  | string c =>
    let packet := (Ber.Encode .universal .constructed TagSequence).AppendChild codec
      (NewString .universal .primitive TagOctetString c.controlType)
    let packet := if c.criticality then
      packet.AppendChild codec (NewBoolean codec .universal .primitive TagBoolean c.criticality)
      else packet
    if c.controlValue ≠ [] then
      packet.AppendChild codec (NewString .universal .primitive TagOctetString c.controlValue)
      else packet
  | manageDsaIT c =>
    let packet := (Ber.Encode .universal .constructed TagSequence).AppendChild codec
      (NewString .universal .primitive TagOctetString ControlTypeManageDsaIT)
    if c.criticality then
      packet.AppendChild codec (NewBoolean codec .universal .primitive TagBoolean c.criticality)
      else packet
  | microsoftNotification =>
    (Ber.Encode .universal .constructed TagSequence).AppendChild codec
      (NewString .universal .primitive TagOctetString ControlTypeMicrosoftNotification)
  | microsoftServerLinkTTL =>
    (Ber.Encode .universal .constructed TagSequence).AppendChild codec
      (NewString .universal .primitive TagOctetString ControlTypeMicrosoftServerLinkTTL)
  | microsoftShowDeleted =>
    (Ber.Encode .universal .constructed TagSequence).AppendChild codec
      (NewString .universal .primitive TagOctetString ControlTypeMicrosoftShowDeleted)
  | beheraPasswordPolicy c =>
    let packet := (Ber.Encode .universal .constructed TagSequence).AppendChild codec
      (NewString .universal .primitive TagOctetString ControlTypeBeheraPasswordPolicy)
    -- grace wins over expire, and expire over error: the source returns early
    if 0 ≤ c.grace then
      packet.AppendChild codec (beheraValue codec ((Ber.Encode .context .constructed 0x00).AppendChild
        codec (NewInteger codec .context .primitive 0x01 c.grace)))
    else if 0 ≤ c.expire then
      packet.AppendChild codec (beheraValue codec ((Ber.Encode .context .constructed 0x00).AppendChild
        codec (NewInteger codec .context .primitive 0x00 c.expire)))
    else if 0 ≤ c.error then
      packet.AppendChild codec
        (beheraValue codec (NewInteger codec .context .primitive 0x01 c.error.toInt64))
    else packet
  | vChuPasswordMustChange _ =>
    (Ber.Encode .universal .constructed TagSequence).AppendChild codec
      (NewString .universal .primitive TagOctetString ControlTypeVChuPasswordMustChange)
  | vChuPasswordWarning c =>
    ((Ber.Encode .universal .constructed TagSequence).AppendChild codec
      (NewString .universal .primitive TagOctetString ControlTypeVChuPasswordWarning)).AppendChild
      codec (NewString .universal .primitive TagOctetString (FormatInt c.expire))
  | paging c =>
    let cookie := { Ber.Encode .universal .primitive TagOctetString with
      value := .bytes c.cookie, data := c.cookie }
    let seq := ((Ber.Encode .universal .constructed TagSequence).AppendChild codec
      (NewInteger codec .universal .primitive TagInteger c.pagingSize.toUInt64.toInt64)).AppendChild
      codec cookie
    ((Ber.Encode .universal .constructed TagSequence).AppendChild codec
      (NewString .universal .primitive TagOctetString ControlTypePaging)).AppendChild codec
      ((Ber.Encode .universal .primitive TagOctetString).AppendChild codec seq)

/-- `encodeControls`: the context-specific `[0]` controls element. -/
def encodeControls (controls : List Control) : Packet :=
  (Ber.Encode .context .constructed 0).AppendChildren codec (controls.map (Control.Encode codec))

/-- The type, criticality and value children `decodeControl` reads, before it
looks at the type. -/
structure ControlParts where
  controlType : GoString
  criticality : Bool
  value : Option Packet

def decodeControlOp : GoString := lit "gldap.decodeControl"

/-- The first `switch` of `decodeControl`, on the number of children. -/
def controlParts (packet : Packet) : Outcome GoError ControlParts :=
  match packet.children with
  | [] => .error (.errorf "%s: at least one child is required for control type"
      [.str decodeControlOp])
  | [typ] => do
    let controlType ← typ.value.assertString
    pure ⟨controlType, false, none⟩
  | [typ, second] => do
    let controlType ← typ.value.assertString
    -- a bool second child is the criticality, anything else the value
    match second.value.toBool? with
    | some _ => do
      let criticality ← second.value.assertBool
      pure ⟨controlType, criticality, none⟩
    | none => pure ⟨controlType, false, some second⟩
  | [typ, crit, value] => do
    let controlType ← typ.value.assertString
    let criticality ← crit.value.assertBool
    pure ⟨controlType, criticality, some value⟩
  | _ => .error (.errorf "%s: more than 3 children is invalid for controls" [.str decodeControlOp])

/-- A value packet that still holds its content as a string (it came off the
wire) is decoded once more, and the result becomes its only new child. -/
def redecodeValue (format : String) (value : Packet) : Outcome GoError Packet :=
  if value.value ≠ .nil then do
    let valueChildren ← Outcome.ofExcept (.wrapf format [.str decodeControlOp])
      (codec.decodePacketErr value.data)
    pure ({ value with data := [], value := .nil }.AppendChild codec valueChildren)
  else pure value

/-- The paging branch of `decodeControl` for a present value. -/
def decodePagingValue (value : Packet) : Outcome GoError ControlPaging := do
  let value ← redecodeValue codec "%s, failed to decode data bytes: %w" value
  if value.children.length < 1 then
    .error (.wrapf "%s: paging control value must have a least 1 child: %w"
      [.str decodeControlOp] ErrInvalidParameter)
  let value ← Outcome.index value.children 0
  let sizePacket ← Outcome.index value.children 0
  let cookiePacket ← Outcome.index value.children 1
  let pagingSize ← sizePacket.value.assertInt64
  pure { pagingSize := pagingSize.toUInt64.toUInt32, cookie := cookiePacket.data }

/-- One child of the password policy sequence: a `[0]` warning or a `[1]` error. -/
def beheraChild (c : ControlBeheraPasswordPolicy) (child : Packet) :
    Outcome GoError ControlBeheraPasswordPolicy :=
  if child.tag = 0 then do
    let warningPacket ← Outcome.index child.children 0
    let val ← Outcome.ofExcept (.wrapf "%s: failed to decode data bytes: %w" [.str decodeControlOp])
      (codec.parseInt64 warningPacket.data)
    if warningPacket.tag = 0 then pure { c with expire := val }
    else if warningPacket.tag = 1 then pure { c with grace := val }
    else pure c
  else if child.tag = 1 then
    match child.data with
    | [b] =>
      if b > 8 then
        .error (.errorf "%s: failed to decode data bytes: %s"
          [.str (lit "invalid PasswordPolicyResponse enum value"), .str decodeControlOp])
      else pure { c with error := b.toInt8, errorString := BeheraPasswordPolicyErrorMap b.toInt8 }
    | _ => .error (.errorf "%s: failed to decode data bytes: %s"
        [.str (lit "invalid PasswordPolicyResponse enum value"), .str decodeControlOp])
  else pure c

/-- The password policy branch of `decodeControl` for a present value. -/
def decodeBeheraValue (value : Packet) : Outcome GoError ControlBeheraPasswordPolicy := do
  let c ← Outcome.ofExcept (fun _ => .errorf "%s: failed to create behera password control"
    [.str decodeControlOp]) (NewControlBeheraPasswordPolicy [])
  let value ← redecodeValue codec "%s: failed to decode data bytes: %w" value
  if value.children.length = 0 then
    .error (.wrapf "%s: behera control value must have a least 1 child: %w"
      [.str decodeControlOp] ErrInvalidParameter)
  let sequence ← Outcome.index value.children 0
  sequence.children.foldlM (beheraChild codec) c

/-- `decodeControl`. The source's nil check on the packet is left out: the
children of a packet are never nil. -/
def decodeControl (packet : Packet) : Outcome GoError Control := do
  let parts ← controlParts packet
  if parts.controlType = ControlTypeManageDsaIT then
    pure (.manageDsaIT (NewControlManageDsaIT [.withCriticality parts.criticality]))
  else if parts.controlType = ControlTypePaging then
    match parts.value with
    | none => pure (.paging { pagingSize := 0, cookie := [] })
    | some value => do
      let c ← decodePagingValue codec value
      pure (.paging c)
  else if parts.controlType = ControlTypeBeheraPasswordPolicy then
    match parts.value with
    | none => do
      let c ← Outcome.ofExcept (.wrapf "%s: %w" [.str decodeControlOp])
        (NewControlBeheraPasswordPolicy [])
      pure (.beheraPasswordPolicy c)
    | some value => do
      let c ← decodeBeheraValue codec value
      pure (.beheraPasswordPolicy c)
  else if parts.controlType = ControlTypeVChuPasswordMustChange then
    pure (.vChuPasswordMustChange { mustChange := true })
  else if parts.controlType = ControlTypeVChuPasswordWarning then
    match parts.value with
    | none => pure (.vChuPasswordWarning { expire := -1 })
    | some value => do
      let expire ← Outcome.ofExcept (.wrapf "%s: failed to parse value as int: %w"
        [.str decodeControlOp]) (ParseInt (codec.decodeString value.data))
      pure (.vChuPasswordWarning { expire := expire })
  else if parts.controlType = ControlTypeMicrosoftNotification then
    pure .microsoftNotification
  else if parts.controlType = ControlTypeMicrosoftShowDeleted then
    pure .microsoftShowDeleted
  else if parts.controlType = ControlTypeMicrosoftServerLinkTTL then
    pure .microsoftServerLinkTTL
  else do
    let controlValue ← match parts.value with
      | none => pure []
      | some value => value.value.assertString
    pure (.string ⟨parts.controlType, parts.criticality, controlValue⟩)

end Codec

end Gldap
