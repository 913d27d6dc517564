import Gldap.Control
import Gldap.Ber.Tlv
import Mathlib.Tactic.IntervalCases

/-! Controls read back what their encoders write: `decodeControl` inverts
`Control.Encode`, on the packet itself and on the packet read back from its
octets, for every control that keeps its type's representation invariant.

The decoder tells the controls apart by their type. A string control whose
type is one of the eight it knows comes back as that control, so the invariant
excludes those types; a password policy comes back from at most one of its
three fields; a must-change control always says must change.
-/

set_option autoImplicit false

namespace Gldap

open Go Ber

/-! ### The types the decoder knows -/

@[simp] theorem ControlTypeManageDsaIT_bytes : ControlTypeManageDsaIT =
    [50, 46, 49, 54, 46, 56, 52, 48, 46, 49, 46, 49, 49, 51, 55, 51, 48, 46, 51, 46, 52, 46, 50] := by
  decide +kernel

@[simp] theorem ControlTypePaging_bytes : ControlTypePaging =
    [49, 46, 50, 46, 56, 52, 48, 46, 49, 49, 51, 53, 53, 54, 46, 49, 46, 52, 46, 51, 49, 57] := by
  decide +kernel

@[simp] theorem ControlTypeBeheraPasswordPolicy_bytes : ControlTypeBeheraPasswordPolicy =
    [49, 46, 51, 46, 54, 46, 49, 46, 52, 46, 49, 46, 52, 50, 46, 50, 46, 50, 55, 46, 56, 46, 53, 46, 49] := by
  decide +kernel

@[simp] theorem ControlTypeVChuPasswordMustChange_bytes : ControlTypeVChuPasswordMustChange =
    [50, 46, 49, 54, 46, 56, 52, 48, 46, 49, 46, 49, 49, 51, 55, 51, 48, 46, 51, 46, 52, 46, 52] := by
  decide +kernel

@[simp] theorem ControlTypeVChuPasswordWarning_bytes : ControlTypeVChuPasswordWarning =
    [50, 46, 49, 54, 46, 56, 52, 48, 46, 49, 46, 49, 49, 51, 55, 51, 48, 46, 51, 46, 52, 46, 53] := by
  decide +kernel

@[simp] theorem ControlTypeMicrosoftNotification_bytes : ControlTypeMicrosoftNotification =
    [49, 46, 50, 46, 56, 52, 48, 46, 49, 49, 51, 53, 53, 54, 46, 49, 46, 52, 46, 53, 50, 56] := by
  decide +kernel

@[simp] theorem ControlTypeMicrosoftShowDeleted_bytes : ControlTypeMicrosoftShowDeleted =
    [49, 46, 50, 46, 56, 52, 48, 46, 49, 49, 51, 53, 53, 54, 46, 49, 46, 52, 46, 52, 49, 55] := by
  decide +kernel

@[simp] theorem ControlTypeMicrosoftServerLinkTTL_bytes : ControlTypeMicrosoftServerLinkTTL =
    [49, 46, 50, 46, 56, 52, 48, 46, 49, 49, 51, 53, 53, 54, 46, 49, 46, 52, 46, 50, 51, 48, 57] := by
  decide +kernel

/-- The types `decodeControl` tries, in its order. -/
def specialControlTypes : List GoString :=
  [ControlTypeManageDsaIT, ControlTypePaging, ControlTypeBeheraPasswordPolicy,
    ControlTypeVChuPasswordMustChange, ControlTypeVChuPasswordWarning,
    ControlTypeMicrosoftNotification, ControlTypeMicrosoftShowDeleted, ControlTypeMicrosoftServerLinkTTL]

/-! ### The representation invariant -/

/-- Each of grace, expire and error is unset (-1) or non-negative, at most one
is set, an error is at most 8, and the error string is the one of the code. -/
def ControlBeheraPasswordPolicy.Valid (c : ControlBeheraPasswordPolicy) : Prop :=
  (c.grace = -1 ∨ 0 ≤ c.grace) ∧ (c.expire = -1 ∨ 0 ≤ c.expire) ∧
    (c.error = -1 ∨ (0 ≤ c.error ∧ c.error ≤ 8)) ∧
    (0 ≤ c.grace → c.expire = -1 ∧ c.error = -1) ∧ (0 ≤ c.expire → c.error = -1) ∧
    c.errorString = (if c.error = -1 then [] else BeheraPasswordPolicyErrorMap c.error)

instance (c : ControlBeheraPasswordPolicy) : Decidable c.Valid :=
  inferInstanceAs (Decidable (_ ∧ _))

def Control.Valid : Control → Prop
  | .string c => c.controlType ∉ specialControlTypes
  | .beheraPasswordPolicy c => c.Valid
  | .vChuPasswordMustChange c => c.mustChange = true
  | _ => True

instance : DecidablePred Control.Valid := fun c =>
  match c with
  | .string c => inferInstanceAs (Decidable (c.controlType ∉ specialControlTypes))
  | .manageDsaIT _ => isTrue trivial
  | .microsoftNotification => isTrue trivial
  | .microsoftServerLinkTTL => isTrue trivial
  | .microsoftShowDeleted => isTrue trivial
  | .beheraPasswordPolicy c => inferInstanceAs (Decidable c.Valid)
  | .vChuPasswordMustChange c => inferInstanceAs (Decidable (c.mustChange = true))
  | .vChuPasswordWarning _ => isTrue trivial
  | .paging _ => isTrue trivial

/-! ### The policies the constructor builds -/

theorem toInt8_of_errorCode {k : Int64} (h0 : 0 ≤ k) (h8 : k ≤ 8) :
    0 ≤ k.toInt8 ∧ k.toInt8 ≤ 8 ∧ k.toInt8 ≠ -1 := by
  have h0' := Int64.le_iff_toInt_le.mp h0
  have h8' := Int64.le_iff_toInt_le.mp h8
  -- an error code of 0 to 8 keeps its value in the int8
  have hkeep : k.toInt8.toInt = k.toInt := by
    rw [Int64.toInt_toInt8, Int.bmod]
    simp at h0' h8'
    split <;> omega
  simp only [Int8.le_iff_toInt_le, ne_eq, ← Int8.toInt_inj, hkeep]
  simp at h0' h8' ⊢
  omega

theorem ne_neg_one_of_nonneg {x : Int64} (hpos : 0 ≤ x) : x ≠ -1 := by
  rintro rfl
  exact absurd hpos (by decide)

/-- A policy built from options whose values an `int` holds meets the
invariant that `Encode` and `decodeControl` rely on. -/
theorem NewControlBeheraPasswordPolicy_valid {opt : List Opt} (hopt : ∀ o ∈ opt, o.UintFits)
    {c : ControlBeheraPasswordPolicy} (hc : NewControlBeheraPasswordPolicy opt = .ok c) : c.Valid := by
  obtain ⟨hgrace, hexpire, herror⟩ := getControlOpts_sentinel hopt
  obtain ⟨hge, hek, hrange, rfl⟩ := NewControlBeheraPasswordPolicy_eq_ok hc
  have hunset : ((-1 : Int64)).toInt8 = -1 := by decide
  refine ⟨hgrace, hexpire, ?_, ?_, ?_, ?_⟩
  · rcases herror with hk | hk
    · exact .inl (by rw [hk, hunset])
    · obtain ⟨h0, h8, _⟩ := toInt8_of_errorCode hk (by simpa using hrange)
      exact .inr ⟨h0, h8⟩
  · intro hpos
    obtain ⟨hnoExpire, hnoError⟩ := hge (ne_neg_one_of_nonneg hpos)
    simp [hnoExpire, hnoError, hunset]
  · intro hpos
    simp [hek (ne_neg_one_of_nonneg hpos), hunset]
  · rcases herror with hk | hk
    · simp [hk, hunset]
    · obtain ⟨_, _, hne⟩ := toInt8_of_errorCode hk (by simpa using hrange)
      simp [ne_neg_one_of_nonneg hk, hne]

/-! ### Reading the children -/

section Parts

variable {p typ second value : Packet} {controlType : GoString}

theorem controlParts_type (htyp : typ.value = .string controlType) (hp : p.children = [typ]) :
    controlParts p = .ok ⟨controlType, false, none⟩ := by
  simp [controlParts, hp, htyp]

theorem controlParts_criticality {criticality : Bool} (htyp : typ.value = .string controlType)
    (hcrit : second.value = .bool criticality) (hp : p.children = [typ, second]) :
    controlParts p = .ok ⟨controlType, criticality, none⟩ := by
  simp [controlParts, hp, htyp, hcrit, GoValue.toBool?]

theorem controlParts_value (htyp : typ.value = .string controlType) (hvalue : second.value.toBool? = none)
    (hp : p.children = [typ, second]) :
    controlParts p = .ok ⟨controlType, false, some second⟩ := by
  simp [controlParts, hp, htyp, hvalue]

theorem controlParts_three {criticality : Bool} (htyp : typ.value = .string controlType)
    (hcrit : second.value = .bool criticality) (hp : p.children = [typ, second, value]) :
    controlParts p = .ok ⟨controlType, criticality, some value⟩ := by
  simp [controlParts, hp, htyp, hcrit]

end Parts

/-! ### The type decides the control -/

section Dispatch

variable (codec : Codec) {p : Packet} {criticality : Bool} {value : Option Packet}

theorem decodeControl_manageDsaIT
    (h : controlParts p = .ok ⟨ControlTypeManageDsaIT, criticality, value⟩) :
    decodeControl codec p = .ok (.manageDsaIT ⟨criticality⟩) := by
  simp [decodeControl, h, NewControlManageDsaIT, getControlOpts, applyOpts, ControlOptions.apply]

theorem decodeControl_microsoftNotification
    (h : controlParts p = .ok ⟨ControlTypeMicrosoftNotification, criticality, value⟩) :
    decodeControl codec p = .ok .microsoftNotification := by
  simp [decodeControl, h]

theorem decodeControl_microsoftShowDeleted
    (h : controlParts p = .ok ⟨ControlTypeMicrosoftShowDeleted, criticality, value⟩) :
    decodeControl codec p = .ok .microsoftShowDeleted := by
  simp [decodeControl, h]

theorem decodeControl_microsoftServerLinkTTL
    (h : controlParts p = .ok ⟨ControlTypeMicrosoftServerLinkTTL, criticality, value⟩) :
    decodeControl codec p = .ok .microsoftServerLinkTTL := by
  simp [decodeControl, h]

theorem decodeControl_vChuPasswordMustChange
    (h : controlParts p = .ok ⟨ControlTypeVChuPasswordMustChange, criticality, value⟩) :
    decodeControl codec p = .ok (.vChuPasswordMustChange ⟨true⟩) := by
  simp [decodeControl, h]

theorem decodeControl_behera_none
    (h : controlParts p = .ok ⟨ControlTypeBeheraPasswordPolicy, criticality, none⟩) :
    decodeControl codec p = .ok (.beheraPasswordPolicy ⟨-1, -1, -1, []⟩) := by
  simp [decodeControl, h, NewControlBeheraPasswordPolicy, getControlOpts, controlDefaults]

theorem decodeControl_behera_some {v : Packet} {c : ControlBeheraPasswordPolicy}
    (h : controlParts p = .ok ⟨ControlTypeBeheraPasswordPolicy, criticality, some v⟩)
    (hv : decodeBeheraValue codec v = .ok c) :
    decodeControl codec p = .ok (.beheraPasswordPolicy c) := by
  simp [decodeControl, h, hv]

theorem decodeControl_paging_some {v : Packet} {c : ControlPaging}
    (h : controlParts p = .ok ⟨ControlTypePaging, criticality, some v⟩)
    (hv : decodePagingValue codec v = .ok c) :
    decodeControl codec p = .ok (.paging c) := by
  simp [decodeControl, h, hv]

theorem decodeControl_vChuPasswordWarning_some {v : Packet} {expire : Int64}
    (h : controlParts p = .ok ⟨ControlTypeVChuPasswordWarning, criticality, some v⟩)
    (hv : ParseInt (codec.decodeString v.data) = .ok expire) :
    decodeControl codec p = .ok (.vChuPasswordWarning ⟨expire⟩) := by
  simp [decodeControl, h, hv]

/-- A type the decoder does not know makes a string control, with the value
as it was read. -/
theorem decodeControl_string {controlType controlValue : GoString}
    (htype : controlType ∉ specialControlTypes)
    (h : controlParts p = .ok ⟨controlType, criticality, value⟩)
    (hvalue : value = none ∧ controlValue = [] ∨ ∃ v, value = some v ∧ v.value = .string controlValue) :
    decodeControl codec p = .ok (.string ⟨controlType, criticality, controlValue⟩) := by
  simp only [specialControlTypes, List.mem_cons, List.not_mem_nil, or_false, not_or] at htype
  -- each type as its octets, as the decoder compares them
  simp only [ControlTypeManageDsaIT_bytes, ControlTypePaging_bytes, ControlTypeBeheraPasswordPolicy_bytes,
    ControlTypeVChuPasswordMustChange_bytes, ControlTypeVChuPasswordWarning_bytes,
    ControlTypeMicrosoftNotification_bytes, ControlTypeMicrosoftShowDeleted_bytes,
    ControlTypeMicrosoftServerLinkTTL_bytes] at htype
  obtain ⟨h1, h2, h3, h4, h5, h6, h7, h8⟩ := htype
  rcases hvalue with ⟨rfl, rfl⟩ | ⟨v, rfl, hv⟩
  · simp [decodeControl, h, h1, h2, h3, h4, h5, h6, h7, h8]
  · simp [decodeControl, h, h1, h2, h3, h4, h5, h6, h7, h8, hv]

end Dispatch

/-! ### Values carried in an OCTET STRING -/

section Values

variable (codec : Codec)

/-- The OCTET STRING the paging and password policy encoders put a value
sequence in. -/
def wrapValue (child : Packet) : Packet :=
  (Ber.Encode .universal .primitive TagOctetString).AppendChild codec child

variable {codec}

/-- On the packet itself the value has no string, so it is not read again. -/
theorem redecodeValue_wrapValue (format : String) (child : Packet) :
    redecodeValue codec format (wrapValue codec child) = .ok (wrapValue codec child) := by
  simp [redecodeValue, wrapValue, Encode]

/-- Off the wire the value is a string, which is read again as the packet it
holds. -/
theorem redecodeValue_wire_wrapValue (hcodec : codec.Lawful) (format : String) {child : Packet}
    (hwf : child.WellFormed codec) (hfits : child.Fits) :
    redecodeValue codec format ((wrapValue codec child).wire codec) =
      .ok (wrapValue codec (child.wire codec)) := by
  have hdecode := hcodec.decodePacketErr_bytes child hwf hfits
  simp [redecodeValue, wrapValue, Encode, Packet.AppendChild, Packet.wire, decodedValue, TagBoolean,
    TagInteger, TagEnumerated, TagOctetString, hcodec.decodeString_eq, hdecode, Outcome.ofExcept]

theorem decodePagingValue_of_redecode {v sequence size cookie : Packet} {n : Int64}
    (hv : redecodeValue codec "%s, failed to decode data bytes: %w" v = .ok (wrapValue codec sequence))
    (hsequence : sequence.children = [size, cookie]) (hsize : size.value = .int64 n) :
    decodePagingValue codec v = .ok ⟨n.toUInt64.toUInt32, cookie.data⟩ := by
  simp [decodePagingValue, hv, wrapValue, Encode, Outcome.index, hsequence, hsize]

theorem decodeBeheraValue_of_redecode {v sequence : Packet}
    (hv : redecodeValue codec "%s: failed to decode data bytes: %w" v = .ok (wrapValue codec sequence)) :
    decodeBeheraValue codec v = sequence.children.foldlM (beheraChild codec) ⟨-1, -1, -1, []⟩ := by
  simp [decodeBeheraValue, hv, wrapValue, Encode, Outcome.index, NewControlBeheraPasswordPolicy,
    getControlOpts, controlDefaults, Outcome.ofExcept]

/-- A warning: the integer under it goes to expire or grace by its tag. -/
theorem beheraChild_warning (hcodec : codec.Lawful) (c : ControlBeheraPasswordPolicy)
    {child warning : Packet} {n : Int64} (htag : child.tag = 0) (hchildren : child.children = [warning])
    (hdata : warning.data = codec.encodeInteger n) :
    beheraChild codec c child =
      .ok (if warning.tag = 0 then { c with expire := n } else if warning.tag = 1 then { c with grace := n } else c) := by
  simp [beheraChild, htag, hchildren, Outcome.index, hdata, hcodec.parseInt64_encodeInteger,
    Outcome.ofExcept]
  split_ifs <;> rfl

/-- An error code of at most 8, in one octet. -/
theorem behera_error_octet (e : Int8) (h0 : 0 ≤ e) (h8 : e ≤ 8) :
    0 ≤ e.toInt64 ∧ e.toInt64 < 128 ∧ e.toInt64.toUInt64.toUInt8 ≤ 8 ∧
      e.toInt64.toUInt64.toUInt8.toInt8 = e := by
  have he : e = Int8.ofInt e.toInt := (Int8.ofInt_toInt e).symm
  have hlo : 0 ≤ e.toInt := Int8.le_iff_toInt_le.mp h0
  have hhi : e.toInt ≤ 8 := Int8.le_iff_toInt_le.mp h8
  generalize e.toInt = t at he hlo hhi
  subst he
  interval_cases t <;> decide

/-- An error: its one content octet is the code. -/
theorem beheraChild_error (hcodec : codec.Lawful) (c : ControlBeheraPasswordPolicy) {child : Packet}
    {e : Int8} (h0 : 0 ≤ e) (h8 : e ≤ 8) (htag : child.tag = 1) (hdata : child.data = codec.encodeInteger e.toInt64) :
    beheraChild codec c child = .ok { c with error := e, errorString := BeheraPasswordPolicyErrorMap e } := by
  obtain ⟨hpos, hsmall, hle, hback⟩ := behera_error_octet e h0 h8
  rw [hcodec.encodeInteger_small _ hpos hsmall] at hdata
  have hnot : ¬(e.toInt64.toUInt64.toUInt8 > 8) := by simpa using hle
  simp [beheraChild, htag, hdata, hnot, hback]

end Values

/-! ### Round trips on the packet itself -/

section Direct

variable {codec : Codec}

theorem decodeControl_Encode_string (c : ControlString) (hc : c.controlType ∉ specialControlTypes) :
    decodeControl codec ((Control.string c).Encode codec) = .ok (.string c) := by
  obtain ⟨controlType, criticality, controlValue⟩ := c
  have htyp : (NewString .universal .primitive TagOctetString controlType).value = .string controlType := rfl
  have hcrit : (NewBoolean codec .universal .primitive TagBoolean true).value = .bool true := rfl
  have hval : (NewString .universal .primitive TagOctetString controlValue).value = .string controlValue := rfl
  -- the criticality is written only when set, the value only when not empty
  cases criticality <;> by_cases hv : controlValue = []
  · refine decodeControl_string codec hc (controlParts_type htyp ?_) (.inl ⟨rfl, hv⟩)
    simp [Control.Encode, hv, Encode]
  · refine decodeControl_string codec hc (controlParts_value htyp (by rw [hval]; rfl) ?_) (.inr ⟨_, rfl, hval⟩)
    simp [Control.Encode, hv, Encode]
  · refine decodeControl_string codec hc (controlParts_criticality htyp hcrit ?_) (.inl ⟨rfl, hv⟩)
    simp [Control.Encode, hv, Encode]
  · refine decodeControl_string codec hc (controlParts_three htyp hcrit ?_) (.inr ⟨_, rfl, hval⟩)
    simp [Control.Encode, hv, Encode]
theorem decodeControl_Encode_manageDsaIT (c : ControlManageDsaIT) :
    decodeControl codec ((Control.manageDsaIT c).Encode codec) = .ok (.manageDsaIT c) := by
  obtain ⟨criticality⟩ := c
  have htyp : (NewString .universal .primitive TagOctetString ControlTypeManageDsaIT).value =
      .string ControlTypeManageDsaIT := rfl
  have hcrit : (NewBoolean codec .universal .primitive TagBoolean true).value = .bool true := rfl
  cases criticality
  · exact decodeControl_manageDsaIT codec (controlParts_type htyp (by simp [Control.Encode, Encode]))
  · exact decodeControl_manageDsaIT codec (controlParts_criticality htyp hcrit (by simp [Control.Encode, Encode]))

theorem decodeControl_Encode_vChuPasswordWarning (hcodec : codec.Lawful) (c : ControlVChuPasswordWarning) :
    decodeControl codec ((Control.vChuPasswordWarning c).Encode codec) = .ok (.vChuPasswordWarning c) := by
  have htyp : (NewString .universal .primitive TagOctetString ControlTypeVChuPasswordWarning).value =
      .string ControlTypeVChuPasswordWarning := rfl
  have hvalue : (NewString .universal .primitive TagOctetString (FormatInt c.expire)).value.toBool? = none := rfl
  -- the expiry is written in decimal and parsed back
  refine decodeControl_vChuPasswordWarning_some codec (controlParts_value htyp hvalue ?_) ?_
  · simp [Control.Encode, Encode]
  · simp [NewString, Encode, hcodec.decodeString_eq, ParseInt_FormatInt]

/-- The cookie of a paging value, an OCTET STRING holding bytes. -/
def pagingCookie (c : ControlPaging) : Packet :=
  { Ber.Encode .universal .primitive TagOctetString with value := .bytes c.cookie, data := c.cookie }

/-- The paging value: the size, then the cookie. -/
def pagingSequence (codec : Codec) (c : ControlPaging) : Packet :=
  ((Ber.Encode .universal .constructed TagSequence).AppendChild codec
    (NewInteger codec .universal .primitive TagInteger c.pagingSize.toUInt64.toInt64)).AppendChild codec
    (pagingCookie c)

theorem Encode_paging_children (c : ControlPaging) :
    ((Control.paging c).Encode codec).children =
      [NewString .universal .primitive TagOctetString ControlTypePaging, wrapValue codec (pagingSequence codec c)] := by
  simp [Control.Encode, wrapValue, pagingSequence, pagingCookie, Encode]

theorem pagingSequence_children (c : ControlPaging) :
    (pagingSequence codec c).children =
      [NewInteger codec .universal .primitive TagInteger c.pagingSize.toUInt64.toInt64, pagingCookie c] := by
  simp [pagingSequence, Encode]

theorem decodeControl_Encode_paging (c : ControlPaging) :
    decodeControl codec ((Control.paging c).Encode codec) = .ok (.paging c) := by
  have htyp : (NewString .universal .primitive TagOctetString ControlTypePaging).value =
      .string ControlTypePaging := rfl
  have hvalue : (wrapValue codec (pagingSequence codec c)).value.toBool? = none := by
    simp [wrapValue, Encode, GoValue.toBool?]
  have hredecode : redecodeValue codec "%s, failed to decode data bytes: %w"
      (wrapValue codec (pagingSequence codec c)) = .ok (wrapValue codec (pagingSequence codec c)) :=
    redecodeValue_wrapValue _ _
  have hpaging := decodePagingValue_of_redecode hredecode (pagingSequence_children c) (NewInteger_value _ _ _ _ _)
  refine decodeControl_paging_some codec (controlParts_value htyp hvalue (Encode_paging_children c)) ?_
  rw [hpaging]
  simp [pagingCookie]

/-- A warning of a password policy: the integer under a context-specific `[0]`. -/
def beheraWarning (codec : Codec) (tag : Nat) (n : Int64) : Packet :=
  (Ber.Encode .context .constructed 0x00).AppendChild codec (NewInteger codec .context .primitive tag n)

/-- The sequence under a password policy value. -/
def beheraSequence (codec : Codec) (inner : Packet) : Packet :=
  (Ber.Encode .universal .constructed TagSequence).AppendChild codec inner

theorem beheraValue_eq (inner : Packet) : beheraValue codec inner = wrapValue codec (beheraSequence codec inner) := rfl

theorem beheraChild_beheraWarning (hcodec : codec.Lawful) (c : ControlBeheraPasswordPolicy) (tag : Nat)
    (n : Int64) :
    beheraChild codec c (beheraWarning codec tag n) =
      .ok (if tag = 0 then { c with expire := n } else if tag = 1 then { c with grace := n } else c) :=
  @beheraChild_warning codec hcodec c (beheraWarning codec tag n) (NewInteger codec .context .primitive tag n) n
    rfl rfl rfl

theorem beheraSequence_children (inner : Packet) : (beheraSequence codec inner).children = [inner] := by
  simp [beheraSequence, Encode]

/-- The one packet the password policy encoder puts under the sequence, if
any: the first field that is set, in the order grace, expire, error. -/
def beheraInner (codec : Codec) (c : ControlBeheraPasswordPolicy) : Option Packet :=
  if 0 ≤ c.grace then some (beheraWarning codec 0x01 c.grace)
  else if 0 ≤ c.expire then some (beheraWarning codec 0x00 c.expire)
  else if 0 ≤ c.error then some (NewInteger codec .context .primitive 0x01 c.error.toInt64)
  else none

theorem Encode_behera_children (c : ControlBeheraPasswordPolicy) :
    ((Control.beheraPasswordPolicy c).Encode codec).children =
      NewString .universal .primitive TagOctetString ControlTypeBeheraPasswordPolicy ::
        ((beheraInner codec c).map fun inner => wrapValue codec (beheraSequence codec inner)).toList := by
  by_cases hg : 0 ≤ c.grace
  · simp [Control.Encode, beheraInner, hg, beheraValue_eq, beheraWarning, Encode]
  · by_cases he : 0 ≤ c.expire
    · simp [Control.Encode, beheraInner, hg, he, beheraValue_eq, beheraWarning, Encode]
    · by_cases hr : 0 ≤ c.error <;> simp [Control.Encode, beheraInner, hg, he, hr, beheraValue_eq, Encode]

/-- A policy with nothing set is the default one. -/
theorem beheraInner_eq_none {c : ControlBeheraPasswordPolicy} (hc : c.Valid) (h : beheraInner codec c = none) :
    c = ⟨-1, -1, -1, []⟩ := by
  obtain ⟨expire, grace, error, errorString⟩ := c
  obtain ⟨hgrace, hexpire, herror, -, -, hstring⟩ := hc
  simp only at hgrace hexpire herror hstring
  unfold beheraInner at h
  have hg : ¬0 ≤ grace := fun hg => by simp [hg] at h
  have he : ¬0 ≤ expire := fun he => by simp [hg, he] at h
  have hr : ¬0 ≤ error := fun hr => by simp [hg, he, hr] at h
  obtain rfl := hgrace.resolve_right hg
  obtain rfl := hexpire.resolve_right he
  obtain rfl := herror.resolve_right fun h => hr h.1
  simp [hstring]

/-- The packet under the sequence reads back as the policy, starting from the
defaults the decoder starts from. -/
theorem beheraChild_beheraInner (hcodec : codec.Lawful) {c : ControlBeheraPasswordPolicy} (hc : c.Valid)
    {inner : Packet} (h : beheraInner codec c = some inner) :
    beheraChild codec ⟨-1, -1, -1, []⟩ inner = .ok c := by
  obtain ⟨expire, grace, error, errorString⟩ := c
  obtain ⟨hgrace, hexpire, herror, honly, hexpireOnly, hstring⟩ := hc
  simp only at hgrace hexpire herror honly hexpireOnly hstring h
  unfold beheraInner at h
  by_cases hg : 0 ≤ grace
  · obtain ⟨rfl, rfl⟩ := honly hg
    obtain rfl := Option.some.inj ((if_pos hg).symm.trans h)
    simp [beheraChild_beheraWarning hcodec, hstring]
  obtain rfl := hgrace.resolve_right hg
  by_cases he : 0 ≤ expire
  · obtain rfl := hexpireOnly he
    obtain rfl := Option.some.inj (((if_neg hg).trans (if_pos he)).symm.trans h)
    simp [beheraChild_beheraWarning hcodec, hstring]
  obtain rfl := hexpire.resolve_right he
  -- an error code alone, with its text from the map
  have hr : 0 ≤ error := by
    by_contra hr
    simp [hg, hr] at h
  have hne : error ≠ -1 := by
    rintro rfl
    exact hg hr
  obtain rfl := Option.some.inj (((if_neg hg).trans ((if_neg he).trans (if_pos hr))).symm.trans h)
  have hw : beheraChild codec ⟨-1, -1, -1, []⟩ (NewInteger codec .context .primitive 0x01 error.toInt64) =
      .ok ⟨-1, -1, error, BeheraPasswordPolicyErrorMap error⟩ :=
    beheraChild_error hcodec _ hr (herror.resolve_left hne).2 rfl rfl
  simp [hw, hstring, hne]

theorem decodeControl_Encode_behera (hcodec : codec.Lawful) (c : ControlBeheraPasswordPolicy) (hc : c.Valid) :
    decodeControl codec ((Control.beheraPasswordPolicy c).Encode codec) = .ok (.beheraPasswordPolicy c) := by
  have hchildren := @Encode_behera_children codec c
  have htyp : (NewString .universal .primitive TagOctetString ControlTypeBeheraPasswordPolicy).value =
      .string ControlTypeBeheraPasswordPolicy := rfl
  cases hinner : beheraInner codec c with
  | none =>
    -- no value: the decoder's defaults
    simp only [hinner, Option.map_none, Option.toList_none] at hchildren
    have hdefault := decodeControl_behera_none codec (controlParts_type htyp hchildren)
    rwa [← beheraInner_eq_none hc hinner] at hdefault
  | some inner =>
    simp only [hinner, Option.map_some, Option.toList_some] at hchildren
    have hvalue : (wrapValue codec (beheraSequence codec inner)).value.toBool? = none := by
      simp [wrapValue, Encode, GoValue.toBool?]
    refine decodeControl_behera_some codec (controlParts_value htyp hvalue hchildren) ?_
    rw [decodeBeheraValue_of_redecode (redecodeValue_wrapValue _ _), beheraSequence_children]
    simp [beheraChild_beheraInner hcodec hc hinner]

/-- The controls that write their type alone. -/
theorem controlParts_typeOnly (controlType : GoString) :
    controlParts ((Ber.Encode .universal .constructed TagSequence).AppendChild codec
      (NewString .universal .primitive TagOctetString controlType)) = .ok ⟨controlType, false, none⟩ :=
  @controlParts_type _ (NewString .universal .primitive TagOctetString controlType) controlType rfl rfl

/-- Every control that keeps its type's invariant reads back from its own packet. -/
theorem decodeControl_Encode (hcodec : codec.Lawful) (c : Control) (hc : c.Valid) :
    decodeControl codec (c.Encode codec) = .ok c := by
  cases c with
  | string c => exact decodeControl_Encode_string c hc
  | manageDsaIT c => exact decodeControl_Encode_manageDsaIT c
  | microsoftNotification =>
    exact decodeControl_microsoftNotification codec (controlParts_typeOnly _)
  | microsoftServerLinkTTL =>
    exact decodeControl_microsoftServerLinkTTL codec (controlParts_typeOnly _)
  | microsoftShowDeleted =>
    exact decodeControl_microsoftShowDeleted codec (controlParts_typeOnly _)
  | beheraPasswordPolicy c => exact decodeControl_Encode_behera hcodec c hc
  | vChuPasswordMustChange c =>
    -- the decoder always says must change, which the invariant asks of the control
    obtain ⟨mustChange⟩ := c
    obtain rfl : mustChange = true := hc
    exact decodeControl_vChuPasswordMustChange codec (controlParts_typeOnly _)
  | vChuPasswordWarning c => exact decodeControl_Encode_vChuPasswordWarning hcodec c
  | paging c => exact decodeControl_Encode_paging c

/-- A policy built from options whose values an `int` holds is read back from
its encoding. -/
theorem decodeControl_Encode_NewControlBeheraPasswordPolicy (hcodec : codec.Lawful) {opt : List Opt}
    (hopt : ∀ o ∈ opt, o.UintFits) {c : ControlBeheraPasswordPolicy}
    (hc : NewControlBeheraPasswordPolicy opt = .ok c) :
    decodeControl codec ((Control.beheraPasswordPolicy c).Encode codec) = .ok (.beheraPasswordPolicy c) :=
  decodeControl_Encode hcodec _ (NewControlBeheraPasswordPolicy_valid hopt hc)

end Direct

/-! ### Round trips through the octets -/

section Wire

variable {codec : Codec}

theorem Control.Encode_tagType (c : Control) : (c.Encode codec).tagType = .constructed := by
  -- the string, manageDsaIT and password policy encoders append under conditions
  cases c <;> simp only [Control.Encode] <;> (try split_ifs) <;> rfl

theorem Control.Encode_built (c : Control) : (c.Encode codec).Built codec := by
  cases c <;> simp only [Control.Encode] <;> (try split_ifs) <;> simp [beheraValue]
  -- what is left is the paging cookie, a primitive packet with no children
  exact wellFormed_of_leaf codec rfl rfl

/-- The decoder reads nothing of the control's packet but its children. -/
theorem decodeControl_congr_children {p q : Packet} (h : p.children = q.children) :
    decodeControl codec p = decodeControl codec q := by
  simp only [decodeControl, controlParts, h]

/-- A control whose children all read back as themselves reads back as itself. -/
theorem decodeControl_wire_of_children (c : Control)
    (hall : ∀ child ∈ (c.Encode codec).children, child.wire codec = child) :
    decodeControl codec ((c.Encode codec).wire codec) = decodeControl codec (c.Encode codec) := by
  apply decodeControl_congr_children
  rw [wire_children_of_constructed codec (Control.Encode_tagType c)]
  conv_rhs => rw [← List.map_id (c.Encode codec).children]
  exact List.map_congr_left hall

/-- A password policy child reads the same off the wire unless it is a
primitive packet that was given children, which the reader drops. -/
theorem beheraChild_wire (c : ControlBeheraPasswordPolicy) {child : Packet}
    (hleaf : child.tagType = .primitive → child.children = []) :
    beheraChild codec c (child.wire codec) = beheraChild codec c child := by
  obtain ⟨cl, ty, tag, value, data, children⟩ := child
  cases ty with
  | primitive =>
    obtain rfl : children = [] := hleaf rfl
    rfl
  | constructed =>
    cases children with
    | nil => rfl
    | cons warning rest => simp [beheraChild, Packet.wire, Packet.wireAll, Outcome.index]

theorem beheraInner_leaf {c : ControlBeheraPasswordPolicy} {inner : Packet} (h : beheraInner codec c = some inner) :
    inner.tagType = .primitive → inner.children = [] := by
  unfold beheraInner at h
  split_ifs at h <;> (obtain rfl := Option.some.inj h) <;> simp [beheraWarning, NewInteger, Encode]

theorem beheraInner_wellFormed {c : ControlBeheraPasswordPolicy} {inner : Packet}
    (h : beheraInner codec c = some inner) : inner.WellFormed codec := by
  unfold beheraInner at h
  split_ifs at h <;> (obtain rfl := Option.some.inj h) <;> simp [beheraWarning]

/-- Off the wire an OCTET STRING has a string value, which is no criticality. -/
theorem wire_wrapValue_toBool (child : Packet) :
    ((wrapValue codec child).wire codec).value.toBool? = none := by
  simp [wrapValue, Encode, Packet.AppendChild, Packet.wire, decodedValue, TagBoolean, TagInteger,
    TagEnumerated, TagOctetString, GoValue.toBool?]

theorem decodeControl_wire_Encode_paging (hcodec : codec.Lawful) (c : ControlPaging)
    (hfits : ((Control.paging c).Encode codec).Fits) :
    decodeControl codec (((Control.paging c).Encode codec).wire codec) = .ok (.paging c) := by
  have htyp : (NewString .universal .primitive TagOctetString ControlTypePaging).value =
      .string ControlTypePaging := rfl
  have hchildren : (((Control.paging c).Encode codec).wire codec).children =
      [NewString .universal .primitive TagOctetString ControlTypePaging,
        (wrapValue codec (pagingSequence codec c)).wire codec] := by
    rw [wire_children_of_constructed codec (Control.Encode_tagType _), Encode_paging_children]
    simp [hcodec.wire_NewString]
  -- the sequence is a child of the value, itself a child of the control
  have hfitsValue : (wrapValue codec (pagingSequence codec c)).Fits :=
    hfits.child (by simp [Encode_paging_children])
  have hfitsSequence : (pagingSequence codec c).Fits := hfitsValue.child (by simp [wrapValue, Encode])
  have hwf : (pagingSequence codec c).WellFormed codec := by
    simp [pagingSequence, wellFormed_of_leaf codec (show (pagingCookie c).tagType = .primitive from rfl) rfl]
  have hredecode := redecodeValue_wire_wrapValue hcodec "%s, failed to decode data bytes: %w" hwf hfitsSequence
  have hsequence : ((pagingSequence codec c).wire codec).children =
      [NewInteger codec .universal .primitive TagInteger c.pagingSize.toUInt64.toInt64,
        (pagingCookie c).wire codec] := by
    rw [wire_children_of_constructed codec rfl, pagingSequence_children]
    simp [hcodec.wire_NewInteger]
  have hpaging := decodePagingValue_of_redecode hredecode hsequence (NewInteger_value _ _ _ _ _)
  refine decodeControl_paging_some codec (controlParts_value htyp (wire_wrapValue_toBool _) hchildren) ?_
  rw [hpaging, wire_data]
  simp [pagingCookie]

theorem decodeControl_wire_Encode_behera (hcodec : codec.Lawful) (c : ControlBeheraPasswordPolicy)
    (hc : c.Valid) (hfits : ((Control.beheraPasswordPolicy c).Encode codec).Fits) :
    decodeControl codec (((Control.beheraPasswordPolicy c).Encode codec).wire codec) =
      .ok (.beheraPasswordPolicy c) := by
  have hchildren := wire_children_of_constructed codec (@Control.Encode_tagType codec (.beheraPasswordPolicy c))
  rw [Encode_behera_children] at hchildren
  have htyp : (NewString .universal .primitive TagOctetString ControlTypeBeheraPasswordPolicy).value =
      .string ControlTypeBeheraPasswordPolicy := rfl
  cases hinner : beheraInner codec c with
  | none =>
    simp only [hinner, Option.map_none, Option.toList_none, List.map_cons, List.map_nil,
      hcodec.wire_NewString _ _ rfl] at hchildren
    have hdefault := decodeControl_behera_none codec (controlParts_type htyp hchildren)
    rwa [← beheraInner_eq_none hc hinner] at hdefault
  | some inner =>
    simp only [hinner, Option.map_some, Option.toList_some, List.map_cons, List.map_nil,
      hcodec.wire_NewString _ _ rfl] at hchildren
    have hfitsValue : (wrapValue codec (beheraSequence codec inner)).Fits :=
      hfits.child (by simp [Encode_behera_children, hinner])
    have hfitsSequence : (beheraSequence codec inner).Fits := hfitsValue.child (by simp [wrapValue, Encode])
    have hwf : (beheraSequence codec inner).WellFormed codec := by
      simp [beheraSequence, beheraInner_wellFormed hinner]
    have hredecode := redecodeValue_wire_wrapValue hcodec "%s: failed to decode data bytes: %w" hwf hfitsSequence
    refine decodeControl_behera_some codec (controlParts_value htyp (wire_wrapValue_toBool _) hchildren) ?_
    rw [decodeBeheraValue_of_redecode hredecode, wire_children_of_constructed codec rfl, beheraSequence_children]
    simp [beheraChild_wire _ (beheraInner_leaf hinner), beheraChild_beheraInner hcodec hc hinner]

/-- Every control that keeps its type's invariant reads back from the packet
read off its octets. -/
theorem decodeControl_wire_Encode (hcodec : codec.Lawful) (c : Control) (hc : c.Valid)
    (hfits : (c.Encode codec).Fits) :
    decodeControl codec ((c.Encode codec).wire codec) = .ok c := by
  -- apart from paging and password policy, each child is a string or a true
  -- boolean, which the reader gives back as it was
  have hsame : (∀ child ∈ (c.Encode codec).children, child.wire codec = child) →
      decodeControl codec ((c.Encode codec).wire codec) = .ok c := fun hall =>
    (decodeControl_wire_of_children c hall).trans (decodeControl_Encode hcodec c hc)
  cases c with
  | paging c => exact decodeControl_wire_Encode_paging hcodec c hfits
  | beheraPasswordPolicy c => exact decodeControl_wire_Encode_behera hcodec c hc hfits
  | string c =>
    apply hsame
    obtain ⟨controlType, criticality, controlValue⟩ := c
    cases criticality <;> by_cases hv : controlValue = [] <;>
      simp [Control.Encode, hv, Encode, hcodec.wire_NewString, hcodec.wire_NewBoolean]
  | manageDsaIT c =>
    apply hsame
    obtain ⟨criticality⟩ := c
    cases criticality <;> simp [Control.Encode, Encode, hcodec.wire_NewString, hcodec.wire_NewBoolean]
  | vChuPasswordWarning c =>
    apply hsame
    simp [Control.Encode, Encode, hcodec.wire_NewString]
  | microsoftNotification | microsoftServerLinkTTL | microsoftShowDeleted | vChuPasswordMustChange _ =>
    apply hsame
    simp [Control.Encode, Encode, hcodec.wire_NewString]

end Wire

/-- Controls that keep their type's invariant read back as themselves, both
from the packet the encoder builds and from the packet read off its octets. -/
theorem controls_round_trip (codec : Codec) (hcodec : codec.Lawful) (c : Control) (hc : c.Valid)
    (hfits : (c.Encode codec).Fits) :
    decodeControl codec (c.Encode codec) = .ok c ∧
      ∃ p, codec.decodePacketErr (codec.bytes (c.Encode codec)) = .ok p ∧ decodeControl codec p = .ok c :=
  ⟨decodeControl_Encode hcodec c hc, _,
    hcodec.decodePacketErr_bytes _ ((Control.Encode_built c).wellFormed codec) hfits,
    decodeControl_wire_Encode hcodec c hc hfits⟩

theorem controls_round_trip_paging :
    (Control.paging ⟨10, [1, 2]⟩).Valid ∧ ((Control.paging ⟨10, [1, 2]⟩).Encode tlvCodec).Fits ∧
      decodeControl tlvCodec ((Control.paging ⟨10, [1, 2]⟩).Encode tlvCodec) = .ok (.paging ⟨10, [1, 2]⟩) ∧
      ∃ p, tlvCodec.decodePacketErr (tlvCodec.bytes ((Control.paging ⟨10, [1, 2]⟩).Encode tlvCodec)) = .ok p ∧
        decodeControl tlvCodec p = .ok (.paging ⟨10, [1, 2]⟩) := by
  have hvalid : (Control.paging ⟨10, [1, 2]⟩).Valid := trivial
  have hfits : ((Control.paging ⟨10, [1, 2]⟩).Encode tlvCodec).Fits := by decide +kernel
  exact ⟨hvalid, hfits, controls_round_trip tlvCodec tlvCodec_lawful _ hvalid hfits⟩

end Gldap
