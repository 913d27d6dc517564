import Gldap.Ber.Packet
import Mathlib.Algebra.Group.Nat.Defs

/-! What go-asn1-ber does when it reads a packet back from its octets, and the
laws of its codec that the decoders of this development rely on.

The reader keeps each identifier and each content string. It reads the
children of a constructed packet out of its content; a primitive packet comes
back with no children, whatever was appended to it, and with the value that
its class and tag call for. A packet reads back this way when its content
octets are those of its children (the constructors keep that so) and every
content string fits a Go slice.
-/

set_option autoImplicit false

namespace Ber

open Go

/-- The value the reader gives a primitive packet: a bool for a universal
BOOLEAN, an int64 for a universal INTEGER or ENUMERATED, a string for a
universal OCTET STRING, and nil for the other tags read here and for the other
classes. -/
def decodedValue (parseInt64 : GoString → Except GoError Int64) (decodeString : GoString → GoString)
    (cl : Class) (tag : Nat) (content : GoString) : GoValue :=
  if cl ≠ .universal then .nil
  else if tag = TagBoolean then
    match parseInt64 content with
    | .ok v => .bool (v ≠ 0)
    | .error _ => .bool false
  else if tag = TagInteger ∨ tag = TagEnumerated then
    match parseInt64 content with
    | .ok v => .int64 v
    | .error _ => .int64 0
  else if tag = TagOctetString then .string (decodeString content)
  else .nil

section Wire

variable (codec : Codec)

mutual

/-- A packet as the reader returns it from the packet's octets. -/
def Packet.wire : Packet → Packet
  | ⟨cl, .constructed, tag, _, data, children⟩ =>
    ⟨cl, .constructed, tag, .nil, data, Packet.wireAll children⟩
  | ⟨cl, .primitive, tag, _, data, _⟩ =>
    ⟨cl, .primitive, tag, decodedValue codec.parseInt64 codec.decodeString cl tag data, data, []⟩

def Packet.wireAll : List Packet → List Packet
  | [] => []
  | p :: ps => p.wire :: Packet.wireAll ps

end

mutual

/-- The content octets of a packet are the octets of its children, as
`AppendChild` writes them; a primitive packet may instead have no children. -/
def Packet.WellFormed : Packet → Prop
  | ⟨_, .constructed, _, _, data, children⟩ =>
    data = children.flatMap codec.bytes ∧ Packet.AllWellFormed children
  | ⟨_, .primitive, _, _, data, children⟩ =>
    (children = [] ∨ data = children.flatMap codec.bytes) ∧ Packet.AllWellFormed children

def Packet.AllWellFormed : List Packet → Prop
  | [] => True
  | p :: ps => p.WellFormed ∧ Packet.AllWellFormed ps

end

theorem wireAll_eq_map (ps : List Packet) : Packet.wireAll codec ps = ps.map (Packet.wire codec) := by
  induction ps with
  | nil => rfl
  | cons p ps ih => simp [Packet.wireAll, ih]

theorem allWellFormed_iff (ps : List Packet) :
    Packet.AllWellFormed codec ps ↔ ∀ p ∈ ps, p.WellFormed codec := by
  induction ps with
  | nil => simp [Packet.AllWellFormed]
  | cons p ps ih => simp [Packet.AllWellFormed, ih]

/-- The invariant the constructors keep: the content octets are those of the
children, each of which is well formed. -/
def Packet.Built (p : Packet) : Prop :=
  p.data = p.children.flatMap codec.bytes ∧ ∀ c ∈ p.children, c.WellFormed codec

theorem Packet.Built.wellFormed {p : Packet} (hp : p.Built codec) : p.WellFormed codec := by
  obtain ⟨cl, ty, tag, value, data, children⟩ := p
  obtain ⟨hdata, hall⟩ := hp
  have hchildren := (allWellFormed_iff codec children).mpr hall
  cases ty
  · exact ⟨.inr hdata, hchildren⟩
  · exact ⟨hdata, hchildren⟩

@[simp] theorem built_Encode (cl : Class) (ty : TagType) (tag : Nat) : (Encode cl ty tag).Built codec := by
  simp [Packet.Built, Encode]

@[simp] theorem built_AppendChild_iff (p child : Packet) :
    (p.AppendChild codec child).Built codec ↔ p.Built codec ∧ child.WellFormed codec := by
  simp [Packet.Built, Packet.AppendChild, or_imp, forall_and, and_assoc]

/-- A primitive packet with no children is well formed. -/
theorem wellFormed_of_leaf {p : Packet} (hty : p.tagType = .primitive) (hnil : p.children = []) :
    p.WellFormed codec := by
  obtain ⟨cl, ty, tag, value, data, children⟩ := p
  simp only at hty hnil
  subst hty hnil
  exact ⟨.inl rfl, trivial⟩

/-- A packet with children is well formed exactly when it is built. -/
theorem wellFormed_iff_built {p : Packet} (h : p.children ≠ []) : p.WellFormed codec ↔ p.Built codec := by
  obtain ⟨cl, ty, tag, value, data, children⟩ := p
  cases ty <;> simp_all [Packet.WellFormed, Packet.Built, allWellFormed_iff]

@[simp] theorem wellFormed_AppendChild_iff (p child : Packet) :
    (p.AppendChild codec child).WellFormed codec ↔ p.Built codec ∧ child.WellFormed codec :=
  (wellFormed_iff_built codec (by simp)).trans (built_AppendChild_iff codec p child)

@[simp] theorem built_AppendChildren_iff (p : Packet) (cs : List Packet) :
    (p.AppendChildren codec cs).Built codec ↔ p.Built codec ∧ ∀ c ∈ cs, c.WellFormed codec := by
  induction cs generalizing p with
  | nil => simp [Packet.AppendChildren]
  | cons c cs ih =>
    simp only [Packet.AppendChildren, List.foldl_cons] at ih ⊢
    simp [ih, and_assoc]

/-- A constructed packet is well formed exactly when it is built. -/
theorem wellFormed_iff_built_of_constructed {p : Packet} (hty : p.tagType = .constructed) :
    p.WellFormed codec ↔ p.Built codec := by
  obtain ⟨cl, ty, tag, value, data, children⟩ := p
  simp only at hty
  subst hty
  simp [Packet.WellFormed, Packet.Built, allWellFormed_iff]

@[simp] theorem wellFormed_Encode_AppendChildren (cl : Class) (tag : Nat) (cs : List Packet) :
    ((Encode cl .constructed tag).AppendChildren codec cs).WellFormed codec ↔ ∀ c ∈ cs, c.WellFormed codec := by
  rw [wellFormed_iff_built_of_constructed codec (by simp [Encode])]
  simp

@[simp] theorem wellFormed_NewString (cl : Class) (tag : Nat) (s : GoString) :
    (NewString cl .primitive tag s).WellFormed codec :=
  wellFormed_of_leaf codec rfl rfl

@[simp] theorem wellFormed_NewInteger (cl : Class) (tag : Nat) (n : Int64) :
    (NewInteger codec cl .primitive tag n).WellFormed codec :=
  wellFormed_of_leaf codec rfl rfl

@[simp] theorem wellFormed_NewBoolean (cl : Class) (tag : Nat) (b : Bool) :
    (NewBoolean codec cl .primitive tag b).WellFormed codec :=
  wellFormed_of_leaf codec rfl rfl

/-! The reader keeps identifiers and content octets. -/

@[simp] theorem wire_tag (p : Packet) : (p.wire codec).tag = p.tag := by
  obtain ⟨cl, ty, tag, value, data, children⟩ := p
  cases ty <;> rfl

@[simp] theorem wire_data (p : Packet) : (p.wire codec).data = p.data := by
  obtain ⟨cl, ty, tag, value, data, children⟩ := p
  cases ty <;> rfl

theorem wire_children_of_constructed {p : Packet} (hty : p.tagType = .constructed) :
    (p.wire codec).children = p.children.map (Packet.wire codec) := by
  obtain ⟨cl, ty, tag, value, data, children⟩ := p
  simp only at hty
  subst hty
  simp [Packet.wire, wireAll_eq_map]

theorem wire_children_of_primitive {p : Packet} (hty : p.tagType = .primitive) :
    (p.wire codec).children = [] := by
  obtain ⟨cl, ty, tag, value, data, children⟩ := p
  simp only at hty
  subst hty
  rfl

@[simp] theorem wire_classType (p : Packet) : (p.wire codec).classType = p.classType := by
  obtain ⟨cl, ty, tag, value, data, children⟩ := p
  cases ty <;> rfl

@[simp] theorem wire_tagType (p : Packet) : (p.wire codec).tagType = p.tagType := by
  obtain ⟨cl, ty, tag, value, data, children⟩ := p
  cases ty <;> rfl

/-- A constructed packet without a value reads back as itself when each of
its children does. -/
theorem wire_eq_self_of_constructed {p : Packet} (hty : p.tagType = .constructed) (hvalue : p.value = .nil)
    (hall : ∀ c ∈ p.children, c.wire codec = c) : p.wire codec = p := by
  obtain ⟨cl, ty, tag, value, data, children⟩ := p
  simp only at hty hvalue hall
  subst hty hvalue
  simp only [Packet.wire, wireAll_eq_map, Packet.mk.injEq, true_and]
  exact (List.map_congr_left hall).trans (List.map_id' children)

/-- A packet of a class other than universal comes back with its octets and
no value. -/
theorem wire_of_primitive_not_universal {p : Packet} (hcl : p.classType ≠ .universal)
    (hty : p.tagType = .primitive) : p.wire codec = { p with value := .nil, children := [] } := by
  obtain ⟨cl, ty, tag, value, data, children⟩ := p
  simp only at hcl hty
  subst hty
  simp [Packet.wire, decodedValue, hcl]

end Wire

mutual

/-- The content strings of a packet and of all the packets below it. -/
def Packet.contents : Packet → List GoString
  | ⟨_, _, _, _, data, children⟩ => data :: Packet.contentsAll children

def Packet.contentsAll : List Packet → List GoString
  | [] => []
  | p :: ps => p.contents ++ Packet.contentsAll ps

end

theorem contentsAll_eq_flatMap (ps : List Packet) : Packet.contentsAll ps = ps.flatMap Packet.contents := by
  induction ps with
  | nil => rfl
  | cons p ps ih => simp [Packet.contentsAll, ih]

/-- Every content string of the packet fits a Go slice, whose length is an `int`. -/
def Packet.Fits (p : Packet) : Prop := ∀ data ∈ p.contents, data.length < 2 ^ 63

instance (p : Packet) : Decidable p.Fits := inferInstanceAs (Decidable (∀ data ∈ p.contents, _))

theorem Packet.Fits.data {p : Packet} (hp : p.Fits) : p.data.length < 2 ^ 63 :=
  hp p.data (by cases p; simp [Packet.contents])

theorem Packet.Fits.child {p c : Packet} (hp : p.Fits) (hc : c ∈ p.children) : c.Fits := by
  intro data hdata
  apply hp
  cases p with
  | mk cl ty tag value content children =>
    simp only [Packet.contents, contentsAll_eq_flatMap, List.mem_cons, List.mem_flatMap]
    exact .inr ⟨c, hc, hdata⟩

/-- What the development assumes of go-asn1-ber: `ParseInt64` reads back what
`encodeInteger` writes, which for a small non-negative integer is one octet;
`DecodeString` keeps the octets; and `DecodePacketErr` reads a packet back from
its `Bytes` as `wire` says. -/
structure Codec.Lawful (codec : Codec) : Prop where
  parseInt64_encodeInteger : ∀ n, codec.parseInt64 (codec.encodeInteger n) = .ok n
  encodeInteger_small : ∀ n : Int64, 0 ≤ n → n < 128 → codec.encodeInteger n = [n.toUInt64.toUInt8]
  decodeString_eq : ∀ s, codec.decodeString s = s
  decodePacketErr_bytes : ∀ p : Packet, p.WellFormed codec → p.Fits →
    codec.decodePacketErr (codec.bytes p) = .ok (p.wire codec)

/-- A context-class integer comes back with its octets and no value. -/
theorem wire_NewInteger_context (codec : Codec) (tag : Nat) (n : Int64) :
    (NewInteger codec .context .primitive tag n).wire codec =
      { Encode .context .primitive tag with data := codec.encodeInteger n } := by
  simp [NewInteger, Encode, Packet.wire, decodedValue]

namespace Codec.Lawful

variable {codec : Codec} (hcodec : codec.Lawful)
include hcodec

/-! What the reader makes of the primitive packets the constructors build. -/

theorem wire_NewString (tag : Nat) (s : GoString) (htag : tag = TagOctetString) :
    (NewString .universal .primitive tag s).wire codec = NewString .universal .primitive tag s := by
  subst htag
  simp [NewString, Encode, Packet.wire, decodedValue, TagBoolean, TagInteger, TagEnumerated,
    TagOctetString, hcodec.decodeString_eq]

theorem wire_NewInteger (tag : Nat) (n : Int64) (htag : tag = TagInteger ∨ tag = TagEnumerated) :
    (NewInteger codec .universal .primitive tag n).wire codec = NewInteger codec .universal .primitive tag n := by
  rcases htag with rfl | rfl <;>
    simp [NewInteger, Encode, Packet.wire, decodedValue, TagBoolean, TagInteger, TagEnumerated,
      hcodec.parseInt64_encodeInteger]

theorem wire_NewBoolean (b : Bool) :
    (NewBoolean codec .universal .primitive TagBoolean b).wire codec =
      NewBoolean codec .universal .primitive TagBoolean b := by
  cases b <;> simp [NewBoolean, Encode, Packet.wire, decodedValue, TagBoolean, hcodec.parseInt64_encodeInteger]

end Codec.Lawful

end Ber
