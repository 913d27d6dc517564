import Gldap.Go.Runtime

/-! Packets of go-asn1-ber, the BER library every request is read with.

A `ber.Packet` is a tree: an identifier (class, primitive or constructed,
tag), a decoded `Value`, the content octets `Data` and the child packets. The
library is not part of the repository. Its serialisation and its integer and
string codecs enter as the fields of `Codec`; the constructors below set the
packet fields as the library documents it. A packet's `Description` is only
ever printed and is left out.
-/

set_option autoImplicit false

namespace Ber

open Go

/-- `ber.Class`: the two class bits of the identifier octet. -/
inductive Class where
  | universal
  | application
  | context
  | «private»
  deriving Repr, DecidableEq

/-- The numeric value of `ber.ClassUniversal` and its siblings. -/
def Class.value : Class → Nat
  | universal => 0x00
  | application => 0x40
  | context => 0x80
  | «private» => 0xC0

/-- `ber.Type`: primitive or constructed encoding. -/
inductive TagType where
  | primitive
  | constructed
  deriving Repr, DecidableEq

def TagType.value : TagType → Nat
  | primitive => 0x00
  | constructed => 0x20

def TagEOC : Nat := 0x00
def TagBoolean : Nat := 0x01
def TagInteger : Nat := 0x02
def TagOctetString : Nat := 0x04
def TagEnumerated : Nat := 0x0a
def TagSequence : Nat := 0x10
def TagSet : Nat := 0x11
def TagGeneralString : Nat := 0x1b

/-- `ber.Packet`. -/
structure Packet where
  classType : Class
  tagType : TagType
  tag : Nat
  value : GoValue
  data : GoString
  children : List Packet
  deriving Repr

/-- The parts of go-asn1-ber that the server calls but does not define. -/
structure Codec where
  /-- `(*Packet).Bytes`: identifier, length and content octets. -/
  bytes : Packet → GoString
  /-- `encodeInteger`: the two's complement content octets of an INTEGER. -/
  encodeInteger : Int64 → GoString
  /-- `ParseInt64`: read content octets back as an integer. -/
  parseInt64 : GoString → Except GoError Int64
  /-- `DecodePacketErr`: read one packet from its encoding. -/
  decodePacketErr : GoString → Except GoError Packet
  /-- `DecodeString`: the string held by content octets. -/
  decodeString : GoString → GoString

/-- `ber.Encode(class, type, tag, nil, description)`; every call in the source
passes a nil value. -/
def Encode (classType : Class) (tagType : TagType) (tag : Nat) : Packet :=
  { classType := classType, tagType := tagType, tag := tag, value := .nil, data := [],
    children := [] }

/-- `ber.NewString`: the string is both the value and the content octets. -/
def NewString (classType : Class) (tagType : TagType) (tag : Nat) (s : GoString) : Packet :=
  { Encode classType tagType tag with value := .string s, data := s }

section Constructors

variable (codec : Codec)

/-- `ber.NewInteger`. The callers that read the value back pass an `int64`. -/
def NewInteger (classType : Class) (tagType : TagType) (tag : Nat) (n : Int64) : Packet :=
  { Encode classType tagType tag with value := .int64 n, data := codec.encodeInteger n }

@[simp] theorem NewInteger_value (classType : Class) (tagType : TagType) (tag : Nat) (n : Int64) :
    (NewInteger codec classType tagType tag n).value = .int64 n := rfl

/-- `ber.NewBoolean`: the content octets are those of the integer 0 or 1. -/
def NewBoolean (classType : Class) (tagType : TagType) (tag : Nat) (b : Bool) : Packet :=
  { Encode classType tagType tag with
    value := .bool b, data := codec.encodeInteger (if b then 1 else 0) }

/-- `(*Packet).AppendChild`: the child's encoding is written to the content
octets and the child joins the children. -/
def Packet.AppendChild (p child : Packet) : Packet :=
  { p with data := p.data ++ codec.bytes child, children := p.children ++ [child] }

/-- Append several children in order, as a loop of `AppendChild` calls does. -/
def Packet.AppendChildren (p : Packet) (children : List Packet) : Packet :=
  children.foldl (Packet.AppendChild codec) p

@[simp] theorem AppendChild_children (p child : Packet) :
    (p.AppendChild codec child).children = p.children ++ [child] := rfl

@[simp] theorem AppendChild_identifier (p child : Packet) :
    (p.AppendChild codec child).classType = p.classType ∧
      (p.AppendChild codec child).tagType = p.tagType ∧
      (p.AppendChild codec child).tag = p.tag ∧ (p.AppendChild codec child).value = p.value :=
  ⟨rfl, rfl, rfl, rfl⟩

@[simp] theorem AppendChildren_children (p : Packet) (children : List Packet) :
    (p.AppendChildren codec children).children = p.children ++ children := by
  induction children generalizing p with
  | nil => simp [Packet.AppendChildren]
  | cons child rest ih =>
    simp only [Packet.AppendChildren, List.foldl_cons] at ih ⊢
    rw [ih]
    simp

@[simp] theorem Encode_children (classType : Class) (tagType : TagType) (tag : Nat) :
    (Encode classType tagType tag).children = [] := rfl

theorem Encode_AppendChildren_children (classType : Class) (tagType : TagType) (tag : Nat)
    (children : List Packet) : ((Encode classType tagType tag).AppendChildren codec children).children = children := by
  simp

@[simp] theorem AppendChildren_data (p : Packet) (children : List Packet) :
    (p.AppendChildren codec children).data = p.data ++ children.flatMap codec.bytes := by
  induction children generalizing p with
  | nil => simp [Packet.AppendChildren]
  | cons child rest ih =>
    simp only [Packet.AppendChildren, List.foldl_cons] at ih ⊢
    rw [ih]
    simp [Packet.AppendChild]

@[simp] theorem AppendChildren_identifier (p : Packet) (children : List Packet) :
    (p.AppendChildren codec children).classType = p.classType ∧
      (p.AppendChildren codec children).tagType = p.tagType ∧
      (p.AppendChildren codec children).tag = p.tag ∧
      (p.AppendChildren codec children).value = p.value := by
  induction children generalizing p with
  | nil => simp [Packet.AppendChildren]
  | cons child rest ih =>
    simp only [Packet.AppendChildren, List.foldl_cons] at ih ⊢
    exact ih _

end Constructors

end Ber
