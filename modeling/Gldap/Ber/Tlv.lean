import Gldap.Ber.Wire
import Gldap.Go.Strconv
import Mathlib.Data.Nat.Digits.Lemmas
import Mathlib.Tactic.NormNum
import Mathlib.Tactic.Positivity
import Mathlib.Tactic.Ring

/-! X.690 tag-length-value octets, and a packet codec built on them.

A packet is written as its identifier octets (class, form and tag, the tag in
the high-tag-number form from 31 on), its length octets (the short form below
128, the definite long form above) and its content octets. Integers are
written in the fewest two's complement octets. `tlvCodec` writes and reads
packets this way, and it meets every law that the development assumes of
go-asn1-ber (`tlvCodec_lawful`), so it instantiates `Codec` wherever a closed
statement needs one.
-/

set_option autoImplicit false

namespace Ber

open Go

def encodeIdentifier (cl : Class) (ty : TagType) (tag : Nat) : GoString :=
  if tag < 31 then [(cl.value + ty.value + tag).toUInt8]
  else
    -- every group of seven bits but the last carries the continuation bit
    let groups := bigEndian 128 tag
    (cl.value + ty.value + 31).toUInt8 ::
      (groups.dropLast.map fun g => (g + 0x80).toUInt8) ++ groups.getLast?.toList.map Nat.toUInt8

def encodeLength (n : Nat) : GoString :=
  if n < 128 then [n.toUInt8]
  else
    let octets := bigEndian 256 n
    (0x80 + octets.length).toUInt8 :: octets.map Nat.toUInt8

/-- The octets of a packet: identifier, length of the content, content. -/
def tlvBytes (p : Packet) : GoString :=
  encodeIdentifier p.classType p.tagType p.tag ++ encodeLength p.data.length ++ p.data

/-- How many octets the two's complement form of `i` takes. -/
def integerLength (i : Int) : Nat :=
  ((List.range 8).find? fun k => -(2 ^ (8 * k + 7)) ≤ i ∧ i < 2 ^ (8 * k + 7)).getD 7 + 1

def encodeInteger (i : Int64) : GoString :=
  (List.range (integerLength i.toInt)).reverse.map fun k => (i.toUInt64 >>> (8 * k).toUInt64).toUInt8

/-- Content octets read back as a sign-extended integer of at most 8 octets. -/
def readInteger (octets : GoString) : Except GoError Int64 :=
  if 8 < octets.length then .error (.new "integer too large")
  else
    let magnitude : Nat := octets.foldl (fun acc b => acc * 256 + b.toNat) 0
    let negative := match octets with
      | b :: _ => decide (128 ≤ b.toNat)
      | [] => false
    .ok (Int64.ofInt (if negative then magnitude - 2 ^ (8 * octets.length) else magnitude))

def readTagNumber (acc : Nat) : GoString → Option (Nat × GoString)
  | [] => none
  | b :: rest => if b.toNat < 128 then some (acc * 128 + b.toNat, rest)
    else readTagNumber (acc * 128 + (b.toNat - 128)) rest

def readIdentifier : GoString → Option (Class × TagType × Nat × GoString)
  | [] => none
  | b :: rest =>
    let cl : Class := match b.toNat / 64 with
      | 0 => .universal
      | 1 => .application
      | 2 => .context
      | _ => .private
    let ty : TagType := if b.toNat / 32 % 2 = 0 then .primitive else .constructed
    if b.toNat % 32 < 31 then some (cl, ty, b.toNat % 32, rest)
    else (readTagNumber 0 rest).map fun (tag, rest) => (cl, ty, tag, rest)

/-- Definite lengths only. -/
def readLength : GoString → Option (Nat × GoString)
  | [] => none
  | b :: rest =>
    if b.toNat < 128 then some (b.toNat, rest)
    else if b.toNat = 128 ∨ rest.length < b.toNat - 128 then none
    else some ((rest.take (b.toNat - 128)).foldl (fun acc x => acc * 256 + x.toNat) 0,
      rest.drop (b.toNat - 128))

mutual

/-- One packet from the front of the octets; `fuel` bounds the nesting and
the number of siblings, and the length of the input is always enough. -/
def readTlv : Nat → GoString → Except GoError (Packet × GoString)
  | 0, _ => .error ErrUnexpectedEOF
  | fuel + 1, octets =>
    match readIdentifier octets with
    | none => .error ErrUnexpectedEOF
    | some (cl, ty, tag, rest) =>
      match readLength rest with
      | none => .error ErrUnexpectedEOF
      | some (len, rest) =>
        if rest.length < len then .error ErrUnexpectedEOF
        else
          let content := rest.take len
          match ty with
          | .constructed => do
            let children ← readTlvs fuel content
            .ok (⟨cl, ty, tag, .nil, content, children⟩, rest.drop len)
          | .primitive =>
            .ok (⟨cl, ty, tag, decodedValue readInteger id cl tag content, content, []⟩, rest.drop len)

/-- The packets that make up some content octets, to the last octet. -/
def readTlvs : Nat → GoString → Except GoError (List Packet)
  | _, [] => .ok []
  | 0, _ :: _ => .error ErrUnexpectedEOF
  | fuel + 1, octets => do
    let (child, rest) ← readTlv fuel octets
    let children ← readTlvs fuel rest
    .ok (child :: children)

end

def tlvCodec : Codec where
  bytes := tlvBytes
  encodeInteger := encodeInteger
  parseInt64 := readInteger
  decodePacketErr octets := (readTlv (octets.length + 1) octets).map Prod.fst
  decodeString := id

/-! ### Integers -/

theorem toUInt64_toNat_eq_emod (i : Int64) : (i.toUInt64.toNat : Int) = i.toInt % 2 ^ 64 := by
  have hlt := i.toUInt64.toNat_lt
  rw [Int64.toInt, BitVec.toInt_eq_toNat_bmod, Int64.toNat_toBitVec, Int.bmod]
  split <;> omega

/-- The octet `encodeInteger` writes at position `k` from the right. -/
theorem octet_toNat (u : UInt64) {k : Nat} (hk : k < 8) :
    ((u >>> (8 * k).toUInt64).toUInt8).toNat = u.toNat / 256 ^ k % 256 := by
  have hk64 : (8 * k).toUInt64.toNat = 8 * k := UInt64.toNat_ofNat_of_lt' (by unfold UInt64.size; omega)
  have hshift : (8 * k).toUInt64.toNat % 64 = 8 * k := by
    rw [hk64, Nat.mod_eq_of_lt (by omega)]
  simp only [UInt64.toNat_toUInt8, UInt64.toNat_shiftRight, Nat.shiftRight_eq_div_pow, hshift, pow_mul]
  rfl

/-- The low `L` octets, most significant first, read back as their value. -/
theorem foldl_octets (u : UInt64) (acc : Nat) {L : Nat} (hL : L ≤ 8) :
    ((List.range L).reverse.map fun k => (u >>> (8 * k).toUInt64).toUInt8).foldl
      (fun acc b => acc * 256 + b.toNat) acc = acc * 256 ^ L + u.toNat % 256 ^ L := by
  induction L generalizing acc with
  | zero => simp [Nat.mod_one]
  | succ L ih =>
    rw [List.range_succ, List.reverse_append, List.reverse_singleton, List.singleton_append,
      List.map_cons, List.foldl_cons, ih _ (by omega), octet_toNat u (by omega), Nat.mod_pow_succ,
      pow_succ]
    ring

theorem integerLength_spec (i : Int64) :
    1 ≤ integerLength i.toInt ∧ integerLength i.toInt ≤ 8 ∧
      -(2 ^ (8 * integerLength i.toInt - 1)) ≤ i.toInt ∧ i.toInt < 2 ^ (8 * integerLength i.toInt - 1) := by
  unfold integerLength
  cases h : (List.range 8).find? (fun k => decide (-(2 ^ (8 * k + 7)) ≤ i.toInt ∧ i.toInt < 2 ^ (8 * k + 7))) with
  | none =>
    -- no shorter form fits: eight octets, the whole range of an int64
    exact ⟨by simp, by simp, i.le_toInt, i.toInt_lt⟩
  | some k =>
    have hfound := List.find?_some h
    have hp := of_decide_eq_true hfound
    have hk := List.mem_range.mp (List.mem_of_find?_eq_some h)
    have hbits : 8 * (k + 1) - 1 = 8 * k + 7 := by omega
    simp only [Option.getD_some, hbits]
    exact ⟨by omega, by omega, hp.1, hp.2⟩

/-- Sign extension of a window of `256 P` values whose top octet is `b`: the
value comes back when it lies in the window's signed range. -/
theorem signExtend_window {t : Int} {X r b P : Nat} (hsplit : X = r + P * b) (hr : r < P)
    (hb : b < 256) (hwindow : (X : Int) = t % (256 * P)) (hlo : -(128 * P : Int) ≤ t)
    (hhi : t < 128 * P) :
    (if 128 ≤ b then (X : Int) - 256 * P else X) = t := by
  -- a negative t sits in the upper half of the window, a non-negative one in the lower
  have hneg : t < 0 → t % (256 * (P : Int)) = t + 256 * P := fun h => by
    rw [← Int.add_emod_right, Int.emod_eq_of_lt (by omega) (by omega)]
  have hnonneg : 0 ≤ t → t % (256 * (P : Int)) = t := fun h => Int.emod_eq_of_lt h (by omega)
  split_ifs with htop
  · have hupper : P * 128 ≤ P * b := Nat.mul_le_mul_left _ htop
    by_cases ht : t < 0
    · rw [hneg ht] at hwindow
      omega
    · rw [hnonneg (by omega)] at hwindow
      omega
  · have hlower : P * b ≤ P * 127 := Nat.mul_le_mul_left _ (by omega)
    by_cases ht : t < 0
    · rw [hneg ht] at hwindow
      omega
    · rw [hnonneg (by omega)] at hwindow
      omega

theorem readInteger_encodeInteger (i : Int64) : readInteger (encodeInteger i) = .ok i := by
  obtain ⟨hpos, hle, hlo, hhi⟩ := integerLength_spec i
  obtain ⟨m, hm⟩ : ∃ m, integerLength i.toInt = m + 1 := ⟨integerLength i.toInt - 1, by omega⟩
  have hm8 : m < 8 := by omega
  rw [hm] at hlo hhi
  -- the octets, the most significant first
  have hoctets : encodeInteger i = (i.toUInt64 >>> (8 * m).toUInt64).toUInt8 ::
      ((List.range m).reverse.map fun k => (i.toUInt64 >>> (8 * k).toUInt64).toUInt8) := by
    rw [encodeInteger, hm, List.range_succ, List.reverse_append]
    rfl
  have hlen : (encodeInteger i).length = m + 1 := by simp [encodeInteger, hm]
  have hmag : (encodeInteger i).foldl (fun acc b => acc * 256 + b.toNat) 0 =
      i.toUInt64.toNat % 256 ^ (m + 1) := by
    rw [encodeInteger, hm, foldl_octets _ _ (by omega)]
    simp
  -- the widths in terms of the weight 256 ^ m of the top octet
  have hhalf : (2 : Int) ^ (8 * (m + 1) - 1) = 128 * (256 ^ m : Nat) := by
    rw [show 8 * (m + 1) - 1 = 7 + 8 * m by omega, pow_add, pow_mul]
    push_cast
    ring
  have hwidth : (2 : Int) ^ (8 * (m + 1)) = 256 * (256 ^ m : Nat) := by
    rw [pow_mul]
    push_cast
    ring
  have hdvd : ((256 ^ (m + 1) : Nat) : Int) ∣ 2 ^ 64 := by
    have h := Nat.pow_dvd_pow 256 (show m + 1 ≤ 8 by omega)
    exact_mod_cast h
  have hwindow : ((i.toUInt64.toNat % 256 ^ (m + 1) : Nat) : Int) =
      i.toInt % (256 * (256 ^ m : Nat) : Nat) := by
    rw [Int.natCast_emod, toUInt64_toNat_eq_emod i, Int.emod_emod_of_dvd _ hdvd, pow_succ, Nat.mul_comm]
  unfold readInteger
  rw [hlen, hmag, hoctets]
  simp only [octet_toNat i.toUInt64 hm8, if_neg (show ¬(8 < m + 1) by omega), decide_eq_true_eq, hwidth]
  rw [hhalf] at hlo hhi
  push_cast at hwindow
  rw [signExtend_window Nat.mod_pow_succ (Nat.mod_lt _ (by positivity)) (Nat.mod_lt _ (by norm_num))
    hwindow hlo hhi, Int64.ofInt_toInt]

theorem encodeInteger_small (n : Int64) (h0 : 0 ≤ n) (h128 : n < 128) :
    encodeInteger n = [n.toUInt64.toUInt8] := by
  have ht0 : 0 ≤ n.toInt := Int64.le_iff_toInt_le.mp h0
  have ht128 : n.toInt < 128 := Int64.lt_iff_toInt_lt.mp h128
  -- the one-octet form already fits
  have hlen : integerLength n.toInt = 1 := by
    rw [integerLength, show List.range 8 = 0 :: List.range' 1 7 from rfl,
      List.find?_cons_of_pos (by simp; omega)]
    rfl
  simp [encodeInteger, hlen]

/-! ### Identifier and length octets -/

/-- The continuation octets of a tag read back as the groups they carry. -/
theorem readTagNumber_groups (acc : Nat) (groups : List Nat) (last : Nat) (rest : GoString)
    (hgroups : ∀ g ∈ groups, g < 128) (hlast : last < 128) :
    readTagNumber acc (groups.map (fun g => (g + 0x80).toUInt8) ++ [last.toUInt8] ++ rest) =
      some ((groups ++ [last]).foldl (fun acc g => acc * 128 + g) acc, rest) := by
  induction groups generalizing acc with
  | nil =>
    have hbyte : last.toUInt8.toNat = last := by simp; omega
    simp [readTagNumber, hbyte, hlast]
  | cons g groups ih =>
    have hg := hgroups g (by simp)
    have hbyte : (g + 0x80).toUInt8.toNat = g + 128 := by simp; omega
    simp only [List.map_cons, List.cons_append, readTagNumber, hbyte, List.foldl_cons]
    rw [if_neg (by omega), Nat.add_sub_cancel]
    exact ih _ fun x hx => hgroups x (by simp [hx])

theorem readIdentifier_encodeIdentifier (cl : Class) (ty : TagType) (tag : Nat) (rest : GoString) :
    readIdentifier (encodeIdentifier cl ty tag ++ rest) = some (cl, ty, tag, rest) := by
  -- the class takes the top two bits of the first octet, the form the next one
  have hcl : ∀ low < 32, (cl.value + ty.value + low) / 64 = cl.value / 64 := by
    intro low hlow
    cases cl <;> cases ty <;> simp only [Class.value, TagType.value] <;> omega
  have hty : ∀ low < 32, (cl.value + ty.value + low) / 32 % 2 = ty.value / 32 := by
    intro low hlow
    cases cl <;> cases ty <;> simp only [Class.value, TagType.value] <;> omega
  have hlow : ∀ low < 32, (cl.value + ty.value + low) % 32 = low := by
    intro low hlow
    cases cl <;> cases ty <;> simp only [Class.value, TagType.value] <;> omega
  have hbyte : ∀ low < 32, ((cl.value + ty.value + low).toUInt8).toNat = cl.value + ty.value + low := by
    intro low hlow
    cases cl <;> cases ty <;> simp only [Class.value, TagType.value, Nat.toUInt8, UInt8.toNat_ofNat'] <;> omega
  have hform : (if ty.value / 32 = 0 then TagType.primitive else TagType.constructed) = ty := by
    cases ty <;> rfl
  by_cases hsmall : tag < 31
  · simp only [encodeIdentifier, if_pos hsmall, List.singleton_append, readIdentifier,
      hbyte tag (by omega), hcl tag (by omega), hty tag (by omega), hlow tag (by omega), hform]
    cases cl <;> rfl
  · -- the high-tag-number form: the tag in groups of seven bits, all but the last flagged
    have hne : bigEndian 128 tag ≠ [] := by
      simp only [bigEndian, ne_eq, List.reverse_eq_nil_iff, Nat.digits_eq_nil_iff_eq_zero]
      omega
    obtain ⟨init, last, hgroups⟩ : ∃ init last, bigEndian 128 tag = init ++ [last] :=
      ⟨_, _, (List.dropLast_concat_getLast hne).symm⟩
    have hlt : ∀ g ∈ init ++ [last], g < 128 := fun g hg => bigEndian_lt (by norm_num) (hgroups ▸ hg)
    have hread := readTagNumber_groups 0 init last rest (fun g hg => hlt g (by simp [hg]))
      (hlt last (by simp))
    rw [← hgroups, foldl_bigEndian] at hread
    simp only [encodeIdentifier, if_neg hsmall, hgroups, List.dropLast_concat, List.getLast?_concat,
      Option.toList_some, List.map_cons, List.map_nil, List.cons_append, readIdentifier,
      hbyte 31 (by omega), hlow 31 (by omega), hcl 31 (by omega), hty 31 (by omega), hform]
    simp only [List.append_assoc, List.singleton_append] at hread ⊢
    rw [if_neg (by omega), hread]
    cases cl <;> rfl

/-- The long form of a length below `2 ^ 64` has one to eight length octets. -/
theorem bigEndian_length_bounds {n : Nat} (hlong : ¬n < 128) (hn : n < 2 ^ 64) :
    0 < (bigEndian 256 n).length ∧ (bigEndian 256 n).length ≤ 8 := by
  constructor
  · simp only [bigEndian, List.length_reverse, List.length_pos_iff, ne_eq, Nat.digits_eq_nil_iff_eq_zero]
    omega
  · rw [bigEndian, List.length_reverse, @Nat.digits_length_le_iff 256 8 (by norm_num) n]
    omega

theorem readLength_encodeLength (n : Nat) (rest : GoString) (hn : n < 2 ^ 64) :
    readLength (encodeLength n ++ rest) = some (n, rest) := by
  by_cases hshort : n < 128
  · have hbyte : n.toUInt8.toNat = n := by simp; omega
    simp [encodeLength, hshort, readLength, hbyte]
  · -- the definite long form: how many length octets follow, then the octets
    obtain ⟨hpos, hcount⟩ := bigEndian_length_bounds hshort hn
    have hfirst : (0x80 + (bigEndian 256 n).length).toUInt8.toNat = 128 + (bigEndian 256 n).length := by
      rw [Nat.toUInt8, UInt8.toNat_ofNat']
      omega
    -- every octet is a base-256 digit, which a byte holds as it is
    have hoctets : ((bigEndian 256 n).map Nat.toUInt8).map UInt8.toNat = bigEndian 256 n := by
      rw [List.map_map]
      conv_rhs => rw [← List.map_id (bigEndian 256 n)]
      apply List.map_congr_left
      intro d hd
      have := bigEndian_lt (by norm_num) hd
      simp
      omega
    have hvalue : ((bigEndian 256 n).map Nat.toUInt8).foldl (fun acc x => acc * 256 + x.toNat) 0 = n := by
      have h := foldl_bigEndian 256 n
      rw [← hoctets, List.foldl_map] at h
      exact h
    have hwidth : ((bigEndian 256 n).map Nat.toUInt8).length = (bigEndian 256 n).length :=
      List.length_map _
    have hlong : ¬(128 + (bigEndian 256 n).length < 128) := by omega
    have henough : ¬(128 + (bigEndian 256 n).length = 128 ∨
        ((bigEndian 256 n).map Nat.toUInt8 ++ rest).length < (bigEndian 256 n).length) := by
      simp only [List.length_append, List.length_map]
      omega
    simp only [encodeLength, if_neg hshort, List.cons_append, readLength, hfirst]
    simp only [hlong, henough, if_false, Nat.add_sub_cancel_left, List.take_left' hwidth,
      List.drop_left' hwidth, hvalue]

/-! ### Packets -/

theorem tlvBytes_length (p : Packet) : p.data.length + 2 ≤ (tlvBytes p).length := by
  -- the identifier and the length take an octet each at least
  have hid : 1 ≤ (encodeIdentifier p.classType p.tagType p.tag).length := by
    unfold encodeIdentifier
    split <;> simp
  have hlen : 1 ≤ (encodeLength p.data.length).length := by
    unfold encodeLength
    split <;> simp
  simp only [tlvBytes, List.length_append]
  omega

/-- The octets of well-formed packets read back as their wire form: one packet
from enough fuel, and a run of siblings from fuel for their octets. -/
theorem readTlv_tlvBytes (fuel : Nat) :
    (∀ (p : Packet) (rest : GoString), p.WellFormed tlvCodec → p.Fits →
      (tlvBytes p).length ≤ fuel + 1 → readTlv fuel (tlvBytes p ++ rest) = .ok (p.wire tlvCodec, rest)) ∧
    (∀ ps : List Packet, (∀ p ∈ ps, p.WellFormed tlvCodec ∧ p.Fits) →
      (ps.flatMap tlvBytes).length ≤ fuel →
      readTlvs fuel (ps.flatMap tlvBytes) = .ok (ps.map (Packet.wire tlvCodec))) := by
  induction fuel with
  | zero =>
    refine ⟨fun p rest _ _ hlen => absurd hlen (by have := tlvBytes_length p; omega), ?_⟩
    -- without fuel only the empty run reads back
    intro ps _ hlen
    cases ps with
    | nil => simp [readTlvs]
    | cons p ps =>
      have := tlvBytes_length p
      simp only [List.flatMap_cons, List.length_append] at hlen
      omega
  | succ fuel ih =>
    constructor
    · intro p rest hwf hfits hlen
      have hsize := tlvBytes_length p
      obtain ⟨cl, ty, tag, value, data, children⟩ := p
      have hdata : data.length < 2 ^ 63 := hfits.data
      simp only [tlvBytes, List.append_assoc] at hlen hsize ⊢
      rw [readTlv.eq_2, readIdentifier_encodeIdentifier]
      dsimp only
      rw [readLength_encodeLength _ _ (by omega)]
      dsimp only
      simp only [List.length_append, show ¬(data.length + rest.length < data.length) by omega, if_false,
        List.take_left' rfl, List.drop_left' rfl]
      cases ty with
      | constructed =>
        -- the content is the children's octets, which read back with the fuel left
        obtain ⟨hcontent, hall⟩ := hwf
        change data = children.flatMap tlvBytes at hcontent
        have hchildren := ih.2 children
          (fun c hc => ⟨(allWellFormed_iff tlvCodec children).mp hall c hc, hfits.child hc⟩)
          (by simp only [List.length_append] at hlen hsize; rw [← hcontent]; omega)
        simp only [List.length_append] at hlen
        rw [← hcontent] at hchildren
        simp [hchildren, Packet.wire, wireAll_eq_map, Bind.bind, Except.bind]
      | primitive => simp [Packet.wire, tlvCodec]
    · intro ps hps hlen
      cases ps with
      | nil => simp [readTlvs]
      | cons p ps =>
        have hp := hps p (by simp)
        have hsize := tlvBytes_length p
        simp only [List.flatMap_cons, List.length_append] at hlen ⊢
        have hfirst : (tlvBytes p).length ≤ fuel + 1 := by omega
        rw [readTlvs.eq_3 _ _ (by
          intro hnil
          have hzero := congrArg List.length hnil
          simp only [List.length_append, List.length_nil] at hzero
          omega),
          ih.1 p _ hp.1 hp.2 hfirst]
        have hrest := ih.2 ps (fun q hq => hps q (by simp [hq])) (by omega)
        simp [hrest, Bind.bind, Except.bind]

theorem tlvCodec_lawful : tlvCodec.Lawful where
  parseInt64_encodeInteger := readInteger_encodeInteger
  encodeInteger_small := encodeInteger_small
  decodeString_eq _ := rfl
  decodePacketErr_bytes p hwf hfits := by
    have hread := (readTlv_tlvBytes ((tlvBytes p).length + 1)).1 p [] hwf hfits (by omega)
    rw [List.append_nil] at hread
    simp [tlvCodec, hread, Except.map]

end Ber
