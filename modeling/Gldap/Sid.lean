import Gldap.Go.Binary
import Gldap.Go.Strconv

/-! Security identifiers: sid.go's `SIDBytes` and `SIDBytesToString`.

The bytes of a SID are a revision, a count of sub-authorities, a 48-bit
identifier authority written big-endian as three 16-bit parts, and the
sub-authorities as little-endian 32-bit integers. `SIDBytesToString` reads
the four fields with `binary.Read`, so it fails exactly when the input ends
before the count says, and otherwise returns `sidString`, the string form of
the bytes stated without the code's split of the authority into parts.
-/

set_option autoImplicit false

namespace Gldap

open Go Go.Binary

/-- The error of `SIDBytesToString` when reading `field` fails; `%#v` prints
the whole input. -/
def sidReadFailed (b : GoString) (field : String) (err : GoError) : GoError :=
  .wrapf ("%s: SID %#v convert failed reading " ++ field ++ ": %w")
    [.str (lit "gldap.sidBytesToString"), .value (.bytes b)] err

/-- `SIDBytes`: a SID with no sub-authorities. -/
def SIDBytes (revision : UInt8) (identifierAuthority : UInt16) : Except GoError GoString :=
  let identifierAuthorityParts : List UInt16 := [0, 0, identifierAuthority]
  let subAuthorityCount : UInt8 := 0
  -- the writes go to a bytes.Buffer, so none of the three error returns is taken
  .ok (Write .littleEndian 1 [revision.toNat] ++ Write .littleEndian 1 [subAuthorityCount.toNat] ++
    Write .bigEndian 2 (identifierAuthorityParts.map UInt16.toNat))

/-- `SIDBytesToString`. -/
def SIDBytesToString (b : GoString) : Except GoError GoString := do
  let reader := b
  let (revision, reader) ← (Read .littleEndian 1 1 reader).mapError (sidReadFailed b "Revision")
  let revision := revision[0].toUInt8
  let (subAuthorityCount, reader) ← (Read .littleEndian 1 1 reader).mapError
    (sidReadFailed b "SubAuthorityCount")
  let subAuthorityCount := subAuthorityCount[0].toUInt8
  let (identifierAuthorityParts, reader) ← (Read .bigEndian 2 3 reader).mapError
    (sidReadFailed b "IdentifierAuthority")
  let identifierAuthorityParts := identifierAuthorityParts.map Nat.toUInt16
  let identifierAuthority : UInt64 := (identifierAuthorityParts[0].toUInt64 <<< 32) +
    (identifierAuthorityParts[1].toUInt64 <<< 16) + identifierAuthorityParts[2].toUInt64
  -- make([]uint32, subAuthorityCount), then one read that fills it
  let (subAuthority, _) ← (Read .littleEndian 4 subAuthorityCount.toNat reader).mapError
    (sidReadFailed b "SubAuthority")
  let subAuthority := subAuthority.map Nat.toUInt32
  let result := lit "S-" ++ decimalDigits revision.toNat ++ lit "-" ++ decimalDigits identifierAuthority.toNat
  .ok (subAuthority.toList.foldl (fun result subAuthorityPart =>
    result ++ (lit "-" ++ decimalDigits subAuthorityPart.toNat)) result)

/-- The string form of SID bytes: the revision, the 48-bit big-endian
authority and each little-endian sub-authority the count byte announces, in
decimal. -/
def sidString (b : GoString) : GoString :=
  lit "S-" ++ decimalDigits (b.getD 0 0).toNat ++ lit "-" ++
    decimalDigits (ByteOrder.bigEndian.uint ((b.drop 2).take 6)) ++
    (List.range (b.getD 1 0).toNat).flatMap fun i =>
      lit "-" ++ decimalDigits (ByteOrder.littleEndian.uint ((b.drop (8 + 4 * i)).take 4))

/-! ### Reading the fields -/

theorem identifierAuthority_toNat (p0 p1 p2 : UInt16) :
    ((p0.toUInt64 <<< 32) + (p1.toUInt64 <<< 16) + p2.toUInt64).toNat =
      p0.toNat * 2 ^ 32 + p1.toNat * 2 ^ 16 + p2.toNat := by
  have h0 := p0.toNat_lt
  have h1 := p1.toNat_lt
  have h2 := p2.toNat_lt
  have h32 : (32 : UInt64).toNat % 64 = 32 := by decide
  have h16 : (16 : UInt64).toNat % 64 = 16 := by decide
  simp only [UInt64.toNat_add, UInt64.toNat_shiftLeft, UInt16.toNat_toUInt64, Nat.shiftLeft_eq, h32, h16]
  omega

/-- A 16-bit part as read: its two bytes, big-endian. -/
theorem part_toNat (r : GoString) (k : Nat) :
    (ByteOrder.bigEndian.uint ((r.drop (2 * k)).take 2)).toUInt16.toNat =
      ByteOrder.bigEndian.uint ((r.drop (2 * k)).take 2) := by
  have hlt := ByteOrder.uint_take_lt .bigEndian (r.drop (2 * k)) 2
  rw [Nat.toUInt16, UInt16.toNat_ofNat']
  omega

/-- The code's authority, put together from three parts with shifts, is the
48-bit big-endian integer of the six bytes. -/
theorem identifierAuthority_eq {r : GoString} (h : 6 ≤ r.length) :
    let parts := (decodeUints .bigEndian 2 3 r).map Nat.toUInt16
    ((parts[0].toUInt64 <<< 32) + (parts[1].toUInt64 <<< 16) + parts[2].toUInt64).toNat =
      ByteOrder.bigEndian.uint (r.take 6) := by
  intro parts
  -- the six bytes are the three parts one after the other
  have hsplit : r.take 6 = r.take 2 ++ ((r.drop 2).take 2 ++ (r.drop 4).take 2) := by
    rw [show 6 = 2 + (2 + 2) from rfl, List.take_add, List.take_add, List.drop_drop]
  have h2len : ((r.drop 2).take 2).length = 2 := by simp; omega
  have h4len : ((r.drop 4).take 2).length = 2 := by simp; omega
  have h0 := part_toNat r 0
  have h1 := part_toNat r 1
  have h2 := part_toNat r 2
  simp only [Nat.mul_zero, List.drop_zero, Nat.mul_one, show 2 * 2 = 4 from rfl] at h0 h1 h2
  rw [identifierAuthority_toNat, hsplit, ByteOrder.bigEndian_uint_append, ByteOrder.bigEndian_uint_append,
    List.length_append, h2len, h4len]
  simp only [parts, decodeUints, Vector.getElem_map, Vector.getElem_ofFn, Nat.mul_zero, List.drop_zero,
    Nat.mul_one, show 2 * 2 = 4 from rfl, h0, h1, h2]
  ring

theorem foldl_append_eq_flatMap {α β : Type} (f : α → List β) (xs : List α) (init : List β) :
    xs.foldl (fun acc x => acc ++ f x) init = init ++ xs.flatMap f := by
  induction xs generalizing init with
  | nil => simp
  | cons x xs ih => simp [ih]

/-- A 32-bit sub-authority as read: its four bytes, little-endian. -/
theorem subAuthority_toNat (r : GoString) :
    (ByteOrder.littleEndian.uint (r.take 4)).toUInt32.toNat = ByteOrder.littleEndian.uint (r.take 4) := by
  have hlt := ByteOrder.uint_take_lt .littleEndian r 4
  rw [Nat.toUInt32, UInt32.toNat_ofNat']
  omega

/-- A one-byte field as read and converted back to a byte. -/
theorem read_byte_toUInt8 (x : UInt8) : (#v[x.toNat])[0].toUInt8 = x := by simp

theorem SIDBytesToString_of_le {b : GoString} (hheader : 8 ≤ b.length)
    (hsub : 8 + 4 * (b.getD 1 0).toNat ≤ b.length) :
    SIDBytesToString b = .ok (sidString b) := by
  obtain ⟨b0, b1, rest, rfl⟩ : ∃ b0 b1 rest, b = b0 :: b1 :: rest := by
    match b, hheader with
    | b0 :: b1 :: rest, _ => exact ⟨b0, b1, rest, rfl⟩
  simp only [List.length_cons, List.getD_cons_succ, List.getD_cons_zero] at hheader hsub
  have hparts : Read .bigEndian 2 3 rest = .ok (decodeUints .bigEndian 2 3 rest, rest.drop 6) :=
    Read_of_le (by omega)
  have hsubs : Read .littleEndian 4 b1.toNat (rest.drop 6) =
      .ok (decodeUints .littleEndian 4 b1.toNat (rest.drop 6), (rest.drop 6).drop (4 * b1.toNat)) :=
    Read_of_le (by simp; omega)
  simp only [SIDBytesToString, Read_byte, Except.mapError, bind, Except.bind, hparts, read_byte_toUInt8]
  rw [read_byte_toUInt8 b1, hsubs]
  dsimp only
  rw [identifierAuthority_eq (by omega), foldl_append_eq_flatMap, Vector.toList_map, decodeUints_toList,
    List.map_map, List.flatMap_map]
  -- the sub-authorities start after the two bytes and the six of the authority
  have hdrop : ∀ i, (b0 :: b1 :: rest).drop (8 + 4 * i) = rest.drop (6 + 4 * i) := fun i => by
    rw [show 8 + 4 * i = 6 + 4 * i + 1 + 1 by omega]
    rfl
  simp only [sidString, List.getD_cons_zero, List.getD_cons_succ, List.drop_succ_cons, List.drop_zero, hdrop,
    List.drop_drop, Function.comp_def, subAuthority_toNat, List.append_assoc]

/-- Input that ends before the header or before the sub-authorities the
count announces fails, with the error of the field being read. -/
theorem SIDBytesToString_of_short {b : GoString}
    (hshort : b.length < 8 ∨ b.length < 8 + 4 * (b.getD 1 0).toNat) :
    ∃ field err, SIDBytesToString b = .error (sidReadFailed b field err) := by
  match b, hshort with
  | [], _ => exact ⟨"Revision", EOF, rfl⟩
  | [b0], _ => exact ⟨"SubAuthorityCount", EOF, rfl⟩
  | b0 :: b1 :: rest, hshort =>
    simp only [List.length_cons, List.getD_cons_succ, List.getD_cons_zero] at hshort
    by_cases hheader : rest.length < 2 * 3
    · -- the authority is cut short
      refine ⟨"IdentifierAuthority", if rest = [] then EOF else ErrUnexpectedEOF, ?_⟩
      simp only [SIDBytesToString, Read_byte, Except.mapError, bind, Except.bind, Read_of_lt hheader]
    · -- the header is complete and the sub-authorities are cut short
      have hparts : Read .bigEndian 2 3 rest = .ok (decodeUints .bigEndian 2 3 rest, rest.drop 6) :=
        Read_of_le (by omega)
      have hsubs : (rest.drop 6).length < 4 * b1.toNat := by simp; omega
      refine ⟨"SubAuthority", if rest.drop 6 = [] then EOF else ErrUnexpectedEOF, ?_⟩
      simp only [SIDBytesToString, Read_byte, Except.mapError, bind, Except.bind, hparts, read_byte_toUInt8]
      rw [read_byte_toUInt8 b1, Read_of_lt hsubs]

theorem SIDBytes_eq (revision : UInt8) (identifierAuthority : UInt16) :
    SIDBytes revision identifierAuthority =
      .ok (revision :: 0 :: Write .bigEndian 2 [0, 0, identifierAuthority.toNat]) := by
  simp [SIDBytes, Write, ByteOrder.put]

/-- A SID that `SIDBytes` writes reads back as its revision and authority. -/
theorem SIDBytesToString_SIDBytes_bytes (revision : UInt8) (identifierAuthority : UInt16) :
    SIDBytesToString (revision :: 0 :: Write .bigEndian 2 [0, 0, identifierAuthority.toNat]) =
      .ok (lit "S-" ++ decimalDigits revision.toNat ++ lit "-" ++ decimalDigits identifierAuthority.toNat) := by
  have hlen : (Write .bigEndian 2 [0, 0, identifierAuthority.toNat]).length = 6 := by simp [Write]
  have hauthority : ByteOrder.bigEndian.uint (Write .bigEndian 2 [0, 0, identifierAuthority.toNat]) =
      identifierAuthority.toNat := by
    have hlt := identifierAuthority.toNat_lt
    simp only [Write, List.flatMap_cons, List.flatMap_nil, List.append_nil, ByteOrder.bigEndian_uint_append,
      ByteOrder.uint_put, ByteOrder.length_put]
    omega
  rw [SIDBytesToString_of_le (by simp [hlen]) (by simp [hlen])]
  simp [sidString, List.take_of_length_le (le_of_eq hlen), hauthority]

/-! ### The reader's specification -/

/-- `SIDBytesToString` fails exactly on input shorter than the header or than
the sub-authorities its count byte announces, returns the string form of the
bytes otherwise, and reads back what `SIDBytes` writes. -/
theorem SIDBytesToString_reads_sid :
    (∀ b : GoString, (SIDBytesToString b).toOption =
      if b.length < 8 ∨ b.length < 8 + 4 * (b.getD 1 0).toNat then none else some (sidString b)) ∧
    ∀ (revision : UInt8) (identifierAuthority : UInt16), ∃ bytes,
      SIDBytes revision identifierAuthority = .ok bytes ∧
      SIDBytesToString bytes =
        .ok (lit "S-" ++ decimalDigits revision.toNat ++ lit "-" ++ decimalDigits identifierAuthority.toNat) := by
  constructor
  · intro b
    split
    · case isTrue hshort =>
      obtain ⟨field, err, herr⟩ := SIDBytesToString_of_short hshort
      rw [herr]
      rfl
    · case isFalse hlong =>
      rw [SIDBytesToString_of_le (by omega) (by omega)]
      rfl
  · intro revision identifierAuthority
    exact ⟨_, SIDBytes_eq revision identifierAuthority, SIDBytesToString_SIDBytes_bytes revision identifierAuthority⟩

example : SIDBytesToString [1, 1, 0, 0, 0, 0, 0, 1, 0, 0, 0, 0] = .ok (lit "S-1-1-0") := by
  decide +kernel

end Gldap
