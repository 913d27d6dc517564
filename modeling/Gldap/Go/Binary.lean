import Gldap.Go.Runtime
import Mathlib.Tactic.Ring

/-! The byte orders of `encoding/binary`, `io.ReadFull` on a `bytes.Reader`,
and `binary.Read` and `binary.Write` of unsigned integers, one at a time or
as an array or slice of them.

A `bytes.Reader` is the bytes it has left. `binary.Read` fills its whole
destination with one `io.ReadFull`, so it fails exactly when fewer bytes are
left than the destination takes: with `io.EOF` when none are left and with
`io.ErrUnexpectedEOF` when some are. A destination of size zero, such as an
empty slice, reads nothing and never fails. Writes go to a `bytes.Buffer`,
whose `Write` never fails.
-/

set_option autoImplicit false

namespace Go

/-- `io.ReadFull(r, buf)` with `len(buf) = n` on a reader with the bytes `r`
left: the bytes read and the bytes left after them. -/
def ReadFull (n : Nat) (r : GoString) : Except GoError (GoString × GoString) :=
  if n ≤ r.length then .ok (r.take n, r.drop n)
  else if r = [] then .error EOF
  else .error ErrUnexpectedEOF

theorem ReadFull_of_le {n : Nat} {r : GoString} (h : n ≤ r.length) :
    ReadFull n r = .ok (r.take n, r.drop n) := if_pos h

theorem ReadFull_of_lt {n : Nat} {r : GoString} (h : r.length < n) :
    ReadFull n r = .error (if r = [] then EOF else ErrUnexpectedEOF) := by
  rw [ReadFull, if_neg (by omega)]
  split <;> rfl

namespace Binary

/-- `binary.LittleEndian` and `binary.BigEndian`. -/
inductive ByteOrder where
  | littleEndian
  | bigEndian
  deriving Repr, DecidableEq

namespace ByteOrder

/-- The unsigned integer that some bytes stand for in a byte order. -/
def uint : ByteOrder → GoString → Nat
  | littleEndian, bs => bs.foldr (fun b acc => b.toNat + 256 * acc) 0
  | bigEndian, bs => bs.foldl (fun acc b => acc * 256 + b.toNat) 0

/-- The `width` low bytes of `n` in a byte order, as `PutUint16` and its
siblings write them. -/
def put (order : ByteOrder) (width n : Nat) : GoString :=
  let little := (List.range width).map fun k => (n / 256 ^ k).toUInt8
  match order with
  | littleEndian => little
  | bigEndian => little.reverse

@[simp] theorem length_put (order : ByteOrder) (width n : Nat) : (order.put width n).length = width := by
  cases order <;> simp [put]

@[simp] theorem uint_nil (order : ByteOrder) : order.uint [] = 0 := by
  cases order <;> rfl

theorem bigEndian_uint_reverse (bs : GoString) : bigEndian.uint bs.reverse = littleEndian.uint bs := by
  simp only [uint, List.foldl_reverse]
  congr 1
  funext b acc
  omega

theorem littleEndian_uint_append (xs ys : GoString) :
    littleEndian.uint (xs ++ ys) = littleEndian.uint xs + 256 ^ xs.length * littleEndian.uint ys := by
  induction xs with
  | nil => simp [uint]
  | cons x xs ih =>
    simp only [uint, List.cons_append, List.foldr_cons, List.length_cons] at ih ⊢
    rw [ih, Nat.pow_succ]
    ring

theorem bigEndian_uint_append (xs ys : GoString) :
    bigEndian.uint (xs ++ ys) = bigEndian.uint xs * 256 ^ ys.length + bigEndian.uint ys := by
  -- read backwards, big-endian is little-endian
  rw [← List.reverse_reverse (xs ++ ys), bigEndian_uint_reverse, List.reverse_append,
    littleEndian_uint_append, ← bigEndian_uint_reverse, ← bigEndian_uint_reverse, List.reverse_reverse,
    List.reverse_reverse, List.length_reverse]
  ring

@[simp] theorem uint_singleton (order : ByteOrder) (b : UInt8) : order.uint [b] = b.toNat := by
  cases order <;> simp [uint]

theorem uint_lt (order : ByteOrder) (bs : GoString) : order.uint bs < 256 ^ bs.length := by
  -- little-endian by induction; big-endian is the same value of the reversed bytes
  have hlittle : ∀ bs : GoString, littleEndian.uint bs < 256 ^ bs.length := by
    intro bs
    induction bs with
    | nil => simp [uint]
    | cons b bs ih =>
      have hb := b.toNat_lt
      simp only [uint, List.foldr_cons, List.length_cons] at ih ⊢
      rw [Nat.pow_succ]
      omega
  cases order with
  | littleEndian => exact hlittle bs
  | bigEndian =>
    rw [← List.reverse_reverse bs, bigEndian_uint_reverse, List.length_reverse]
    exact hlittle _

/-- What at most `width` bytes stand for fits in `width` bytes. -/
theorem uint_take_lt (order : ByteOrder) (bs : GoString) (width : Nat) :
    order.uint (bs.take width) < 256 ^ width :=
  calc order.uint (bs.take width) < 256 ^ (bs.take width).length := uint_lt order _
    _ ≤ 256 ^ width := Nat.pow_le_pow_right (by omega) (by simp)

theorem littleEndian_uint_put (width n : Nat) : littleEndian.uint (littleEndian.put width n) = n % 256 ^ width := by
  induction width with
  | zero => simp [put, uint, Nat.mod_one]
  | succ width ih =>
    -- the new top byte is the next base-256 digit of n
    have hdigit : (n / 256 ^ width).toUInt8.toNat = n / 256 ^ width % 256 := by simp
    simp only [put, List.range_succ, List.map_append, List.map_cons, List.map_nil] at ih ⊢
    rw [littleEndian_uint_append, ih, List.length_map, List.length_range, uint_singleton, hdigit,
      Nat.mod_pow_succ]

@[simp] theorem uint_put (order : ByteOrder) (width n : Nat) : order.uint (order.put width n) = n % 256 ^ width := by
  cases order with
  | littleEndian => exact littleEndian_uint_put width n
  | bigEndian =>
    have h := littleEndian_uint_put width n
    simp only [put] at h ⊢
    rw [bigEndian_uint_reverse, h]

end ByteOrder

/-- The `count` integers of `width` bytes each that `buf` holds one after
another. -/
def decodeUints (order : ByteOrder) (width count : Nat) (buf : GoString) : Vector Nat count :=
  Vector.ofFn fun i => order.uint ((buf.drop (width * i)).take width)

/-- `binary.Read(r, order, data)` where `data` holds `count` unsigned
integers of `width` bytes: a pointer to one integer (`count = 1`), or to an
array or a slice of length `count`. -/
def Read (order : ByteOrder) (width count : Nat) (r : GoString) :
    Except GoError (Vector Nat count × GoString) := do
  let (buf, rest) ← ReadFull (width * count) r
  .ok (decodeUints order width count buf, rest)

/-- `binary.Write(w, order, data)` to a `bytes.Buffer` where `data` holds
unsigned integers of `width` bytes. -/
def Write (order : ByteOrder) (width : Nat) (data : List Nat) : GoString :=
  data.flatMap (order.put width)

/-- Decoding only looks at the bytes the integers take. -/
theorem decodeUints_take (order : ByteOrder) (width count : Nat) (r : GoString) :
    decodeUints order width count (r.take (width * count)) = decodeUints order width count r := by
  unfold decodeUints
  congr 1
  funext i
  have hend : width * i + width ≤ width * count := by
    rw [← Nat.mul_succ]
    exact Nat.mul_le_mul_left _ i.isLt
  rw [List.drop_take, List.take_take, Nat.min_eq_left (by omega)]

theorem Read_of_le {order : ByteOrder} {width count : Nat} {r : GoString} (h : width * count ≤ r.length) :
    Read order width count r = .ok (decodeUints order width count r, r.drop (width * count)) := by
  rw [Read, ReadFull_of_le h]
  show Except.ok (decodeUints order width count (r.take (width * count)), r.drop (width * count)) = _
  rw [decodeUints_take]

theorem Read_of_lt {order : ByteOrder} {width count : Nat} {r : GoString} (h : r.length < width * count) :
    Read order width count r = .error (if r = [] then EOF else ErrUnexpectedEOF) := by
  simp only [Read, ReadFull_of_lt h]
  split <;> rfl

/-- One byte comes back as itself. -/
theorem Read_byte (order : ByteOrder) (b : UInt8) (r : GoString) :
    Read order 1 1 (b :: r) = .ok (#v[b.toNat], r) := by
  rw [Read_of_le (by simp)]
  congr 2
  ext i hi
  obtain rfl : i = 0 := by omega
  simp [decodeUints]

theorem decodeUints_toList (order : ByteOrder) (width count : Nat) (buf : GoString) :
    (decodeUints order width count buf).toList =
      (List.range count).map fun i => order.uint ((buf.drop (width * i)).take width) := by
  apply List.ext_getElem <;> simp [decodeUints]

end Binary

end Go
