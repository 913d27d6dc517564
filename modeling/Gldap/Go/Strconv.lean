import Gldap.Go.Runtime
import Mathlib.Data.Nat.Digits.Defs
import Mathlib.Tactic.Ring
import Mathlib.Tactic.NormNum

/-! `strconv.FormatInt` and `strconv.ParseInt` in base 10 with 64 bits.

`ParseInt` follows the digit loop of `ParseUint`: an optional sign, then
ASCII digits only (base 10 admits no underscores), with a range error as soon
as the value passes `2^64 - 1` and a syntax error at the first other byte.
Both errors are a `*NumError` that names `ParseInt` and the whole input.
-/

set_option autoImplicit false

namespace Go

def ErrSyntax : GoError := .new "invalid syntax"
def ErrRange : GoError := .new "value out of range"

/-- The `*NumError` that `ParseInt` returns for the input `s`. -/
def numError (s : GoString) (err : GoError) : GoError :=
  .wrapf "strconv.ParseInt: parsing %q: %w" [.str s] err

def maxUint64 : Nat := 2 ^ 64 - 1

/-- The digit loop of `ParseUint(s, 10, 64)` from the accumulated value `n`. -/
def parseUintDigits (n : Nat) : GoString → Except GoError Nat
  | [] => .ok n
  | c :: rest =>
    if 48 ≤ c ∧ c ≤ 57 then
      -- `n >= cutoff` with `cutoff = maxUint64/10 + 1`, then `n1 > maxVal`
      if maxUint64 / 10 + 1 ≤ n then .error ErrRange
      else if maxUint64 < n * 10 + (c.toNat - 48) then .error ErrRange
      else parseUintDigits (n * 10 + (c.toNat - 48)) rest
    else .error ErrSyntax

/-- `strconv.ParseInt(s, 10, 64)`. -/
def ParseInt (s : GoString) : Except GoError Int64 :=
  let (neg, body) : Bool × GoString := match s with
    | 43 :: rest => (false, rest)
    | 45 :: rest => (true, rest)
    | _ => (false, s)
  match body with
  | [] => .error (numError s ErrSyntax)
  | _ =>
    match parseUintDigits 0 body with
    | .error err => .error (numError s err)
    | .ok un =>
      if !neg && 2 ^ 63 ≤ un then .error (numError s ErrRange)
      else if neg && 2 ^ 63 < un then .error (numError s ErrRange)
      else .ok (Int64.ofInt (if neg then -(un : Int) else un))

/-- The big-endian base-`b` digits of `n`; none for zero. -/
def bigEndian (b n : Nat) : List Nat := (Nat.digits b n).reverse

theorem foldl_bigEndian (b n : Nat) : (bigEndian b n).foldl (fun acc d => acc * b + d) 0 = n := by
  rw [bigEndian, List.foldl_reverse]
  conv_rhs => rw [← Nat.ofDigits_digits b n]
  generalize Nat.digits b n = ds
  induction ds with
  | nil => rfl
  | cons d ds ih =>
    rw [List.foldr_cons, ih, Nat.ofDigits_cons]
    ring

theorem bigEndian_lt {b n d : Nat} (hb : 1 < b) (hd : d ∈ bigEndian b n) : d < b :=
  Nat.digits_lt_base hb (List.mem_reverse.mp hd)

/-- The ASCII decimal digits of `n`, most significant first. -/
def decimalDigits (n : Nat) : GoString :=
  if n = 0 then [48] else ((Nat.digits 10 n).reverse.map fun d => (48 + d : Nat).toUInt8)

/-- `strconv.FormatInt(i, 10)`. -/
def FormatInt (i : Int64) : GoString :=
  if i < 0 then 45 :: decimalDigits i.toInt.natAbs else decimalDigits i.toInt.natAbs

/-! ### Reading back what `FormatInt` writes -/

theorem le_foldl_decimal (acc : Nat) (ds : List Nat) : acc ≤ ds.foldl (fun a d => a * 10 + d) acc := by
  induction ds generalizing acc with
  | nil => exact Nat.le_refl acc
  | cons d ds ih => exact Nat.le_trans (by omega) (ih (acc * 10 + d))

/-- The digit loop reads ASCII digits back as their value, as long as the value
fits 64 bits. -/
theorem parseUintDigits_digits (acc : Nat) (ds : List Nat) (hds : ∀ d ∈ ds, d < 10)
    (hfit : ds.foldl (fun a d => a * 10 + d) acc ≤ maxUint64) :
    parseUintDigits acc (ds.map fun d => (48 + d : Nat).toUInt8) =
      .ok (ds.foldl (fun a d => a * 10 + d) acc) := by
  induction ds generalizing acc with
  | nil => rfl
  | cons d ds ih =>
    have hd := hds d (by simp)
    have hbyte : ((48 + d : Nat).toUInt8).toNat = 48 + d := by simp; omega
    -- the value so far stays under the cutoff because the final one fits
    have hnext := le_foldl_decimal (acc * 10 + d) ds
    rw [List.foldl_cons] at hfit
    have hdigit : (48 : UInt8) ≤ (48 + d : Nat).toUInt8 ∧ (48 + d : Nat).toUInt8 ≤ 57 := by
      simp only [UInt8.le_iff_toNat_le, hbyte]
      simp
      omega
    simp only [List.map_cons, parseUintDigits, if_pos hdigit, hbyte, Nat.add_sub_cancel_left]
    rw [if_neg (by unfold maxUint64 at hfit ⊢; omega), if_neg (by omega)]
    exact ih _ (fun x hx => hds x (by simp [hx])) hfit

/-- What `decimalDigits` writes: the ASCII forms of digits whose value is `n`. -/
theorem decimalDigits_spec (n : Nat) : ∃ ds : List Nat, ds ≠ [] ∧ (∀ d ∈ ds, d < 10) ∧
    ds.foldl (fun a d => a * 10 + d) 0 = n ∧ decimalDigits n = ds.map fun d => (48 + d : Nat).toUInt8 := by
  by_cases hn : n = 0
  · exact ⟨[0], by simp, by simp, by simp [hn], by simp [decimalDigits, hn]⟩
  · refine ⟨bigEndian 10 n, ?_, fun d hd => bigEndian_lt (by norm_num) hd, foldl_bigEndian 10 n, ?_⟩
    · simp [bigEndian, Nat.digits_eq_nil_iff_eq_zero, hn]
    · simp [decimalDigits, hn, bigEndian]

/-- Digits with no sign in front read as a non-negative value. -/
theorem ParseInt_unsigned {c : UInt8} {cs : GoString} {un : Nat} (hplus : c ≠ 43) (hminus : c ≠ 45)
    (hdigits : parseUintDigits 0 (c :: cs) = .ok un) (hrange : un < 2 ^ 63) :
    ParseInt (c :: cs) = .ok (Int64.ofInt un) := by
  unfold ParseInt
  split
  rename_i neg body hsign
  -- the first octet is neither sign, so the whole input is the digits
  split at hsign
  · simp_all
  · simp_all
  · simp only [Prod.mk.injEq] at hsign
    obtain ⟨rfl, rfl⟩ := hsign
    simp only [hdigits]
    have hfits : ¬(9223372036854775808 ≤ un) := by omega
    simp [hfits]

/-- A minus sign and digits read as the negated value, down to `-2^63`. -/
theorem ParseInt_negative {cs : GoString} {un : Nat} (hne : cs ≠ [])
    (hdigits : parseUintDigits 0 cs = .ok un) (hrange : un ≤ 2 ^ 63) :
    ParseInt (45 :: cs) = .ok (Int64.ofInt (-(un : Int))) := by
  have hfits : ¬(9223372036854775808 < un) := by omega
  unfold ParseInt
  simp only
  rw [hdigits]
  simp [hfits]

theorem ParseInt_FormatInt (i : Int64) : ParseInt (FormatInt i) = .ok i := by
  obtain ⟨ds, hne, hds, hvalue, hdigits⟩ := decimalDigits_spec i.toInt.natAbs
  have hlo := i.le_toInt
  have hhi := i.toInt_lt
  have hparse : parseUintDigits 0 (decimalDigits i.toInt.natAbs) = .ok i.toInt.natAbs := by
    rw [hdigits, parseUintDigits_digits 0 ds hds (by rw [hvalue]; unfold maxUint64; omega), hvalue]
  unfold FormatInt
  by_cases hneg : i < 0
  · -- a minus sign, then the digits of the magnitude
    have ht : i.toInt < 0 := Int64.lt_iff_toInt_lt.mp hneg
    have hnonempty : decimalDigits i.toInt.natAbs ≠ [] := by
      rw [hdigits]
      simpa using hne
    rw [if_pos hneg, ParseInt_negative hnonempty hparse (by omega)]
    congr 1
    conv_rhs => rw [← Int64.ofInt_toInt i]
    congr 1
    omega
  · -- the digits alone; the first is no sign
    have ht : 0 ≤ i.toInt := by
      have := Int64.lt_iff_toInt_lt.not.mp hneg
      simp at this
      omega
    obtain ⟨d, rest, rfl⟩ := List.exists_cons_of_ne_nil hne
    have hd := hds d (by simp)
    have hbyte : ((48 + d : Nat).toUInt8).toNat = 48 + d := by simp; omega
    have hplus : (48 + d : Nat).toUInt8 ≠ 43 := fun h => by
      have := congrArg UInt8.toNat h
      rw [hbyte] at this
      simp at this
      omega
    have hminus : (48 + d : Nat).toUInt8 ≠ 45 := fun h => by
      have := congrArg UInt8.toNat h
      rw [hbyte] at this
      simp at this
      omega
    rw [hdigits] at hparse
    rw [if_neg hneg, hdigits, List.map_cons, ParseInt_unsigned hplus hminus hparse (by omega)]
    congr 1
    conv_rhs => rw [← Int64.ofInt_toInt i]
    congr 1
    omega

end Go
