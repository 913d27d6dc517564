import Gldap.Go.Runtime

/-! The functions of Go's `strings` package that trim and rewrite byte
strings, and the leftmost-first matches of the pattern `\((.*?)\)`.

The cutsets and patterns are ASCII, so the functions work byte by byte.
`TrimSpace` removes white space as Unicode defines it; the white-space runes
outside ASCII are matched by their UTF-8 encodings, at the front as they
start the string and at the back as they end it, which is how Go decodes the
first and the last rune.
-/

set_option autoImplicit false

namespace Go

/-- `strings.ReplaceAll(s, old, new)` for a pattern of one byte. -/
def ReplaceAll (s : GoString) (old : UInt8) (new : GoString) : GoString :=
  s.flatMap fun b => if b = old then new else [b]

/-- `strings.Trim(s, cutset)` for an ASCII cutset: drop the bytes of the
cutset from both ends. -/
def Trim (s : GoString) (cutset : GoString) : GoString :=
  ((s.dropWhile (· ∈ cutset)).reverse.dropWhile (· ∈ cutset)).reverse

/-- The UTF-8 encodings of the runes `unicode.IsSpace` accepts. -/
def spaceRunes : List GoString :=
  [[9], [10], [11], [12], [13], [32], [0xC2, 0x85], [0xC2, 0xA0], [0xE1, 0x9A, 0x80]] ++
  ((List.range 11).map fun k => [0xE2, 0x80, (0x80 + k).toUInt8]) ++
  [[0xE2, 0x80, 0xA8], [0xE2, 0x80, 0xA9], [0xE2, 0x80, 0xAF], [0xE2, 0x81, 0x9F],
    [0xE3, 0x80, 0x80]]

/-- Drop runes from the front while one of `runes` starts the string; one
round per byte is always enough. -/
def dropLeading (runes : List GoString) : Nat → GoString → GoString
  | 0, s => s
  | fuel + 1, s =>
    match runes.find? fun r => r ≠ [] ∧ r <+: s with
    | some r => dropLeading runes fuel (s.drop r.length)
    | none => s

/-- `strings.TrimSpace`. -/
def TrimSpace (s : GoString) : GoString :=
  let front := dropLeading spaceRunes s.length s
  (dropLeading (spaceRunes.map List.reverse) front.length front.reverse).reverse

/-- The matches of `\((.*?)\)` in order, as `FindAllString(s, -1)` returns
them: from an open parenthesis to the first close parenthesis after it, with
no newline between (`.` does not match newline). A newline inside a candidate
fails every open parenthesis since the last match, so the scan goes on after
it. `inside` holds the bytes read since the open parenthesis, reversed. -/
def parenMatches (inside : Option GoString) : GoString → List GoString
  | [] => []
  | b :: rest =>
    match inside with
    | none => if b = 40 then parenMatches (some []) rest else parenMatches none rest
    | some acc =>
      if b = 41 then (40 :: acc.reverse ++ [41]) :: parenMatches none rest
      else if b = 10 then parenMatches none rest
      else parenMatches (some (b :: acc)) rest

/-- `regexp.MustCompile(\((.*?)\)).FindAllString(s, -1)`. -/
def FindAllParens (s : GoString) : List GoString := parenMatches none s

example : FindAllParens (lit "(cn=a)(|(x") = [lit "(cn=a)"] := by decide +kernel

example : FindAllParens (lit "((a)b)") = [lit "((a)"] := by decide +kernel

/-- `strings.HasPrefix`. -/
def HasPrefix (s pre : GoString) : Bool := decide (pre <+: s)

/-- `strings.TrimPrefix`: `s` without a leading `pre`, or `s` as it was. -/
def TrimPrefix (s pre : GoString) : GoString := if pre <+: s then s.drop pre.length else s

/-- `strings.TrimSuffix`: `s` without a trailing `suf`, or `s` as it was. -/
def TrimSuffix (s suf : GoString) : GoString := if suf <:+ s then s.take (s.length - suf.length) else s

@[simp] theorem HasPrefix_append (pre s : GoString) : HasPrefix (pre ++ s) pre = true := by
  simp [HasPrefix]

@[simp] theorem TrimPrefix_append (pre s : GoString) : TrimPrefix (pre ++ s) pre = s := by
  simp [TrimPrefix]

@[simp] theorem TrimSuffix_append (s suf : GoString) : TrimSuffix (s ++ suf) suf = s := by
  simp [TrimSuffix]

end Go
