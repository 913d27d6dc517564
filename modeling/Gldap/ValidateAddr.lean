import Gldap.Codes
import Gldap.Go.Strings

/-! server.go's `last` and `validateAddrPort`, which `Run` applies to the
address it is given before it listens.

The host part is checked against the name resolver, `netip.ParseAddr` and
`net.ParseIP`, which are parameters here: `LookupHost` is the list of
addresses the resolver returns (its error is ignored), `ParseAddr` whether
`netip.ParseAddr` accepts the text, and `ParseIP` whether `net.ParseIP` does.
Whatever they answer, an accepted address has a non-empty port after its last
colon, and comes back either as it was or with its host, which then has a
colon in it, put in brackets (`validateAddrPort_ok`).
-/

set_option autoImplicit false

namespace Gldap

open Go

/-- `last(s, b)`: the index of the rightmost `b` in `s`, or -1. The loop
counts down from the end and stops at the first match. -/
def last (s : GoString) (b : UInt8) : Int :=
  go s.length
where
  go : Nat → Int
    | 0 => -1
    | i + 1 => if s[i]? = some b then i else go i

/-- The loop down from `n`: no `b` among the first `n` bytes and -1, or the
index of the last `b` among them. -/
theorem last_go_spec (s : GoString) (b : UInt8) (n : Nat) :
    (b ∉ s.take n ∧ last.go s b n = -1) ∨
      ∃ i : Nat, i < n ∧ last.go s b n = i ∧ s[i]? = some b ∧ b ∉ (s.take n).drop (i + 1) := by
  induction n with
  | zero => exact .inl ⟨by simp, rfl⟩
  | succ n ih =>
    by_cases hn : s[n]? = some b
    · -- the loop stops here
      refine .inr ⟨n, Nat.lt_succ_self n, if_pos hn, hn, ?_⟩
      simp
    · -- the byte at n is not `b`, so the answer below stands
      have htake : s.take (n + 1) = s.take n ++ s[n]?.toList := List.take_add_one
      have hnot : b ∉ s[n]?.toList := by
        cases hs : s[n]? with
        | none => simp
        | some x =>
          simp only [Option.toList_some, List.mem_singleton]
          rintro rfl
          exact hn hs
      rcases ih with ⟨hnone, hgo⟩ | ⟨i, hlt, hgo, hi, hafter⟩
      · refine .inl ⟨?_, by rw [last.go, if_neg hn, hgo]⟩
        rw [htake, List.mem_append, not_or]
        exact ⟨hnone, hnot⟩
      · refine .inr ⟨i, by omega, by rw [last.go, if_neg hn, hgo], hi, ?_⟩
        have hlen : i + 1 ≤ (s.take n).length := by
          have := (List.getElem?_eq_some_iff.mp hi).1
          simp only [List.length_take]
          omega
        rw [htake, List.drop_append_of_le_length hlen, List.mem_append, not_or]
        exact ⟨hafter, hnot⟩

/-- `last` finds no `b` and gives -1, or splits `s` at its last `b`. -/
theorem last_spec (s : GoString) (b : UInt8) :
    (b ∉ s ∧ last s b = -1) ∨ ∃ i : Nat, last s b = i ∧ s = s.take i ++ b :: s.drop (i + 1) ∧ b ∉ s.drop (i + 1) := by
  rcases last_go_spec s b s.length with ⟨hnone, hlast⟩ | ⟨i, -, hlast, hi, hafter⟩
  · rw [List.take_length] at hnone
    exact .inl ⟨hnone, hlast⟩
  · rw [List.take_length] at hafter
    obtain ⟨hlt, hget⟩ := List.getElem?_eq_some_iff.mp hi
    refine .inr ⟨i, hlast, ?_, hafter⟩
    conv_lhs => rw [← List.take_append_drop i s]
    rw [List.drop_eq_getElem_cons hlt, hget]

/-- A non-negative answer is the index of a `b` that is there. -/
theorem mem_of_last_nonneg {s : GoString} {b : UInt8} (h : last s b ≥ 0) : b ∈ s := by
  rcases last_spec s b with ⟨-, hlast⟩ | ⟨i, -, hsplit, -⟩
  · rw [hlast] at h
    omega
  · rw [hsplit]
    simp

section Validate

variable (LookupHost : GoString → List GoString) (ParseAddr : GoString → Except GoError Unit)
  (ParseIP : GoString → Bool)

/-- `validateAddrPort`: the address must have a port after its last colon, and
its host must be empty, a bracketed IPv6 literal, a name the resolver knows, an
IPv6 literal (which gets brackets) or an IPv4 literal. -/
def validateAddrPort (addrPort : GoString) : Except GoError GoString :=
  let op := lit "gldap.parseAddr"
  let lastColon := last addrPort 58
  if lastColon < 0 then
    .error (.wrapf "%s: missing port in addr \"%s\": %w" [.str op, .str addrPort] ErrInvalidParameter)
  else
    let rawHost := addrPort.take lastColon.toNat
    let rawPort := addrPort.drop (lastColon.toNat + 1)
    if rawPort.length = 0 then
      .error (.wrapf "%s: missing port in addr \"%s\": %w" [.str op, .str addrPort] ErrInvalidParameter)
    else if rawHost.length = 0 then .ok (lit ":" ++ rawPort)
    else if addrPort.head? = some 91 ∧ addrPort.getLast? = some 93 then
      .error (.wrapf "%s: missing port in ipv6 addr : \"%s\": %w" [.str op, .str addrPort] ErrInvalidParameter)
    -- an IPv6 literal in brackets
    else if rawHost.head? = some 91 then
      if 93 ∉ rawHost then
        .error (.wrapf "%s: missing ']' in ipv6 address \"%s\": %w" [.str op, .str addrPort] ErrInvalidParameter)
      else
        match ParseAddr (Trim rawHost (lit "[]")) with
        | .error err => .error (.wrapf "%s: invalid ipv6 address \"%s\": %w" [.str op, .str rawHost] err)
        | .ok () => .ok (rawHost ++ lit ":" ++ rawPort)
    -- a host name the resolver knows
    else if LookupHost rawHost ≠ [] then
      if rawHost = lit "::1" then .ok (lit "[" ++ rawHost ++ lit "]:" ++ rawPort)
      else .ok (rawHost ++ lit ":" ++ rawPort)
    -- an IPv6 literal without brackets
    else if last rawHost 58 ≥ 0 then
      match ParseAddr rawHost with
      | .error err => .error (.wrapf "%s: invalid ipv6 address + port \"%s\": %w" [.str op, .str addrPort] err)
      | .ok () => .ok (lit "[" ++ rawHost ++ lit "]:" ++ rawPort)
    -- an IPv4 literal
    else if !ParseIP rawHost then
      .error (.wrapf "%s: invalid IP address \"%s\": %w" [.str op, .str rawHost] ErrInvalidParameter)
    else .ok (rawHost ++ lit ":" ++ rawPort)

/-- The forms of an accepted address, split at its last colon: a non-empty
port, and the host and the port joined by a colon, or a host with a colon in
it put in brackets. -/
theorem validateAddrPort_eq_ok_cases {addrPort out : GoString} {i : Nat} (hlast : last addrPort 58 = i)
    (h : validateAddrPort LookupHost ParseAddr ParseIP addrPort = .ok out) :
    addrPort.drop (i + 1) ≠ [] ∧
      (out = addrPort.take i ++ lit ":" ++ addrPort.drop (i + 1) ∨
        58 ∈ addrPort.take i ∧ out = lit "[" ++ addrPort.take i ++ lit "]:" ++ addrPort.drop (i + 1)) := by
  have hi : ((i : Int)).toNat = i := Int.toNat_natCast i
  have hnonneg : ¬((i : Int) < 0) := by omega
  refine ⟨fun hnil => by simp [validateAddrPort, hlast, hi, hnil] at h, ?_⟩
  simp only [validateAddrPort, hlast, hi, hnonneg, if_false] at h
  split_ifs at h with hport0 hhost0 hwhole hbr hclosebr hlookup hlocal hipv6 hip
  · -- an empty host: ":" and the port
    cases h
    exact .inl (by rw [List.eq_nil_of_length_eq_zero hhost0]; rfl)
  · -- a bracketed IPv6 host, kept as it was
    split at h
    · cases h
    · cases h
      exact .inl rfl
  · -- "::1" from the resolver, put in brackets
    cases h
    exact .inr ⟨by rw [hlocal]; decide +kernel, rfl⟩
  · cases h
    exact .inl rfl
  · -- an IPv6 host without brackets, put in them
    split at h
    · cases h
    · cases h
      exact .inr ⟨mem_of_last_nonneg hipv6, rfl⟩
  · -- an IPv4 host
    cases h
    exact .inl rfl

/-- What `validateAddrPort` accepts: an address with a non-empty port after
its last colon. It returns the address as it was, or, for a host with a colon
in it, with the host put in brackets; it never changes the host's text or the
port. -/
theorem validateAddrPort_ok {addrPort out : GoString}
    (h : validateAddrPort LookupHost ParseAddr ParseIP addrPort = .ok out) :
    ∃ host port : GoString, addrPort = host ++ 58 :: port ∧ port ≠ [] ∧ 58 ∉ port ∧
      (out = addrPort ∨ 58 ∈ host ∧ out = 91 :: host ++ 93 :: 58 :: port) := by
  rcases last_spec addrPort 58 with ⟨-, hlast⟩ | ⟨i, hlast, hsplit, hport⟩
  · -- no colon: the port is missing
    simp [validateAddrPort, hlast] at h
  · obtain ⟨hnonempty, hout⟩ := validateAddrPort_eq_ok_cases LookupHost ParseAddr ParseIP hlast h
    -- the text put back around the host and the port
    have hput : addrPort.take i ++ lit ":" ++ addrPort.drop (i + 1) = addrPort := by
      rw [show lit ":" = [58] by decide +kernel, List.append_assoc, List.singleton_append]
      exact hsplit.symm
    have hbracket : lit "[" ++ addrPort.take i ++ lit "]:" ++ addrPort.drop (i + 1) =
        91 :: addrPort.take i ++ 93 :: 58 :: addrPort.drop (i + 1) := by
      simp [show lit "[" = [91] by decide +kernel, show lit "]:" = [93, 58] by decide +kernel]
    refine ⟨addrPort.take i, addrPort.drop (i + 1), hsplit, hnonempty, hport, ?_⟩
    rcases hout with rfl | ⟨hcolon, rfl⟩
    · exact .inl hput
    · exact .inr ⟨hcolon, hbracket⟩

end Validate

/-- "::1:389", which no resolver knows here, is an IPv6 host without brackets
and a port: it comes back as "[::1]:389". -/
theorem validateAddrPort_brackets_loopback :
    let ok := validateAddrPort (fun _ => []) (fun _ => .ok ()) (fun _ => true) (lit "::1:389")
    ok = .ok (lit "[::1]:389") ∧
      ∃ host port : GoString, lit "::1:389" = host ++ 58 :: port ∧ port ≠ [] ∧ 58 ∉ port ∧
        (lit "[::1]:389" = lit "::1:389" ∨ 58 ∈ host ∧ lit "[::1]:389" = 91 :: host ++ 93 :: 58 :: port) :=
  have h : validateAddrPort (fun _ => []) (fun _ => .ok ()) (fun _ => true) (lit "::1:389") =
      .ok (lit "[::1]:389") := by decide +kernel
  ⟨h, validateAddrPort_ok _ _ _ h⟩

end Gldap
