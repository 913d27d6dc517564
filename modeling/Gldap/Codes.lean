import Gldap.Ber.Packet

/-! The package's shared vocabulary: protocol codes, sentinel errors and the
functional options.

An `Option` of the source is `func(interface{})`. Each one type-switches on
the options struct it is applied to and sets one field, or does nothing when
the struct is of another kind; `applyOpts` applies them left to right and
skips nil ones. `Opt` lists the options the modelled code reads, `nil`, and
`other` for an option that sets a struct nothing here reads (a logger, a
writer, a TLS configuration).
-/

set_option autoImplicit false

namespace Gldap

open Go

def ApplicationBindRequest : Nat := 0
def ApplicationBindResponse : Nat := 1
def ApplicationUnbindRequest : Nat := 2
def ApplicationSearchRequest : Nat := 3
def ApplicationSearchResultEntry : Nat := 4
def ApplicationSearchResultDone : Nat := 5
def ApplicationModifyRequest : Nat := 6
def ApplicationModifyResponse : Nat := 7
def ApplicationAddRequest : Nat := 8
def ApplicationAddResponse : Nat := 9
def ApplicationDelRequest : Nat := 10
def ApplicationDelResponse : Nat := 11
def ApplicationModifyDNRequest : Nat := 12
def ApplicationCompareRequest : Nat := 14
def ApplicationExtendedRequest : Nat := 23
def ApplicationExtendedResponse : Nat := 24

def ResultSuccess : Int64 := 0
def ResultOperationsError : Int64 := 1
def ResultInappropriateMatching : Int64 := 18
def ResultNoSuchObject : Int64 := 32
def ResultInvalidCredentials : Int64 := 49
def ResultUnwillingToPerform : Int64 := 53
def ResultEntryAlreadyExists : Int64 := 68

/-- `ErrInvalidParameter` of error.go. -/
def ErrInvalidParameter : GoError := .new "invalid parameter"

/-- `ErrInternal` of error.go. -/
def ErrInternal : GoError := .new "internal error"

/-- `Scope` of a search: `BaseObject`, `SingleLevel`, `WholeSubtree`. -/
abbrev Scope := Int64

def BaseObject : Scope := 0
def SingleLevel : Scope := 1
def WholeSubtree : Scope := 2

/-- The source's `Option`. -/
inductive Opt where
  | nil
  | other
  | withMinChildren (min : Nat)
  | withLenChildren (len : Nat)
  | withAssertChild (idx : Nat)
  | withTag (t : Nat)
  | withDiagnosticMessage (msg : GoString)
  | withMatchedDN (dn : GoString)
  | withResponseCode (code : Int64)
  | withApplicationCode (applicationCode : Int64)
  | withAttributes (attributes : List (GoString × List GoString))
  | withLabel (l : GoString)
  | withBaseDN (dn : GoString)
  | withFilter (filter : GoString)
  | withScope (s : Scope)
  | withGraceAuthNsRemaining (remaining : UInt64)
  | withSecondsBeforeExpiration (seconds : UInt64)
  | withErrorCode (code : UInt64)
  | withCriticality (criticality : Bool)
  | withControlValue (value : GoString)
  deriving Repr, DecidableEq

/-- `applyOpts`: each option is applied to the struct by `set`, which ignores
the options of other structs. -/
def applyOpts {σ : Type} (set : σ → Opt → σ) (opts : σ) (opt : List Opt) : σ :=
  opt.foldl (fun acc o => match o with
    | .nil => acc
    | o => set acc o) opts

@[simp] theorem applyOpts_nil {σ : Type} (set : σ → Opt → σ) (opts : σ) :
    applyOpts set opts [] = opts := rfl

/-- An option the struct's setter ignores leaves the struct as it was. -/
theorem applyOpts_cons_of_ignored {σ : Type} (set : σ → Opt → σ) (opts : σ) (o : Opt)
    (rest : List Opt) (ignored : set opts o = opts) :
    applyOpts set opts (o :: rest) = applyOpts set opts rest := by
  cases o <;> simp [applyOpts, ignored]

theorem applyOpts_cons_of_ne_nil {σ : Type} (set : σ → Opt → σ) (opts : σ) (o : Opt)
    (rest : List Opt) (notNil : o ≠ .nil) :
    applyOpts set opts (o :: rest) = applyOpts set (set opts o) rest := by
  cases o <;> simp_all [applyOpts]

/-- A property of the struct that every option given keeps holds after all of
them. -/
theorem applyOpts_invariant {σ : Type} {set : σ → Opt → σ} (P : σ → Prop) {opts : σ} {opt : List Opt}
    (hinit : P opts) (hstep : ∀ s, ∀ o ∈ opt, o ≠ .nil → P s → P (set s o)) : P (applyOpts set opts opt) := by
  induction opt generalizing opts with
  | nil => exact hinit
  | cons o rest ih =>
    have hrest : ∀ s, ∀ o' ∈ rest, o' ≠ .nil → P s → P (set s o') :=
      fun s o' member => hstep s o' (by simp [member])
    by_cases hnil : o = .nil
    · subst hnil
      exact ih hinit hrest
    · rw [applyOpts_cons_of_ne_nil set opts o rest hnil]
      exact ih (hstep opts o (by simp) hnil hinit) hrest

end Gldap
