import Gldap.Go.Outcome
import Mathlib.Data.List.Infix

/-! Go strings, `interface{}` values and error values.

A Go `string` is a byte sequence with no encoding promised, so it is modelled
as a list of bytes. An error built by `fmt.Errorf` is kept as its format and
arguments: `errors.Is` only follows the `%w` arguments, and the rendered text
is the standard library's business.
-/

set_option autoImplicit false

namespace Go

/-- A Go `string` or `[]byte`. -/
abbrev GoString := List UInt8

/-- The bytes of a string literal of the source. -/
def lit (s : String) : GoString := s.toUTF8.toList

/-- The dynamic values that the modelled code stores in an `interface{}`.
Values of other types (a decoded float or time) are only ever printed. -/
inductive GoValue where
  | nil
  | bool (b : Bool)
  | int64 (n : Int64)
  | int8 (n : Int8)
  | string (s : GoString)
  | bytes (b : GoString)
  | other (rendered : GoString)
  deriving Repr, DecidableEq

namespace GoValue

variable {ε : Type}

/-- `n, ok := v.(int64)` -/
def toInt64? : GoValue → Option Int64
  | int64 n => some n
  | _ => none

/-- `b, ok := v.(bool)` -/
def toBool? : GoValue → Option Bool
  | bool b => some b
  | _ => none

/-- `s, ok := v.(string)` -/
def toString? : GoValue → Option GoString
  | string s => some s
  | _ => none

/-- `v.(int64)` with one result: a panic when the dynamic type differs. -/
def assertInt64 (v : GoValue) : Outcome ε Int64 :=
  match v.toInt64? with
  | some n => .ok n
  | none => .panic "interface conversion: interface is not int64"

/-- `v.(bool)` with one result. -/
def assertBool (v : GoValue) : Outcome ε Bool :=
  match v.toBool? with
  | some b => .ok b
  | none => .panic "interface conversion: interface is not bool"

/-- `v.(string)` with one result. -/
def assertString (v : GoValue) : Outcome ε GoString :=
  match v.toString? with
  | some s => .ok s
  | none => .panic "interface conversion: interface is not string"

@[simp] theorem toInt64?_int64 (n : Int64) : (int64 n).toInt64? = some n := rfl

@[simp] theorem assertInt64_int64 (n : Int64) : (assertInt64 (int64 n) : Outcome ε Int64) = .ok n := rfl

@[simp] theorem assertBool_bool (b : Bool) : (assertBool (bool b) : Outcome ε Bool) = .ok b := rfl

@[simp] theorem assertString_string (s : GoString) :
    (assertString (string s) : Outcome ε GoString) = .ok s := rfl

theorem assertInt64_returns {v : GoValue} :
    (assertInt64 v : Outcome ε Int64).Returns ↔ ∃ n, v = int64 n := by
  cases v <;> simp [assertInt64, toInt64?, Outcome.Returns]

theorem assertBool_returns {v : GoValue} :
    (assertBool v : Outcome ε Bool).Returns ↔ ∃ b, v = bool b := by
  cases v <;> simp [assertBool, toBool?, Outcome.Returns]

theorem assertString_returns {v : GoValue} :
    (assertString v : Outcome ε GoString).Returns ↔ ∃ s, v = string s := by
  cases v <;> simp [assertString, toString?, Outcome.Returns]

end GoValue

/-- One argument of a `fmt.Errorf` call other than the error printed by `%w`. -/
inductive FmtArg where
  | str (s : GoString)
  | int (n : Int)
  | value (v : GoValue)
  deriving Repr, DecidableEq

/-- A Go `error`: a sentinel made by `errors.New`, or the result of
`fmt.Errorf`. Every `%w` of the source is the last verb of its format, so a
wrapping error keeps the wrapped one apart from the other arguments. -/
inductive GoError where
  | new (text : String)
  | errorf (format : String) (args : List FmtArg)
  | wrapf (format : String) (args : List FmtArg) (err : GoError)
  deriving Repr, DecidableEq

namespace GoError

/-- `errors.Is(err, target)` for a sentinel `target`. -/
def is (target : String) : GoError → Bool
  | new text => text == target
  | errorf _ _ => false
  | wrapf _ _ err => err.is target

@[simp] theorem is_new (target text : String) : (new text).is target = (text == target) := rfl

@[simp] theorem is_errorf (target format : String) (args : List FmtArg) :
    (errorf format args).is target = false := rfl

@[simp] theorem is_wrapf (target format : String) (args : List FmtArg) (err : GoError) :
    (wrapf format args err).is target = err.is target := rfl

end GoError

/-- `strings.Contains`: `substr` occurs in `s` as a run of bytes. -/
def Contains (s substr : GoString) : Bool := decide (substr <:+: s)

/-- The panic message of a nil pointer dereference or a call of a nil func. -/
def nilDereference : String := "runtime error: invalid memory address or nil pointer dereference"

/-- `io.EOF`. -/
def EOF : GoError := .new "EOF"

/-- `io.ErrUnexpectedEOF`. -/
def ErrUnexpectedEOF : GoError := .new "unexpected EOF"

end Go
