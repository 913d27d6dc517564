import Gldap.Mux
import Gldap.Ber.Tlv

/-! The connection loop of conn.go: `readPacket`, `readRequest` and one
iteration of `serveRequests`.

Each iteration reads one request and then either serves an unbind inline and
returns, serves a StartTLS request inline, or hands the request to a new
goroutine; a failed read ends the loop. The connection's reads are given as
the list of `ber.ReadPacket` results, and the server's shutdown as an event
among them.

`err.Error()`, the text of an error as `fmt` renders it, is the parameter
`Error`: the loop tests it for "unexpected EOF", and nothing proved here
depends on what it returns.
-/

set_option autoImplicit false

namespace Gldap

open Go Ber

/-- What the loop finds when it looks for the next request. -/
inductive ConnEvent where
  | shutdown
  | read (result : Except GoError Packet)
  deriving Repr

/-- What one iteration of `serveRequests` does: return (with nil, an error
or a panic), call the unbind route and return, serve inline, or spawn. -/
inductive Iteration (H : Type) where
  | stop (result : Outcome GoError Unit)
  | unbind (r : Request) (route : Option (Route H))
  | serveInline (r : Request)
  | spawn (r : Request)
  deriving Repr, DecidableEq

section Conn

variable (codec : Codec) (filters : FilterCodec) (Error : GoError → GoString)

def readPacket (connID requestID : Nat) (read : Except GoError Packet) : Outcome GoError Packet := do
  let op := lit "gldap.readPacket"
  let berPacket ← match read with
    | .ok berPacket => pure berPacket
    | .error err =>
      -- a TLS hello sent to a plain listener fails the read with this text
      .error (.wrapf "%s: %w" [.str op]
        (if Contains (Error err) (lit "invalid character for IA5String at pos 2") then
          .wrapf "%s: error reading ber packet for %d/%d (possible attempt to use TLS with a non-TLS server): %w"
            [.str op, .int connID, .int requestID] err
        else .wrapf "%s: error reading ber packet for %d/%d: %w" [.str op, .int connID, .int requestID] err))
  (basicValidation berPacket).mapError (.wrapf "%s: failed validation: %w" [.str op])
  pure berPacket

/-- `(*conn).readRequest`; the request ID doubles as the request's `ID`. -/
def readRequest (connID requestID : Nat) (read : Except GoError Packet) : Outcome GoError Request := do
  let op := lit "gldap.(Conn).readRequest"
  let p ← (readPacket Error connID requestID read).mapError
    (.wrapf "%s: error reading packet for %d/%d: %w" [.str op, .int connID, .int requestID])
  (newRequest codec filters (Int64.ofNat requestID) (some connID) p).mapError
    (.wrapf "%s: unable to create new in-memory request for %d/%d: %w"
      [.str op, .int connID, .int requestID])

/-- The read errors `serveRequests` takes for the peer closing the connection. -/
def closedByPeer (err : GoError) : Bool :=
  err.is "EOF" || err.is "unexpected EOF" || Contains (Error err) (lit "unexpected EOF")

variable {H : Type}

/-- The body of the `serveRequests` loop for request `requestID`. On shutdown
it writes "server stopping" and returns; the write and the read deadline are
taken to succeed. -/
def serveRequestsIteration (router : Mux H) (connID requestID : Nat) : ConnEvent → Iteration H
  | .shutdown => .stop (.ok ())
  | .read result =>
    match readRequest codec filters Error connID requestID result with
    | .ok r =>
      if r.routeOp = unbindRouteOperation then .unbind r router.unbindRoute
      else if r.extendedName = ExtendedOperationStartTLS then .serveInline r
      else .spawn r
    | .error err =>
      if closedByPeer Error err then .stop (.ok ())
      else .stop (.error (.wrapf "%s: error reading request: %w" [.str (lit "gldap.serveRequests")] err))
    | .panic message => .stop (.panic message)

end Conn

end Gldap
