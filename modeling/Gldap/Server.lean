import Gldap.Conn
import Gldap.Go.Goroutine

/-! The goroutines of a running server: server.go's accept loop in `Run`, one
goroutine per connection running `serveRequests`, and one goroutine per
request that `serveRequests` hands off.

`Run` starts each connection goroutine with a deferred `close` and `OnClose`
call and, unless `WithDisablePanicRecovery` was given, a deferred `recover`.
The request goroutines have only the deferred `requestsWg.Done()`, so a panic
in one of them is recovered nowhere. Handlers are opaque: `call h r` is the
message of the panic that handler `h` raises on request `r`, if it does.
-/

set_option autoImplicit false

namespace Gldap

open Go Ber

/-- What a goroutine of the server has left to do: the accept loop with the
connections still to come and the last connection ID used, a connection in
`serveRequests` with its last request ID and its remaining reads, or a
handed-off request. -/
inductive Task (H : Type) where
  | accept (pending : List (List ConnEvent)) (connID : Nat)
  | serve (connID requestID : Nat) (events : List ConnEvent)
  | request (r : Request)
  deriving Repr

/-- The deferred calls of a connection goroutine that the server can observe. -/
inductive ConnClosed where
  | close (connID : Nat)
  | onClose (connID : Nat)
  deriving Repr, DecidableEq

/-- What `Run` reads of the server: the router, the panic recovery option and
whether an `OnClose` handler was given. -/
structure ServerConfig (H : Type) where
  router : Mux H
  disablePanicRecovery : Bool
  onClose : Bool
  deriving Repr

variable {H : Type}

def ServerConfig.closeEffects (cfg : ServerConfig H) (connID : Nat) : List ConnClosed :=
  .close connID :: if cfg.onClose then [.onClose connID] else []

/-- The server's only goroutine before any connection: the caller of `Run`. -/
def serverStart (cfg : ServerConfig H) (conns : List (List ConnEvent)) :
    Process Unit (Task H) ConnClosed :=
  .running () [⟨.accept conns 0, false, []⟩] []

section Step

variable (codec : Codec) (filters : FilterCodec) (Error : GoError → GoString)
  (EqualFold : GoString → GoString → Bool) (call : H → Request → Option String)

/-- `Mux.serve` and the handler it calls: the message of the panic, if any. -/
def serveRequest (router : Mux H) (r : Request) : Option String :=
  match router.serve EqualFold r with
  | .ok (.handled h) => call h r
  | .ok _ | .error _ => none
  | .panic message => some message

/-- One step of a server goroutine. A connection whose reads are exhausted
was closed by its peer: the read returns `io.EOF` and `serveRequests` returns. -/
def serverStep (cfg : ServerConfig H) (_ : Unit) : Task H → Effect Unit (Task H) ConnClosed
  | .accept [] _ => .exit ()
  | .accept (events :: pending) connID =>
    .continue () (.accept pending (connID + 1))
      [⟨.serve (connID + 1) 0 events, !cfg.disablePanicRecovery, cfg.closeEffects (connID + 1)⟩]
  | .serve _ _ [] => .exit ()
  | .serve connID requestID (event :: events) =>
    match serveRequestsIteration codec filters Error cfg.router connID (requestID + 1) event with
    | .stop (.panic message) => .panic () message
    | .stop _ => .exit ()
    | .unbind r route =>
      match route with
      | none => .exit ()
      | some route =>
        -- the unbind handler runs on the connection goroutine, which then returns
        match route.handler with
        | none => .panic () nilDereference
        | some h =>
          match call h r with
          | some message => .panic () message
          | none => .exit ()
    | .serveInline r =>
      match serveRequest EqualFold call cfg.router r with
      | some message => .panic () message
      | none => .continue () (.serve connID (requestID + 1) events) []
    | .spawn r => .continue () (.serve connID (requestID + 1) events) [⟨.request r, false, []⟩]
  | .request r =>
    match serveRequest EqualFold call cfg.router r with
    | some message => .panic () message
    | none => .exit ()

/-- A request that `serveRequests` hands to a goroutine and whose handler
panics crashes the whole server, whether panic recovery is enabled or not. -/
theorem spawned_request_panic_crashes (cfg : ServerConfig H) {event : ConnEvent}
    {events : List ConnEvent} {pending : List (List ConnEvent)} {r : Request} {message : String}
    (hspawn : serveRequestsIteration codec filters Error cfg.router 1 1 event = .spawn r)
    (hpanic : serveRequest EqualFold call cfg.router r = some message) :
    Process.Reachable (serverStep codec filters Error EqualFold call cfg)
      (serverStart cfg ((event :: events) :: pending)) (.crashed message) := by
  -- Run accepts the connection, the connection hands off the request, the request panics
  have hrun : (serverStart cfg ((event :: events) :: pending)).run
      (serverStep codec filters Error EqualFold call cfg) [0, 1, 2] = some (.crashed message) := by
    simp [Process.run, Process.stepAt, serverStart, serverStep, hspawn, hpanic]
  exact Process.reachable_of_run _ hrun

end Step

/-- Recovery enabled, a delete route whose handler panics, and one client that
sends a delete request: the server crashes. -/
theorem delete_handler_panic_crashes_server :
    Process.Reachable
      (serverStep tlvCodec presentFilters (fun _ => []) (fun a b => a == b)
        (fun _ _ => some "handler panic") ⟨NewMux.registerAll [Registration.delete (some (0 : Nat)) []], false, true⟩)
      (serverStart ⟨NewMux.registerAll [Registration.delete (some (0 : Nat)) []], false, true⟩
        [[.read (.ok ⟨.universal, .constructed, TagSequence, .nil, [2, 1, 1, 0x4a, 4, 99, 110, 61, 120],
          [⟨.universal, .primitive, TagInteger, .int64 1, [1], []⟩,
            ⟨.application, .primitive, ApplicationDelRequest, .nil, lit "cn=x", []⟩]⟩)]])
      (.crashed "handler panic") := by
  -- the request is read as a delete of cn=x and handed to a goroutine
  have hspawn : serveRequestsIteration tlvCodec presentFilters (fun _ => [])
      (NewMux.registerAll [Registration.delete (some (0 : Nat)) []]) 1 1
      (.read (.ok ⟨.universal, .constructed, TagSequence, .nil, [2, 1, 1, 0x4a, 4, 99, 110, 61, 120],
          [⟨.universal, .primitive, TagInteger, .int64 1, [1], []⟩,
            ⟨.application, .primitive, ApplicationDelRequest, .nil, lit "cn=x", []⟩]⟩)) =
      .spawn ⟨1, 1, .delete ⟨1, lit "cn=x", []⟩, deleteRouteOperation, []⟩ := by
    decide +kernel
  exact spawned_request_panic_crashes tlvCodec presentFilters (fun _ => []) (fun a b => a == b)
    (fun _ _ => some "handler panic") _ hspawn (by decide +kernel)

end Gldap
