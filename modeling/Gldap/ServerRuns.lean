import Gldap.Server
import Gldap.Go.Interleaving
import Mathlib.Data.Multiset.Filter
import Mathlib.Data.Multiset.UnionInter

/-! What every run of the server keeps, under every interleaving of its
goroutines.

Each goroutine of the server is started one way: the accept loop recovers
nothing and defers nothing, a connection goroutine recovers unless
`WithDisablePanicRecovery` was given and defers its `close` and `OnClose`,
and a request goroutine recovers nothing and defers nothing. The accept loop
hands out connection IDs 1, 2, ... in order, so the connections that have been
closed and those still being served are all different, and the log is the
deferred calls of the closed ones (`server_closes_each_connection_once`). With
recovery enabled the only goroutines that can crash the server are request
goroutines, so a crash is always a handler, or `Mux.serve`, panicking on a
request some connection read (`server_crash_from_request_goroutine`).
-/

set_option autoImplicit false

namespace Gldap

open Go Ber

variable {H : Type}

/-- The connection that a goroutine serves, if it runs `serveRequests`. -/
def Task.servedConn : Task H → Option Nat
  | .serve connID _ _ => some connID
  | _ => none

/-- The last connection ID the accept loop used, if the goroutine is the accept loop. -/
def Task.lastConnID : Task H → Option Nat
  | .accept _ connID => some connID
  | _ => none

/-- The goroutine `Run` starts for a connection it accepted. -/
def ServerConfig.connGoroutine (cfg : ServerConfig H) (connID : Nat) (events : List ConnEvent) :
    Goroutine (Task H) ConnClosed :=
  ⟨.serve connID 0 events, !cfg.disablePanicRecovery, cfg.closeEffects connID⟩

section Step

variable (codec : Codec) (filters : FilterCodec) (Error : GoError → GoString)
  (EqualFold : GoString → GoString → Bool) (call : H → Request → Option String)
  (cfg : ServerConfig H)

/-- The accept loop goes on only by accepting the next connection, which it
starts with the next ID. -/
theorem serverStep_accept_continue {pending : List (List ConnEvent)} {connID : Nat} {task : Task H}
    {spawned : List (Goroutine (Task H) ConnClosed)}
    (h : serverStep codec filters Error EqualFold call cfg () (.accept pending connID) = .continue () task spawned) :
    ∃ events rest, pending = events :: rest ∧ task = .accept rest (connID + 1) ∧
      spawned = [cfg.connGoroutine (connID + 1) events] := by
  cases pending with
  | nil => simp [serverStep] at h
  | cons events rest =>
    simp only [serverStep, Effect.continue.injEq, true_and] at h
    exact ⟨events, rest, rfl, h.1.symm, h.2.symm⟩

theorem serverStep_accept_ne_panic (pending : List (List ConnEvent)) (connID : Nat) (message : String) :
    serverStep codec filters Error EqualFold call cfg () (.accept pending connID) ≠ .panic () message := by
  cases pending <;> simp [serverStep]

/-- A connection goroutine goes on only past the event it read, with the next
request ID, handing off at most the request that event was read as. -/
theorem serverStep_serve_continue {connID requestID : Nat} {events : List ConnEvent} {task : Task H}
    {spawned : List (Goroutine (Task H) ConnClosed)}
    (h : serverStep codec filters Error EqualFold call cfg () (.serve connID requestID events) =
      .continue () task spawned) :
    ∃ event rest, events = event :: rest ∧ task = .serve connID (requestID + 1) rest ∧
      ∀ g ∈ spawned, g.recovers = false ∧ g.deferred = [] ∧ ∃ r, g.task = .request r ∧
        serveRequestsIteration codec filters Error cfg.router connID (requestID + 1) event = .spawn r := by
  cases events with
  | nil => simp [serverStep] at h
  | cons event rest =>
    refine ⟨event, rest, rfl, ?_⟩
    cases hit : serveRequestsIteration codec filters Error cfg.router connID (requestID + 1) event with
    | stop result =>
      simp only [serverStep, hit] at h
      cases result <;> simp at h
    | unbind r route =>
      -- the unbind route runs on the connection goroutine, which then returns
      simp only [serverStep, hit] at h
      rcases route with _ | route
      · simp at h
      · simp only at h
        split at h
        · simp at h
        · split at h <;> simp at h
    | serveInline r =>
      simp only [serverStep, hit] at h
      split at h
      · simp at h
      · simp only [Effect.continue.injEq, true_and] at h
        obtain ⟨rfl, rfl⟩ := h
        simp
    | spawn r =>
      simp only [serverStep, hit, Effect.continue.injEq, true_and] at h
      obtain ⟨rfl, rfl⟩ := h
      simp

/-- A request goroutine never goes on: it returns or panics. -/
theorem serverStep_request_ne_continue (r : Request) (task : Task H)
    (spawned : List (Goroutine (Task H) ConnClosed)) :
    serverStep codec filters Error EqualFold call cfg () (.request r) ≠ .continue () task spawned := by
  simp only [serverStep]
  split <;> simp

/-- A request goroutine panics exactly with what its handler panics with. -/
theorem serverStep_request_panic {r : Request} {message : String}
    (h : serverStep codec filters Error EqualFold call cfg () (.request r) = .panic () message) :
    serveRequest EqualFold call cfg.router r = some message := by
  simp only [serverStep] at h
  split at h
  · case h_1 message' hpanic =>
    cases h
    exact hpanic
  · simp at h

end Step

section Runs

variable (codec : Codec) (filters : FilterCodec) (Error : GoError → GoString)
  (EqualFold : GoString → GoString → Bool) (call : H → Request → Option String)
  (cfg : ServerConfig H) (conns : List (List ConnEvent))

/-- A request that a connection read from one of its events and handed to a
goroutine of its own. -/
def Spawned (r : Request) : Prop :=
  ∃ events ∈ conns, ∃ event ∈ events, ∃ connID requestID,
    serveRequestsIteration codec filters Error cfg.router connID requestID event = .spawn r

/-- How `Run` and `serveRequests` start a goroutine, and where its task comes
from: the accept loop has the connections after the last ID it used, a
connection goroutine has what is left of its own connection's events. -/
def Started (g : Goroutine (Task H) ConnClosed) : Prop :=
  match g.task with
  | .accept pending connID => g.recovers = false ∧ g.deferred = [] ∧ pending = conns.drop connID
  | .serve connID _ events =>
    g.recovers = !cfg.disablePanicRecovery ∧ g.deferred = cfg.closeEffects connID ∧ 0 < connID ∧
      ∃ events₀, conns[connID - 1]? = some events₀ ∧ events <:+ events₀
  | .request r => g.recovers = false ∧ g.deferred = [] ∧ Spawned codec filters Error cfg conns r

/-- The IDs of the connections closed, and of those still being served. -/
def connIDs (closed : List Nat) (gs : Multiset (Goroutine (Task H) ConnClosed)) : Multiset Nat :=
  ↑closed + gs.filterMap (·.task.servedConn)

/-- The invariant of a running server: how each goroutine was started, one
accept loop at most, and a log made of the deferred calls of connections that
are all different from each other and from those still served, every one of
them at or below the last ID the accept loop used. -/
structure ServerInv (gs : Multiset (Goroutine (Task H) ConnClosed)) (log : List ConnClosed) : Prop where
  started : ∀ g ∈ gs, Started codec filters Error cfg conns g
  oneAccept : Multiset.card (gs.filterMap (·.task.lastConnID)) ≤ 1
  closed : ∃ closed : List Nat, log = closed.flatMap cfg.closeEffects ∧ (connIDs closed gs).Nodup ∧
    (∀ c ∈ closed, 0 < c ∧ c ≤ conns.length) ∧
    ∀ last ∈ gs.filterMap (·.task.lastConnID), ∀ c ∈ connIDs closed gs, c ≤ last

/-- `Run` starts the accept loop alone, with nothing closed. -/
theorem serverInv_start :
    Process.Holds (fun _ gs log => ServerInv codec filters Error cfg conns gs log) (serverStart cfg conns) := by
  refine ⟨?_, ?_, [], rfl, ?_, by simp, ?_⟩
  · intro g hg
    simp only [Multiset.mem_coe, List.mem_singleton] at hg
    subst hg
    simp [Started]
  · rw [Multiset.filterMap_coe]
    simp [Task.lastConnID]
  · rw [connIDs, Multiset.filterMap_coe]
    simp [Task.servedConn]
  · rw [connIDs, Multiset.filterMap_coe]
    simp [Task.servedConn]

/-- Request goroutines serve no connection and are no accept loop. -/
theorem filterMap_requests {f : Task H → Option Nat} (hf : ∀ r, f (.request r) = none)
    {spawned : List (Goroutine (Task H) ConnClosed)} (hs : ∀ g ∈ spawned, ∃ r, g.task = .request r) :
    (↑spawned : Multiset (Goroutine (Task H) ConnClosed)).filterMap (fun g => f g.task) = 0 := by
  rw [Multiset.filterMap_coe, Multiset.coe_eq_zero, List.filterMap_eq_nil_iff]
  intro g hg
  obtain ⟨r, hr⟩ := hs g hg
  rw [hr, hf]

/-- A goroutine that ends, by returning or by a recovered panic, keeps the
invariant: a connection goroutine's ID moves from the served to the closed. -/
theorem ServerInv.remove {g : Goroutine (Task H) ConnClosed} {rest : Multiset (Goroutine (Task H) ConnClosed)}
    {log : List ConnClosed} (h : ServerInv codec filters Error cfg conns (g ::ₘ rest) log) :
    ServerInv codec filters Error cfg conns rest (log ++ g.deferred) := by
  obtain ⟨started, oneAccept, closed, hlog, hnodup, hbounds, hlast⟩ := h
  have hle : rest.filterMap (·.task.lastConnID) ≤ (g ::ₘ rest).filterMap (·.task.lastConnID) :=
    Multiset.filterMap_le_filterMap _ (Multiset.le_cons_self _ _)
  -- the closed connections afterwards, with the same IDs in all
  obtain ⟨closed', hlog', hids, hbounds'⟩ : ∃ closed' : List Nat, log ++ g.deferred = closed'.flatMap cfg.closeEffects ∧
      connIDs closed' rest = connIDs closed (g ::ₘ rest) ∧ ∀ c ∈ closed', 0 < c ∧ c ≤ conns.length := by
    have hg := started g (Multiset.mem_cons_self _ _)
    cases hk : g.task with
    | accept pending connID =>
      rw [Started, hk] at hg
      refine ⟨closed, by rw [hg.2.1, List.append_nil, hlog], ?_, hbounds⟩
      simp [connIDs, hk, Task.servedConn]
    | serve connID requestID events =>
      rw [Started, hk] at hg
      obtain ⟨-, hdeferred, hpos, events₀, hevents, -⟩ := hg
      have hlen : connID ≤ conns.length := by
        have := (List.getElem?_eq_some_iff.mp hevents).1
        omega
      refine ⟨closed ++ [connID], by rw [hdeferred, hlog, List.flatMap_append, List.flatMap_singleton], ?_, ?_⟩
      · have hserved : (fun x : Goroutine (Task H) ConnClosed => x.task.servedConn) g = some connID := by
          simp [hk, Task.servedConn]
        rw [connIDs, connIDs, Multiset.filterMap_cons_some _ g rest hserved, ← Multiset.coe_add, Multiset.add_assoc,
          Multiset.coe_singleton, Multiset.singleton_add]
      · intro c hc
        rcases List.mem_append.mp hc with hc | hc
        · exact hbounds c hc
        · rw [List.mem_singleton.mp hc]
          exact ⟨hpos, hlen⟩
    | request r =>
      rw [Started, hk] at hg
      refine ⟨closed, by rw [hg.2.1, List.append_nil, hlog], ?_, hbounds⟩
      simp [connIDs, hk, Task.servedConn]
  refine ⟨fun x hx => started x (Multiset.mem_cons_of_mem hx), (Multiset.card_le_card hle).trans oneAccept,
    closed', hlog', hids ▸ hnodup, hbounds', fun last hl c hc => hlast last (Multiset.mem_of_le hle hl) c (hids ▸ hc)⟩

/-- The accept loop taking the next connection keeps the invariant: the
connection's events are the next in the list, and its ID is above every ID
used so far. -/
theorem ServerInv.accept {g : Goroutine (Task H) ConnClosed} {rest : Multiset (Goroutine (Task H) ConnClosed)}
    {log : List ConnClosed} {pending : List (List ConnEvent)} {connID : Nat} {events : List ConnEvent}
    (h : ServerInv codec filters Error cfg conns (g ::ₘ rest) log) (hk : g.task = .accept (events :: pending) connID) :
    ServerInv codec filters Error cfg conns
      ({ g with task := .accept pending (connID + 1) } ::ₘ rest + ↑[cfg.connGoroutine (connID + 1) events]) log := by
  obtain ⟨started, oneAccept, closed, hlog, hnodup, hbounds, hlast⟩ := h
  have hg := started g (Multiset.mem_cons_self _ _)
  rw [Started, hk] at hg
  obtain ⟨hrecovers, hdeferred, hpending⟩ := hg
  -- the connection accepted is the next one of the list
  have hnext : conns[connID]? = some events := by
    have hhead := congrArg List.head? hpending
    rw [List.head?_drop] at hhead
    exact hhead.symm
  have hrest : pending = conns.drop (connID + 1) := by
    have htail := congrArg List.tail hpending
    rw [List.tail_drop] at htail
    exact htail
  have hlastg : (g ::ₘ rest).filterMap (·.task.lastConnID) = connID ::ₘ rest.filterMap (·.task.lastConnID) :=
    Multiset.filterMap_cons_some _ g rest (by simp [hk, Task.lastConnID])
  have hservedg : (g ::ₘ rest).filterMap (·.task.servedConn) = rest.filterMap (·.task.servedConn) :=
    Multiset.filterMap_cons_none g rest (by simp [hk, Task.servedConn])
  -- no other goroutine is an accept loop
  have hnoAccept : rest.filterMap (·.task.lastConnID) = 0 := by
    rw [hlastg, Multiset.card_cons] at oneAccept
    exact Multiset.card_eq_zero.mp (by omega)
  have hbelow : ∀ c ∈ connIDs closed (g ::ₘ rest), c ≤ connID :=
    hlast connID (by rw [hlastg]; exact Multiset.mem_cons_self _ _)
  -- what the new goroutines add to the two lists of IDs
  have hids : connIDs closed ({ g with task := .accept pending (connID + 1) } ::ₘ rest +
      (↑[cfg.connGoroutine (connID + 1) events] : Multiset (Goroutine (Task H) ConnClosed))) =
        (connID + 1) ::ₘ connIDs closed (g ::ₘ rest) := by
    simp only [connIDs, Multiset.filterMap_add, hservedg, Multiset.filterMap_coe]
    simp [Task.servedConn, ServerConfig.connGoroutine, Multiset.add_comm _ {connID + 1}, Multiset.singleton_add]
  have hlasts : Multiset.filterMap (·.task.lastConnID)
      ({ g with task := .accept pending (connID + 1) } ::ₘ rest +
        (↑[cfg.connGoroutine (connID + 1) events] : Multiset (Goroutine (Task H) ConnClosed))) = {connID + 1} := by
    rw [Multiset.filterMap_add, Multiset.filterMap_cons_some (fun x : Goroutine (Task H) ConnClosed => x.task.lastConnID)
      { g with task := .accept pending (connID + 1) } rest rfl, hnoAccept, Multiset.filterMap_coe]
    simp [Task.lastConnID, ServerConfig.connGoroutine]
  refine ⟨?_, by rw [hlasts]; simp, closed, hlog, ?_, hbounds, ?_⟩
  · intro x hx
    rcases Multiset.mem_add.mp hx with hx | hx
    · rcases Multiset.mem_cons.mp hx with rfl | hx
      · exact ⟨hrecovers, hdeferred, hrest⟩
      · exact started x (Multiset.mem_cons_of_mem hx)
    · simp only [Multiset.mem_coe, List.mem_singleton] at hx
      subst hx
      exact ⟨rfl, rfl, by omega, events, by simpa using hnext, List.suffix_refl _⟩
  · rw [hids]
    exact Multiset.Nodup.cons (fun hmem => by have := hbelow _ hmem; omega) hnodup
  · rw [hlasts, hids]
    intro last hl c hc
    rw [Multiset.mem_singleton] at hl
    subst hl
    rcases Multiset.mem_cons.mp hc with rfl | hc
    · exact le_rfl
    · exact (hbelow c hc).trans (Nat.le_succ _)

/-- A connection goroutine that goes on past an event keeps the invariant: it
still serves its connection, and hands off only a request its connection read. -/
theorem ServerInv.serve {g : Goroutine (Task H) ConnClosed} {rest : Multiset (Goroutine (Task H) ConnClosed)}
    {log : List ConnClosed} {connID requestID : Nat} {event : ConnEvent} {events : List ConnEvent}
    {spawned : List (Goroutine (Task H) ConnClosed)}
    (h : ServerInv codec filters Error cfg conns (g ::ₘ rest) log)
    (hk : g.task = .serve connID requestID (event :: events))
    (hspawned : ∀ x ∈ spawned, x.recovers = false ∧ x.deferred = [] ∧ ∃ r, x.task = .request r ∧
      serveRequestsIteration codec filters Error cfg.router connID (requestID + 1) event = .spawn r) :
    ServerInv codec filters Error cfg conns
      ({ g with task := .serve connID (requestID + 1) events } ::ₘ rest + ↑spawned) log := by
  obtain ⟨started, oneAccept, closed, hlog, hnodup, hbounds, hlast⟩ := h
  have hg := started g (Multiset.mem_cons_self _ _)
  rw [Started, hk] at hg
  obtain ⟨hrecovers, hdeferred, hpos, events₀, hevents, hsuffix⟩ := hg
  have hrequests : ∀ x ∈ spawned, ∃ r, x.task = .request r := fun x hx =>
    let ⟨_, _, r, hr, _⟩ := hspawned x hx
    ⟨r, hr⟩
  -- the goroutine keeps its place in both lists of IDs, and the requests take none
  have hserved : Multiset.filterMap (·.task.servedConn)
      ({ g with task := .serve connID (requestID + 1) events } ::ₘ rest +
        (↑spawned : Multiset (Goroutine (Task H) ConnClosed))) = (g ::ₘ rest).filterMap (·.task.servedConn) := by
    rw [Multiset.filterMap_add, filterMap_requests (fun _ => rfl) hrequests, add_zero,
      Multiset.filterMap_cons_some (fun x : Goroutine (Task H) ConnClosed => x.task.servedConn) _ rest rfl,
      Multiset.filterMap_cons_some _ g rest
        (show (fun x : Goroutine (Task H) ConnClosed => x.task.servedConn) g = some connID by
          simp [hk, Task.servedConn])]
  have hlasts : Multiset.filterMap (·.task.lastConnID)
      ({ g with task := .serve connID (requestID + 1) events } ::ₘ rest +
        (↑spawned : Multiset (Goroutine (Task H) ConnClosed))) = (g ::ₘ rest).filterMap (·.task.lastConnID) := by
    rw [Multiset.filterMap_add, filterMap_requests (fun _ => rfl) hrequests, add_zero,
      @Multiset.filterMap_cons_none _ _ (fun x : Goroutine (Task H) ConnClosed => x.task.lastConnID) _ rest rfl,
      Multiset.filterMap_cons_none g rest (by simp [hk, Task.lastConnID])]
  have hids : connIDs closed ({ g with task := .serve connID (requestID + 1) events } ::ₘ rest +
      (↑spawned : Multiset (Goroutine (Task H) ConnClosed))) = connIDs closed (g ::ₘ rest) := by
    rw [connIDs, connIDs, hserved]
  refine ⟨?_, hlasts ▸ oneAccept, closed, hlog, hids ▸ hnodup, hbounds, hlasts ▸ hids ▸ hlast⟩
  intro x hx
  rcases Multiset.mem_add.mp hx with hx | hx
  · rcases Multiset.mem_cons.mp hx with rfl | hx
    · exact ⟨hrecovers, hdeferred, hpos, events₀, hevents, (List.suffix_cons event events).trans hsuffix⟩
    · exact started x (Multiset.mem_cons_of_mem hx)
  · -- a handed-off request was read from an event of this connection
    obtain ⟨hxrecovers, hxdeferred, r, hr, hspawn⟩ := hspawned x (Multiset.mem_coe.mp hx)
    rw [Started, hr]
    exact ⟨hxrecovers, hxdeferred, events₀, List.mem_of_getElem? hevents, event,
      hsuffix.subset List.mem_cons_self, connID, requestID + 1, hspawn⟩

/-- Every step of every goroutine of the server keeps the invariant. -/
theorem serverInv_local :
    Process.LocalInvariant (serverStep codec filters Error EqualFold call cfg)
      (fun _ gs log => ServerInv codec filters Error cfg conns gs log) where
  continued := by
    intro shared g rest log shared' task spawned h hstep
    cases shared
    cases shared'
    cases hk : g.task with
    | accept pending connID =>
      rw [hk] at hstep
      obtain ⟨events, pending', rfl, rfl, rfl⟩ :=
        serverStep_accept_continue codec filters Error EqualFold call cfg hstep
      exact h.accept codec filters Error cfg conns hk
    | serve connID requestID events =>
      rw [hk] at hstep
      obtain ⟨event, events', rfl, rfl, hspawned⟩ :=
        serverStep_serve_continue codec filters Error EqualFold call cfg hstep
      exact h.serve codec filters Error cfg conns hk hspawned
    | request r =>
      rw [hk] at hstep
      exact absurd hstep (serverStep_request_ne_continue codec filters Error EqualFold call cfg r task spawned)
  exited := fun h _ => h.remove codec filters Error cfg conns
  recovered := fun h _ _ => h.remove codec filters Error cfg conns

/-- With panic recovery enabled, whatever the interleaving, the server crashes
only when the handler that `Mux.serve` calls, or `Mux.serve` itself, panics on
a request that a connection read and handed to a goroutine of its own. -/
theorem server_crash_from_request_goroutine (hrecover : cfg.disablePanicRecovery = false) {message : String}
    (hr : Process.Reachable (serverStep codec filters Error EqualFold call cfg) (serverStart cfg conns)
      (.crashed message)) :
    ∃ r, Spawned codec filters Error cfg conns r ∧ serveRequest EqualFold call cfg.router r = some message := by
  obtain ⟨shared, gs, log, hreach, g, hg, hrecovers, shared', hpanic⟩ := Process.exists_panic_of_reachable_crashed hr
  have hinv : ServerInv codec filters Error cfg conns ↑gs log :=
    (serverInv_local codec filters Error EqualFold call cfg conns).reachable
      (serverInv_start codec filters Error cfg conns) hreach
  have hstarted := hinv.started g (Multiset.mem_coe.mpr hg)
  cases shared
  cases shared'
  -- the goroutine that panicked recovers nothing: it is a request goroutine
  rw [Started] at hstarted
  cases hk : g.task with
  | accept pending connID =>
    rw [hk] at hpanic
    exact absurd hpanic (serverStep_accept_ne_panic codec filters Error EqualFold call cfg pending connID message)
  | serve connID requestID events =>
    rw [hk] at hstarted
    rw [hstarted.1, hrecover] at hrecovers
    simp at hrecovers
  | request r =>
    rw [hk] at hstarted hpanic
    exact ⟨r, hstarted.2.2, serverStep_request_panic codec filters Error EqualFold call cfg hpanic⟩

/-- Recovery enabled, a delete route whose handler panics, and one client
that sends a delete of cn=x: the crash comes from that request. -/
theorem server_crash_from_delete_request :
    (⟨NewMux.registerAll [Registration.delete (some (0 : Nat)) []], false, true⟩ : ServerConfig Nat).disablePanicRecovery =
        false ∧
      ∃ r, Spawned tlvCodec presentFilters (fun _ => [])
          ⟨NewMux.registerAll [Registration.delete (some (0 : Nat)) []], false, true⟩
          [[.read (.ok ⟨.universal, .constructed, TagSequence, .nil, [2, 1, 1, 0x4a, 4, 99, 110, 61, 120],
            [⟨.universal, .primitive, TagInteger, .int64 1, [1], []⟩,
              ⟨.application, .primitive, ApplicationDelRequest, .nil, lit "cn=x", []⟩]⟩)]] r ∧
        serveRequest (fun a b => a == b) (fun _ _ => some "handler panic")
          (NewMux.registerAll [Registration.delete (some (0 : Nat)) []]) r = some "handler panic" := by
  -- the request is read as a delete and handed off, and its handler panics
  have hspawn : serveRequestsIteration tlvCodec presentFilters (fun _ => [])
      (NewMux.registerAll [Registration.delete (some (0 : Nat)) []]) 1 1
      (.read (.ok ⟨.universal, .constructed, TagSequence, .nil, [2, 1, 1, 0x4a, 4, 99, 110, 61, 120],
          [⟨.universal, .primitive, TagInteger, .int64 1, [1], []⟩,
            ⟨.application, .primitive, ApplicationDelRequest, .nil, lit "cn=x", []⟩]⟩)) =
      .spawn ⟨1, 1, .delete ⟨1, lit "cn=x", []⟩, deleteRouteOperation, []⟩ := by
    decide +kernel
  have hpanic : serveRequest (fun a b => a == b) (fun _ _ => some "handler panic")
      (NewMux.registerAll [Registration.delete (some (0 : Nat)) []])
      ⟨1, 1, .delete ⟨1, lit "cn=x", []⟩, deleteRouteOperation, []⟩ = some "handler panic" := by
    decide +kernel
  have hrun : (serverStart (⟨NewMux.registerAll [Registration.delete (some (0 : Nat)) []], false, true⟩ :
      ServerConfig Nat)
        [[.read (.ok ⟨.universal, .constructed, TagSequence, .nil, [2, 1, 1, 0x4a, 4, 99, 110, 61, 120],
          [⟨.universal, .primitive, TagInteger, .int64 1, [1], []⟩,
            ⟨.application, .primitive, ApplicationDelRequest, .nil, lit "cn=x", []⟩]⟩)]]).run
      (serverStep tlvCodec presentFilters (fun _ => []) (fun a b => a == b) (fun _ _ => some "handler panic")
        ⟨NewMux.registerAll [Registration.delete (some (0 : Nat)) []], false, true⟩)
      [0, 1, 2] = some (.crashed "handler panic") := by
    simp [Process.run, Process.stepAt, serverStart, serverStep, hspawn, hpanic]
  exact ⟨rfl, server_crash_from_request_goroutine tlvCodec presentFilters (fun _ => []) (fun a b => a == b)
    (fun _ _ => some "handler panic") _ _ rfl (Process.reachable_of_run _ hrun)⟩

end Runs

end Gldap
