import Gldap.ServerRuns

/-! The order in which a connection's requests reach their handlers.

`serveRequests` reads a connection's requests one after another and goes on
only past a request it served inline (StartTLS) or handed to a goroutine of
its own; an unbind, the server's shutdown, a read that fails and a request
that does not decode all end the loop. So, whatever the interleaving of the
server's goroutines, each request a goroutine serves was read at a point of
its connection before which every event was read as a request the loop went
on past (`requests_served_in_order`): nothing a client sends after its
unbind, after the server began to stop, or after a packet the server could
not read, ever reaches a handler.

The invariant is kept goroutine by goroutine: the accept loop holds the
connections still to come, a connection goroutine the events after those it
went on past, and a request goroutine the place it was read from.
-/

set_option autoImplicit false

namespace Gldap

open Go Ber

variable {H : Type}

/-- The loop goes on past an iteration that serves inline or hands off. -/
def Iteration.continues : Iteration H → Bool
  | .serveInline _ | .spawn _ => true
  | _ => false

section Order

variable (codec : Codec) (filters : FilterCodec) (Error : GoError → GoString)
  (EqualFold : GoString → GoString → Bool) (call : H → Request → Option String)
  (cfg : ServerConfig H) (conns : List (List ConnEvent))

/-- The loop of connection `connID` went on past each of the events `pre`,
read in turn as requests 1, 2, ... -/
def ReadOn (connID : Nat) (pre : List ConnEvent) : Prop :=
  ∀ i (hi : i < pre.length),
    (serveRequestsIteration codec filters Error cfg.router connID (i + 1) pre[i]).continues = true

/-- Where a goroutine of the server stands in the connections' events. -/
def InOrder (g : Goroutine (Task H) ConnClosed) : Prop :=
  match g.task with
  | .accept pending connID => pending = conns.drop connID
  | .serve connID requestID events =>
    ∃ pre, conns[connID - 1]? = some (pre ++ events) ∧ pre.length = requestID ∧
      ReadOn codec filters Error cfg connID pre
  | .request r =>
    ∃ connID pre event post, conns[connID - 1]? = some (pre ++ event :: post) ∧
      ReadOn codec filters Error cfg connID pre ∧
      serveRequestsIteration codec filters Error cfg.router connID (pre.length + 1) event = .spawn r

theorem readOn_nil (connID : Nat) : ReadOn codec filters Error cfg connID [] := fun _ hi => absurd hi (by simp)

/-- Going on past one more event extends what the loop went on past. -/
theorem readOn_append {connID : Nat} {pre : List ConnEvent} {event : ConnEvent}
    (hpre : ReadOn codec filters Error cfg connID pre)
    (hevent : (serveRequestsIteration codec filters Error cfg.router connID (pre.length + 1) event).continues = true) :
    ReadOn codec filters Error cfg connID (pre ++ [event]) := by
  intro i hi
  rw [List.length_append, List.length_singleton] at hi
  by_cases hlt : i < pre.length
  · rw [List.getElem_append_left hlt]
    exact hpre i hlt
  · have heq : i = pre.length := by omega
    subst heq
    simpa using hevent

/-- A connection goroutine goes on only past an event the loop went on past. -/
theorem serverStep_serve_continues {connID requestID : Nat} {event : ConnEvent} {events : List ConnEvent}
    {task : Task H} {spawned : List (Goroutine (Task H) ConnClosed)}
    (h : serverStep codec filters Error EqualFold call cfg () (.serve connID requestID (event :: events)) =
      .continue () task spawned) :
    (serveRequestsIteration codec filters Error cfg.router connID (requestID + 1) event).continues = true := by
  cases hit : serveRequestsIteration codec filters Error cfg.router connID (requestID + 1) event with
  | serveInline r => rfl
  | spawn r => rfl
  | stop result =>
    simp only [serverStep, hit] at h
    cases result <;> simp at h
  | unbind r route =>
    -- the unbind route runs on the connection goroutine, which then returns
    simp only [serverStep, hit] at h
    rcases route with _ | route
    · simp at h
    · simp only at h
      split at h
      · simp at h
      · split at h <;> simp at h

/-- The accept loop holds the connections after the last ID it used. -/
theorem inOrder_start :
    Process.Holds (fun _ gs _ => ∀ g ∈ gs, InOrder codec filters Error cfg conns g) (serverStart cfg conns) := by
  intro g hg
  rw [Multiset.mem_coe, List.mem_singleton] at hg
  subst hg
  simp [InOrder]

/-- Accepting a connection moves the accept loop on by one, and starts the
connection at its first event. -/
theorem InOrder.accept {g : Goroutine (Task H) ConnClosed} {pending : List (List ConnEvent)} {connID : Nat}
    {events : List ConnEvent} (hg : InOrder codec filters Error cfg conns g)
    (hk : g.task = .accept (events :: pending) connID) :
    InOrder codec filters Error cfg conns { g with task := .accept pending (connID + 1) } ∧
      InOrder codec filters Error cfg conns (cfg.connGoroutine (connID + 1) events) := by
  rw [InOrder, hk] at hg
  -- the connection accepted is the next one of the list
  have hnext : conns[connID]? = some events := by
    have hhead := congrArg List.head? hg
    rw [List.head?_drop] at hhead
    exact hhead.symm
  have hrest : pending = conns.drop (connID + 1) := by
    have htail := congrArg List.tail hg
    rw [List.tail_drop] at htail
    exact htail
  exact ⟨hrest, [], by simpa using hnext, rfl, readOn_nil codec filters Error cfg _⟩

/-- A connection goroutine that goes on past an event moves past it, and the
request it hands off was read there. -/
theorem InOrder.serve {g : Goroutine (Task H) ConnClosed} {connID requestID : Nat} {event : ConnEvent}
    {events : List ConnEvent} {spawned : List (Goroutine (Task H) ConnClosed)}
    (hg : InOrder codec filters Error cfg conns g) (hk : g.task = .serve connID requestID (event :: events))
    (hcontinues : (serveRequestsIteration codec filters Error cfg.router connID (requestID + 1) event).continues = true)
    (hspawned : ∀ x ∈ spawned, ∃ r, x.task = .request r ∧
      serveRequestsIteration codec filters Error cfg.router connID (requestID + 1) event = .spawn r) :
    InOrder codec filters Error cfg conns { g with task := .serve connID (requestID + 1) events } ∧
      ∀ x ∈ spawned, InOrder codec filters Error cfg conns x := by
  rw [InOrder, hk] at hg
  obtain ⟨pre, hconn, hlen, hread⟩ := hg
  subst hlen
  refine ⟨⟨pre ++ [event], by simpa using hconn, by simp, readOn_append codec filters Error cfg hread hcontinues⟩, ?_⟩
  intro x hx
  obtain ⟨r, hr, hspawn⟩ := hspawned x hx
  rw [InOrder, hr]
  exact ⟨connID, pre, event, events, hconn, hread, hspawn⟩

/-- Every step of every goroutine keeps each goroutine in order. -/
theorem inOrder_local :
    Process.LocalInvariant (serverStep codec filters Error EqualFold call cfg)
      (fun _ gs _ => ∀ g ∈ gs, InOrder codec filters Error cfg conns g) where
  continued := by
    intro shared g rest log shared' task spawned h hstep
    cases shared
    cases shared'
    have hg := h g (Multiset.mem_cons_self _ _)
    have hrest : ∀ x ∈ rest, InOrder codec filters Error cfg conns x := fun x hx => h x (Multiset.mem_cons_of_mem hx)
    -- the goroutine that moved and those it started, case by case; the others are as they were
    suffices hnew : InOrder codec filters Error cfg conns { g with task := task } ∧
        ∀ x ∈ spawned, InOrder codec filters Error cfg conns x by
      intro x hx
      rcases Multiset.mem_add.mp hx with hx | hx
      · rcases Multiset.mem_cons.mp hx with rfl | hx
        · exact hnew.1
        · exact hrest x hx
      · exact hnew.2 x (Multiset.mem_coe.mp hx)
    cases hk : g.task with
    | accept pending connID =>
      rw [hk] at hstep
      obtain ⟨events, pending', rfl, rfl, rfl⟩ :=
        serverStep_accept_continue codec filters Error EqualFold call cfg hstep
      obtain ⟨haccept, hconn⟩ := hg.accept codec filters Error cfg conns hk
      exact ⟨haccept, fun x hx => by rw [List.mem_singleton.mp hx]; exact hconn⟩
    | serve connID requestID events =>
      rw [hk] at hstep
      obtain ⟨event, events', rfl, rfl, hspawned⟩ :=
        serverStep_serve_continue codec filters Error EqualFold call cfg hstep
      have hcontinues := serverStep_serve_continues codec filters Error EqualFold call cfg hstep
      exact hg.serve codec filters Error cfg conns hk hcontinues fun x hx =>
        let ⟨_, _, r, hr, hspawn⟩ := hspawned x hx
        ⟨r, hr, hspawn⟩
    | request r =>
      rw [hk] at hstep
      exact absurd hstep (serverStep_request_ne_continue codec filters Error EqualFold call cfg r task spawned)
  exited := fun h _ x hx => h x (Multiset.mem_cons_of_mem hx)
  recovered := fun h _ _ x hx => h x (Multiset.mem_cons_of_mem hx)

/-- In every run of the server, under every interleaving, each request that a
goroutine of its own serves was read from event `pre.length + 1` of its
connection, and the loop went on past every event before it: each was read
as a request that was served inline or handed off. So no request that follows
an unbind, the server's shutdown, a failed read or a request that could not
be decoded, on the same connection, ever reaches a handler goroutine. -/
theorem requests_served_in_order {gs : List (Goroutine (Task H) ConnClosed)} {log : List ConnClosed}
    (hr : Process.Reachable (serverStep codec filters Error EqualFold call cfg) (serverStart cfg conns)
      (.running () gs log)) :
    ∀ g ∈ gs, ∀ r, g.task = .request r → ∃ connID pre event post,
      conns[connID - 1]? = some (pre ++ event :: post) ∧
      (∀ i (hi : i < pre.length),
        (serveRequestsIteration codec filters Error cfg.router connID (i + 1) pre[i]).continues = true) ∧
      serveRequestsIteration codec filters Error cfg.router connID (pre.length + 1) event = .spawn r := by
  have hinv : ∀ g ∈ (↑gs : Multiset (Goroutine (Task H) ConnClosed)), InOrder codec filters Error cfg conns g :=
    (inOrder_local codec filters Error EqualFold call cfg conns).reachable
      (inOrder_start codec filters Error cfg conns) hr
  intro g hg r hk
  have hin := hinv g (Multiset.mem_coe.mpr hg)
  rw [InOrder, hk] at hin
  exact hin

/-- One client that sends a delete request of `cn=x`: once its connection
has handed the request off, the request goroutine holds the request read as
the connection's first event. -/
theorem delete_request_read_first :
    let event : ConnEvent := .read (.ok ⟨.universal, .constructed, TagSequence, .nil, [2, 1, 1, 0x4a, 4, 99, 110, 61, 120],
      [⟨.universal, .primitive, TagInteger, .int64 1, [1], []⟩,
        ⟨.application, .primitive, ApplicationDelRequest, .nil, lit "cn=x", []⟩]⟩)
    let cfg : ServerConfig Nat := ⟨NewMux.registerAll [Registration.delete (some (0 : Nat)) []], false, false⟩
    let r : Request := ⟨1, 1, .delete ⟨1, lit "cn=x", []⟩, deleteRouteOperation, []⟩
    let gs : List (Goroutine (Task Nat) ConnClosed) :=
      [⟨.accept [] 1, false, []⟩, ⟨.serve 1 1 [], true, [.close 1]⟩, ⟨.request r, false, []⟩]
    Process.Reachable (serverStep tlvCodec presentFilters (fun _ => []) (fun a b => a == b) (fun _ _ => none) cfg)
        (serverStart cfg [[event]]) (.running () gs []) ∧
      ∀ g ∈ gs, ∀ r', g.task = .request r' → ∃ connID pre e post,
        [[event]][connID - 1]? = some (pre ++ e :: post) ∧
        (∀ i (hi : i < pre.length),
          (serveRequestsIteration tlvCodec presentFilters (fun _ => []) cfg.router connID (i + 1) pre[i]).continues =
            true) ∧
        serveRequestsIteration tlvCodec presentFilters (fun _ => []) cfg.router connID (pre.length + 1) e =
          .spawn r' := by
  intro event cfg r gs
  -- the request is read as a delete of cn=x and handed to a goroutine
  have hspawn : serveRequestsIteration tlvCodec presentFilters (fun _ => []) cfg.router 1 1 event = .spawn r := by
    decide +kernel
  have hrun : (serverStart cfg [[event]]).run
      (serverStep tlvCodec presentFilters (fun _ => []) (fun a b => a == b) (fun _ _ => none) cfg) [0, 1] =
        some (.running () gs []) := by
    simp [Process.run, Process.stepAt, serverStart, serverStep, hspawn, gs, ServerConfig.closeEffects, cfg]
  have hr := Process.reachable_of_run _ hrun
  exact ⟨hr, requests_served_in_order tlvCodec presentFilters (fun _ => []) (fun a b => a == b) (fun _ _ => none)
    cfg [[event]] hr⟩

end Order

end Gldap
