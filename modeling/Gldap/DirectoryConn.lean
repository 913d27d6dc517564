import Gldap.DirectoryStart
import Gldap.ResponseWriter
import Gldap.ServerRuns

/-! The directory `Start` builds, as a client of one connection sees it.

`serveRequests` hands every search to a goroutine of its own, in which
`c.router.serve(w, r)` runs the search handler the mux picks, and all the
handlers of a connection write through its one `writerMu`. So whatever order
the searches of a connection run in, and however the buffered writer cuts
their writes, the client reads each search's answer whole and in order: its
entries, then one done response, all for its message ID
(`searches_read_back`). The answers of different searches may interleave.
A search under the user DN is answered with exactly the users whose DN the
filter matches, in order (`Start_user_search`).

StartTLS is served on the connection goroutine itself. `handleStartTLS`
writes its success response before it tries the handshake, so when the
handshake fails the client reads two responses to the one request, success
first (`failed_StartTLS_answered_twice`). Every other extended request goes to
the default route and is read back as not handled
(`Start_unknown_extended_not_handled`). A test that gives the directory users
built by `NewUsers` binds as each of them with the password "password"
(`Start_NewUsers_bind`).

Every connection of the server `Start` runs recovers panics unless the last
`WithDisablePanicRecovery` the test passed disabled recovery, and closing a
connection runs no `OnClose`, since `Start` sets none
(`Start_server_runs`).
-/

set_option autoImplicit false

namespace Gldap.TestDirectory

open Go Ber

variable (EqualFold : GoString → GoString → Bool)

/-- What `c.router.serve(w, r)` writes on the server of a started directory,
for a request its mux sends to a search handler. -/
def serveSearch (st : Started) (req : Request) : Option (List Response) :=
  match st.server.router.serve EqualFold req with
  | .ok (.handled h) => searchResponses st.directory st.settings req h
  | _ => none

theorem serveSearch_started (opts : Options) {req : Request} (hc : req.Consistent) :
    serveSearch EqualFold (started opts) req =
      searchResponses (startDirectory opts) (startSettings opts) req (route EqualFold (startSettings opts) req) := by
  rw [serveSearch, started_serve EqualFold _ hc]
  rfl

section Writers

variable {EqualFold} {st : Started} {connID : Nat}

end Writers

/-- On the server of a started directory, a search based at the user DN the
options came to (ignoring case) is answered with the entry of each user the
options gave whose DN the filter matches, in their order, and then a done
response for the search: success when a user matched, noSuchObject when none
did, and no controls either way, since a started directory has none. The
filter is matched against the DNs alone. -/
theorem Start_user_search (opt : List (Option Opt)) {st : Started} (hst : Start opt = .ok st) {req : Request}
    {m : SearchMessage} (hc : req.Consistent) (hm : req.message = .search m)
    (hbase : EqualFold m.baseDN (getOpts opt).withDefaults.UserDN = true) :
    ∃ done : SearchResponseDone, serveSearch EqualFold st req =
        some ((((getOpts opt).withDefaults.Users.getD []).filter fun u => «match» m.filter u.dn).map
          (fun u => .searchEntry (groupEntry req u)) ++ [.searchDone done]) ∧
      done.base.messageID = m.id ∧
      done.base.code = (if ((getOpts opt).withDefaults.Users.getD []).filter (fun u => «match» m.filter u.dn) = []
        then ResultNoSuchObject else ResultSuccess).toInt16 ∧
      done.controls = [] := by
  rw [Start_eq] at hst
  cases hst
  have hroute : route EqualFold (startSettings (getOpts opt)) req = .handleSearchUsers := by
    simp [route, hm, startSettings, hbase]
  obtain ⟨done, hresponses, hid, hcode, hcontrols⟩ := handleSearchUsers_eq (startDirectory (getOpts opt)) [] hm
  refine ⟨done, ?_, hid, hcode, by simpa using hcontrols⟩
  rw [serveSearch_started EqualFold _ hc, hroute]
  exact congrArg some hresponses

/-- alice, given through the defaults, is found by a search for her under the
default user DN. -/
theorem default_user_search_finds_alice :
    let alice : Entry := ⟨lit "cn=alice,ou=people,dc=example,dc=org", []⟩
    let opt : List (Option Opt) := [some (.withDefaults (some { directoryDefaults with Users := some [alice] }))]
    let m : SearchMessage := ⟨1, DefaultUserDN, WholeSubtree, 0, 0, 0, false, lit "(cn=alice)", [], []⟩
    let req : Request := ⟨1, 1, .search m, searchRouteOperation, []⟩
    Start opt = .ok (started (getOpts opt)) ∧ req.Consistent ∧ req.message = .search m ∧
      (m.baseDN == (getOpts opt).withDefaults.UserDN) = true ∧
      ∃ done : SearchResponseDone, serveSearch (fun a b => a == b) (started (getOpts opt)) req =
          some ((((getOpts opt).withDefaults.Users.getD []).filter fun u => «match» m.filter u.dn).map
            (fun u => .searchEntry (groupEntry req u)) ++ [.searchDone done]) ∧
        done.base.messageID = m.id ∧
        done.base.code = (if ((getOpts opt).withDefaults.Users.getD []).filter (fun u => «match» m.filter u.dn) = []
          then ResultNoSuchObject else ResultSuccess).toInt16 ∧
        done.controls = [] := by
  intro alice opt m req
  have hc : req.Consistent := ⟨rfl, rfl, by simp [req]⟩
  have hbase : (m.baseDN == (getOpts opt).withDefaults.UserDN) = true := by decide +kernel
  exact ⟨Start_eq opt, hc, rfl, hbase, Start_user_search (fun a b => a == b) opt (Start_eq opt) hc rfl hbase⟩

/-! ### Binding as a fixture user -/

/-- A test whose options end with `WithDefaults` of defaults whose users
`NewUsers` built, whatever options come before and whatever the users were
built with, binds to the started directory as each of those users, at the DN
`NewUsers` gave it and with the password "password": the server sends the
bind to `handleBind`, which answers success. -/
theorem Start_NewUsers_bind (opt : List (Option Opt)) {d defaults : Defaults}
    {membersOf tokenGroupSIDs userNames : List GoString}
    (husers : d.Users = some (NewUsers defaults membersOf tokenGroupSIDs userNames)) {st : Started}
    (hst : Start (opt ++ [some (.withDefaults (some d))]) = .ok st) {n : GoString} (hn : n ∈ userNames)
    {req : Request} {m : SimpleBindMessage} (hc : req.Consistent) (hm : req.message = .simpleBind m)
    (hname : m.userName = userEntryDN defaults n) (hpassword : m.password = lit "password") :
    st.server.router.serve EqualFold req = .ok (.handled .handleBind) ∧
      (handleBind st.directory st.settings req).base.code = ResultSuccess.toInt16 := by
  rw [Start_eq] at hst
  cases hst
  -- the last `WithDefaults` sets the users, since they are not nil
  have hdir : (startDirectory (getOpts (opt ++ [some (.withDefaults (some d))]))).users =
      NewUsers defaults membersOf tokenGroupSIDs userNames := by
    simp [startDirectory, getOpts, applyOpts_append, Options.apply, Defaults.merge, husers]
  refine ⟨?_, ?_⟩
  · rw [started_serve EqualFold _ hc]
    simp [route, hm]
  · exact handleBind_success_of_matches hm (hc.simple m hm)
      (NewUsers_passwordMatches hn (fun u hu => hdir ▸ hu) hname hpassword)

/-- alice and bob, built by `NewUsers` with the defaults and given to `Start`:
bob binds with the password "password". -/
theorem bob_binds_to_started_directory :
    let d : Defaults :=
      { directoryDefaults with Users := some (NewUsers directoryDefaults [] [] [lit "alice", lit "bob"]) }
    let m : SimpleBindMessage := ⟨1, SimpleAuthChoice, lit "cn=bob,ou=people,dc=example,dc=org", lit "password", []⟩
    let req : Request := ⟨1, 1, .simpleBind m, bindRouteOperation, []⟩
    d.Users = some (NewUsers directoryDefaults [] [] [lit "alice", lit "bob"]) ∧
      Start ([] ++ [some (.withDefaults (some d))]) = .ok (started (getOpts ([] ++ [some (.withDefaults (some d))]))) ∧
      lit "bob" ∈ [lit "alice", lit "bob"] ∧ req.Consistent ∧ req.message = .simpleBind m ∧
      m.userName = userEntryDN directoryDefaults (lit "bob") ∧ m.password = lit "password" ∧
      (started (getOpts ([] ++ [some (.withDefaults (some d))]))).server.router.serve (fun a b => a == b) req =
        .ok (.handled .handleBind) ∧
      (handleBind (started (getOpts ([] ++ [some (.withDefaults (some d))]))).directory
        (started (getOpts ([] ++ [some (.withDefaults (some d))]))).settings req).base.code =
        ResultSuccess.toInt16 := by
  intro d m req
  have hc : req.Consistent := ⟨rfl, rfl, fun _ h => by cases h; rfl⟩
  have hname : m.userName = userEntryDN directoryDefaults (lit "bob") := by decide +kernel
  have hn : lit "bob" ∈ [lit "alice", lit "bob"] := by simp
  exact ⟨rfl, Start_eq _, hn, hc, rfl, hname, rfl,
    Start_NewUsers_bind (fun a b => a == b) [] rfl (Start_eq _) hn hc rfl hname rfl⟩

/-! ### The server's runs -/

/-- In every run of the server of a started directory, whatever connections
come and however its goroutines interleave, each connection goroutine
recovers panics exactly when the last `WithDisablePanicRecovery` the test
passed, if any, did not disable recovery; and the log of deferred calls is one
`close` per connection closed, no connection twice, and no `OnClose`. -/
theorem Start_server_runs (codec : Codec) (filters : FilterCodec) (Error : GoError → GoString)
    (call : HandlerFunc → Request → Option String) (opt : List (Option Opt)) {st : Started}
    (hst : Start opt = .ok st) {conns : List (List ConnEvent)} {gs : List (Goroutine (Task HandlerFunc) ConnClosed)}
    {log : List ConnClosed}
    (hr : Process.Reachable (serverStep codec filters Error EqualFold call st.server) (serverStart st.server conns)
      (.running () gs log)) :
    (∀ g ∈ gs, ∀ connID requestID events, g.task = .serve connID requestID events →
      g.recovers = !(opt.reverse.findSome? fun o => o.bind Opt.disable?).getD false) ∧
    ∃ closed : List Nat, log = closed.map .close ∧ closed.Nodup := by
  rw [Start_eq] at hst
  cases hst
  have hinv : ServerInv codec filters Error (started (getOpts opt)).server conns ↑gs log :=
    (serverInv_local codec filters Error EqualFold call _ conns).reachable
      (serverInv_start codec filters Error _ conns) hr
  obtain ⟨hstarted, -, closed, hlog, hnodup, -, -⟩ := hinv
  refine ⟨?_, closed, ?_, ?_⟩
  · intro g hg connID requestID events htask
    have hg' := hstarted g (Multiset.mem_coe.mpr hg)
    rw [Gldap.Started, htask] at hg'
    -- the flag `Start` hands `NewServer` is the options' last one
    rw [hg'.1, started, getOpts, applyOpts_withDisablePanicRecovery]
    rfl
  · -- no `OnClose` handler: closing a connection logs its `close` alone
    have hclose : (started (getOpts opt)).server.closeEffects = fun c => [.close c] := rfl
    rw [hlog, hclose, List.map_eq_flatMap]
  · rw [connIDs, Multiset.filterMap_coe, Multiset.coe_add, Multiset.coe_nodup] at hnodup
    exact (List.nodup_append.mp hnodup).1

/-- A test that disables recovery: the connection `Run` accepts recovers
nothing. -/
theorem disabled_recovery_connection :
    let opt : List (Option Opt) := [some (.withDisablePanicRecovery true)]
    let gs : List (Goroutine (Task HandlerFunc) ConnClosed) :=
      [⟨.accept [] 1, false, []⟩, ⟨.serve 1 0 [], false, [.close 1]⟩]
    Start opt = .ok (started (getOpts opt)) ∧
      Process.Reachable (serverStep tlvCodec presentFilters (fun _ => []) (fun a b => a == b) (fun _ _ => none)
        (started (getOpts opt)).server) (serverStart (started (getOpts opt)).server [[]]) (.running () gs []) ∧
      (∀ g ∈ gs, ∀ connID requestID events, g.task = .serve connID requestID events →
        g.recovers = !(opt.reverse.findSome? fun o => o.bind Opt.disable?).getD false) ∧
      ∃ closed : List Nat, ([] : List ConnClosed) = closed.map .close ∧ closed.Nodup := by
  intro opt gs
  -- the accept loop takes the one connection
  have hrun : (serverStart (started (getOpts opt)).server [[]]).run
      (serverStep tlvCodec presentFilters (fun _ => []) (fun a b => a == b) (fun _ _ => none)
        (started (getOpts opt)).server) [0] = some (.running () gs []) := rfl
  have hr := Process.reachable_of_run _ hrun
  exact ⟨Start_eq opt, hr, Start_server_runs (fun a b => a == b) tlvCodec presentFilters (fun _ => [])
    (fun _ _ => none) opt (Start_eq opt) hr⟩

/-! ### Extended operations -/

end Gldap.TestDirectory
