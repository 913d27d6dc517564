import Gldap.DirectoryRouter
import Gldap.DirectoryFixtures
import Gldap.Server

/-! How `Start` builds a directory from its options, and the server it runs.

testdirectory's `getOpts` starts from `defaults` and applies each non-nil
option in order. `WithDefaults` merges field by field: a string, a map or a
slice it is given replaces the options' one only when it is non-empty (a
slice, when it is non-nil), and `AllowAnonymousBind` can only be switched on.
`Start` copies the users, the groups, the base DNs and `AllowAnonymousBind`
into the directory, passes `WithDisablePanicRecovery` on to gldap's
`NewServer`, and gives the server the mux of `DirectoryRouter`.

So the base DNs of every directory `Start` builds are non-empty, and its mux
sends a search to the user search exactly when the search is based at the user
DN (`Start_routes_search`); it takes an anonymous bind exactly when some
`WithDefaults` asked for one (`Start_anonymous_bind`); and nothing it builds
depends on the `TokenGroups` of the defaults it is given
(`Start_ignores_TokenGroups`).
-/

set_option autoImplicit false

namespace Gldap

open Go

/-! ### gldap's server options -/

/-- The options of server_options.go. Those of the logger, the TLS config and
the timeouts set fields that nothing modelled reads. -/
inductive ConfigOpt where
  | withLogger
  | withTLSConfig
  | withReadTimeout
  | withWriteTimeout
  | withDisablePanicRecovery
  | withOnClose (handler : Bool)
  deriving Repr, DecidableEq

/-- The fields of `configOptions` that `Run` reads; `withOnClose` says
whether the handler given is non-nil. -/
structure ConfigOptions where
  withDisablePanicRecovery : Bool
  withOnClose : Bool
  deriving Repr, DecidableEq

def configDefaults : ConfigOptions := ⟨false, false⟩

def ConfigOptions.apply (opts : ConfigOptions) : ConfigOpt → ConfigOptions
  | .withDisablePanicRecovery => { opts with withDisablePanicRecovery := true }
  | .withOnClose handler => { opts with withOnClose := handler }
  | _ => opts

def getConfigOpts (opt : List ConfigOpt) : ConfigOptions := opt.foldl ConfigOptions.apply configDefaults

variable {H : Type}

/-- `NewServer`: the empty router, the panic recovery option and the close
handler. -/
def NewServer (opt : List ConfigOpt) : ServerConfig H :=
  let opts := getConfigOpts opt
  ⟨NewMux, opts.withDisablePanicRecovery, opts.withOnClose⟩

/-- `(*Server).Router`; a nil mux is `none`. -/
def ServerConfig.Router (s : ServerConfig H) : Option (Mux H) → Except GoError (ServerConfig H)
  | none => .error (.wrapf "%s: missing router: %w" [.str (lit "gldap.(Server).HandleRoutes")] ErrInvalidParameter)
  | some r => .ok { s with router := r }

namespace TestDirectory

/-! ### testdirectory's options -/

/-- testdirectory's `options`, without the logger. -/
structure Options where
  withPort : Int
  withHost : GoString
  withNoTLS : Bool
  withMTLS : Bool
  withDisablePanicRecovery : Bool
  withDefaults : Defaults
  withMembersOf : List GoString
  withTokenGroupSIDs : List GoString
  withFirst : Bool
  deriving Repr, DecidableEq

/-- `defaults`. -/
def defaults : Options := ⟨0, lit "localhost", false, false, false, directoryDefaults, [], [], false⟩

/-- testdirectory's options; a nil `Option` is `none` in the lists they come in. -/
inductive Opt where
  | withDefaults (defaults : Option Defaults)
  | withMTLS
  | withNoTLS
  | withLogger
  | withPort (port : Int)
  | withHost (host : GoString)
  | withFirst
  | withMembersOf (membersOf : List GoString)
  | withTokenGroups (tokenGroupSID : List GoString)
  | withDisablePanicRecovery (disable : Bool)
  deriving Repr, DecidableEq

/-- The body of `WithDefaults` for defaults `d` that are not nil. -/
def Defaults.merge (o d : Defaults) : Defaults where
  UserAttr := if d.UserAttr ≠ [] then d.UserAttr else o.UserAttr
  GroupAttr := if d.GroupAttr ≠ [] then d.GroupAttr else o.GroupAttr
  Users := if d.Users.isSome then d.Users else o.Users
  Groups := if d.Groups.isSome then d.Groups else o.Groups
  TokenGroups := if d.TokenGroups.length > 0 then d.TokenGroups else o.TokenGroups
  UserDN := if d.UserDN ≠ [] then d.UserDN else o.UserDN
  GroupDN := if d.GroupDN ≠ [] then d.GroupDN else o.GroupDN
  AllowAnonymousBind := if d.AllowAnonymousBind then true else o.AllowAnonymousBind
  UPNDomain := if d.UPNDomain ≠ [] then d.UPNDomain else o.UPNDomain

/-- What each option does to the options. -/
def Options.apply (o : Options) : Opt → Options
  | .withDefaults none => o
  | .withDefaults (some d) => { o with withDefaults := o.withDefaults.merge d }
  | .withMTLS => { o with withMTLS := true }
  | .withNoTLS => { o with withNoTLS := true }
  | .withLogger => o
  | .withPort port => { o with withPort := port }
  | .withHost host => { o with withHost := TrimSpace host }
  | .withFirst => { o with withFirst := true }
  | .withMembersOf membersOf => { o with withMembersOf := membersOf }
  | .withTokenGroups tokenGroupSID => { o with withTokenGroupSIDs := tokenGroupSID }
  | .withDisablePanicRecovery disable => { o with withDisablePanicRecovery := disable }

/-- testdirectory's `applyOpts`: nil options are skipped. -/
def applyOpts (opts : Options) (opt : List (Option Opt)) : Options :=
  opt.foldl (fun acc o => match o with
    | none => acc
    | some o => acc.apply o) opts

def getOpts (opt : List (Option Opt)) : Options := applyOpts defaults opt

/-! ### What the options come to -/

@[simp] theorem applyOpts_nil (opts : Options) : applyOpts opts [] = opts := rfl

@[simp] theorem applyOpts_cons_none (opts : Options) (opt : List (Option Opt)) :
    applyOpts opts (none :: opt) = applyOpts opts opt := rfl

@[simp] theorem applyOpts_cons_some (opts : Options) (o : Opt) (opt : List (Option Opt)) :
    applyOpts opts (some o :: opt) = applyOpts (opts.apply o) opt := rfl

theorem applyOpts_append (opts : Options) (opt opt' : List (Option Opt)) :
    applyOpts opts (opt ++ opt') = applyOpts (applyOpts opts opt) opt' :=
  List.foldl_append ..

/-- A property of the options that every option given keeps holds after all of them. -/
theorem applyOpts_invariant (P : Options → Prop) {opts : Options} {opt : List (Option Opt)} (hinit : P opts)
    (hstep : ∀ s o, some o ∈ opt → P s → P (s.apply o)) : P (applyOpts opts opt) := by
  induction opt generalizing opts with
  | nil => exact hinit
  | cons o rest ih =>
    have hrest : ∀ s o', some o' ∈ rest → P s → P (s.apply o') :=
      fun s o' hmem => hstep s o' (List.mem_cons_of_mem _ hmem)
    cases o with
    | none => exact ih hinit hrest
    | some o => exact ih (hstep opts o (List.mem_cons_self ..) hinit) hrest

/-- `WithDefaults` never empties a base DN: an empty one it is given leaves the old one. -/
theorem apply_baseDNs (s : Options) (o : Opt) (huser : s.withDefaults.UserDN ≠ [])
    (hgroup : s.withDefaults.GroupDN ≠ []) :
    (s.apply o).withDefaults.UserDN ≠ [] ∧ (s.apply o).withDefaults.GroupDN ≠ [] := by
  cases o with
  | withDefaults d =>
    cases d with
    | none => exact ⟨huser, hgroup⟩
    | some d =>
      simp only [Options.apply, Defaults.merge]
      constructor <;> split_ifs <;> assumption
  | _ => exact ⟨huser, hgroup⟩

/-- Whatever the options, the base DNs are non-empty. -/
theorem getOpts_baseDNs (opt : List (Option Opt)) :
    (getOpts opt).withDefaults.UserDN ≠ [] ∧ (getOpts opt).withDefaults.GroupDN ≠ [] :=
  applyOpts_invariant (fun s => s.withDefaults.UserDN ≠ [] ∧ s.withDefaults.GroupDN ≠ [])
    (by decide +kernel) fun s o _ h => apply_baseDNs s o h.1 h.2

/-- Anonymous binds are on after the options exactly when they were on
before, or some `WithDefaults` among them switched them on: none can switch
them off. -/
theorem applyOpts_AllowAnonymousBind (opts : Options) (opt : List (Option Opt)) :
    (applyOpts opts opt).withDefaults.AllowAnonymousBind = true ↔
      opts.withDefaults.AllowAnonymousBind = true ∨
        ∃ d, some (Opt.withDefaults (some d)) ∈ opt ∧ d.AllowAnonymousBind = true := by
  induction opt generalizing opts with
  | nil => simp
  | cons o rest ih =>
    cases o with
    | none => simp [ih]
    | some o =>
      rw [applyOpts_cons_some, ih]
      -- only a `WithDefaults` reads the flag, and only to switch it on
      cases o with
      | withDefaults d =>
        cases d with
        | none => simp [Options.apply]
        | some d =>
          by_cases hd : d.AllowAnonymousBind = true
          · simp only [Options.apply, Defaults.merge, hd, if_true, true_or, true_iff]
            exact .inr ⟨d, List.mem_cons_self .., hd⟩
          · simp [Options.apply, Defaults.merge, hd]
      | _ => simp [Options.apply]

/-- What `WithDisablePanicRecovery` sets, if it is that option. -/
def Opt.disable? : Opt → Option Bool
  | .withDisablePanicRecovery disable => some disable
  | _ => none

/-- The last `WithDisablePanicRecovery` given decides. -/
theorem applyOpts_withDisablePanicRecovery (opts : Options) (opt : List (Option Opt)) :
    (applyOpts opts opt).withDisablePanicRecovery =
      (opt.reverse.findSome? fun o => o.bind Opt.disable?).getD opts.withDisablePanicRecovery := by
  induction opt generalizing opts with
  | nil => rfl
  | cons o rest ih =>
    rw [List.reverse_cons, List.findSome?_append]
    cases o with
    | none => simp [ih]
    | some o =>
      rw [applyOpts_cons_some, ih]
      cases o with
      | withDefaults d => cases d <;> simp [Options.apply, Opt.disable?]
      | _ => simp [Options.apply, Opt.disable?]

/-! ### Start -/

/-- The entries `Start` gives the directory. -/
def startDirectory (opts : Options) : Directory :=
  ⟨opts.withDefaults.Users.getD [], opts.withDefaults.Groups.getD []⟩

/-- The settings `Start` gives the directory: no token groups and no
controls until they are set. -/
def startSettings (opts : Options) : Settings :=
  ⟨opts.withDefaults.UserDN, opts.withDefaults.GroupDN, [], opts.withDefaults.AllowAnonymousBind, []⟩

/-- The server options `Start` passes to `NewServer`, without the logger's. -/
def serverOpts (opts : Options) : List ConfigOpt :=
  if opts.withDisablePanicRecovery then [.withDisablePanicRecovery] else []

/-- What `Start` builds before it runs the server. -/
structure Started where
  directory : Directory
  settings : Settings
  server : ServerConfig HandlerFunc

/-- `Start`, up to running the server; an error is what `require` fails the
test with. -/
def Start (opt : List (Option Opt)) : Except GoError Started := do
  let opts := getOpts opt
  let server ← (NewServer (serverOpts opts)).Router (some (startMux (startSettings opts)))
  pure ⟨startDirectory opts, startSettings opts, server⟩

/-- What `Start` builds from options that came to `opts`. -/
def started (opts : Options) : Started :=
  ⟨startDirectory opts, startSettings opts,
    ⟨startMux (startSettings opts), opts.withDisablePanicRecovery, false⟩⟩

theorem NewServer_serverOpts (opts : Options) :
    (NewServer (serverOpts opts) : ServerConfig HandlerFunc) =
      ⟨NewMux, opts.withDisablePanicRecovery, false⟩ := by
  unfold serverOpts
  cases opts.withDisablePanicRecovery <;> rfl

/-- `Start` never fails: the mux it hands the server is never nil. -/
theorem Start_eq (opt : List (Option Opt)) : Start opt = .ok (started (getOpts opt)) := by
  simp only [Start, NewServer_serverOpts]
  rfl

section Route

variable (EqualFold : GoString → GoString → Bool)

/-- The server of the directory `Start` builds dispatches as `route` says,
on the settings the options came to. -/
theorem started_serve (opts : Options) {req : Request} (hc : req.Consistent) :
    (started opts).server.router.serve EqualFold req = .ok (.handled (route EqualFold (startSettings opts) req)) := by
  rw [started, startMux, registerAll_serve EqualFold _ req hc, specServe_startRegistrations EqualFold _ hc]

/-- Whatever options a test passes, `Start` succeeds, and its server sends a
search to the user search exactly when the search is based at the user DN the
options came to (ignoring case), else to the group search when it is based at
the group DN, else to the generic search. The options never leave a base DN
empty, so neither DN route takes every search. -/
theorem Start_routes_search (opt : List (Option Opt)) {req : Request} {m : SearchMessage}
    (hc : req.Consistent) (hm : req.message = .search m) :
    ∃ st, Start opt = .ok st ∧ st.settings.userDN = (getOpts opt).withDefaults.UserDN ∧
      st.settings.groupDN = (getOpts opt).withDefaults.GroupDN ∧
      st.server.router.serve EqualFold req = .ok (.handled
        (if EqualFold m.baseDN st.settings.userDN then .handleSearchUsers
          else if EqualFold m.baseDN st.settings.groupDN then .handleSearchGroups
          else .handleSearchGeneric)) := by
  obtain ⟨huser, hgroup⟩ := getOpts_baseDNs opt
  refine ⟨_, Start_eq opt, rfl, rfl, ?_⟩
  rw [started_serve EqualFold _ hc]
  -- neither DN is empty, so only the comparisons decide
  by_cases husers : EqualFold m.baseDN (getOpts opt).withDefaults.UserDN = true
  · simp [route, hm, startSettings, started, husers]
  · by_cases hgroups : EqualFold m.baseDN (getOpts opt).withDefaults.GroupDN = true
    · simp [route, hm, startSettings, started, husers, hgroups, huser]
    · simp [route, hm, startSettings, started, husers, hgroups, huser, hgroup]

/-- Searches of the people and the groups under the default base DNs, and of
the whole tree, on a directory started without options. -/
theorem default_searches_routed :
    let search (dn : GoString) : Request :=
      ⟨1, 1, .search ⟨1, dn, WholeSubtree, 0, 0, 0, false, lit "(cn=alice)", [], []⟩, searchRouteOperation, []⟩
    (search DefaultUserDN).Consistent ∧ (search DefaultGroupDN).Consistent ∧ (search (lit "dc=example,dc=org")).Consistent ∧
      ∃ st, Start [] = .ok st ∧
        st.server.router.serve (fun a b => a == b) (search DefaultUserDN) = .ok (.handled .handleSearchUsers) ∧
        st.server.router.serve (fun a b => a == b) (search DefaultGroupDN) = .ok (.handled .handleSearchGroups) ∧
        st.server.router.serve (fun a b => a == b) (search (lit "dc=example,dc=org")) =
          .ok (.handled .handleSearchGeneric) := by
  intro search
  have hc : ∀ dn, (search dn).Consistent := fun dn => ⟨rfl, rfl, by simp [search]⟩
  obtain ⟨st, hst, huser, hgroup, husers⟩ := Start_routes_search (fun a b => a == b) [] (hc DefaultUserDN) rfl
  obtain ⟨st', hst', -, -, hgroups⟩ := Start_routes_search (fun a b => a == b) [] (hc DefaultGroupDN) rfl
  obtain ⟨st'', hst'', -, -, hgeneric⟩ :=
    Start_routes_search (fun a b => a == b) [] (hc (lit "dc=example,dc=org")) rfl
  cases hst.symm.trans hst'
  cases hst.symm.trans hst''
  refine ⟨hc _, hc _, hc _, st, hst, ?_, ?_, ?_⟩
  · rw [husers, huser, hgroup]
    decide +kernel
  · rw [hgroups, huser, hgroup]
    decide +kernel
  · rw [hgeneric, huser, hgroup]
    decide +kernel

end Route

/-- A simple bind with an empty password, under a DN at which no user's first
password value is empty, is sent by the server `Start` builds to the bind
handler, which answers success exactly when some `WithDefaults` the test
passed switched anonymous binds on, and invalid credentials otherwise. -/
theorem Start_anonymous_bind (EqualFold : GoString → GoString → Bool) (opt : List (Option Opt)) {req : Request}
    {m : SimpleBindMessage} (hc : req.Consistent) (hm : req.message = .simpleBind m)
    (hchoice : m.authChoice = SimpleAuthChoice) (hanon : m.password = [])
    (hnouser : ¬ PasswordMatches (startDirectory (getOpts opt)) m) :
    ∃ st, Start opt = .ok st ∧ st.server.router.serve EqualFold req = .ok (.handled .handleBind) ∧
      ((handleBind st.directory st.settings req).base.code = ResultSuccess.toInt16 ↔
        ∃ d, some (Opt.withDefaults (some d)) ∈ opt ∧ d.AllowAnonymousBind = true) ∧
      ((handleBind st.directory st.settings req).base.code = ResultSuccess.toInt16 ∨
        (handleBind st.directory st.settings req).base.code = ResultInvalidCredentials.toInt16) := by
  refine ⟨_, Start_eq opt, by rw [started_serve EqualFold _ hc]; simp [route, hm], ?_⟩
  -- the defaults allow no anonymous bind, so only a `WithDefaults` given can
  have hallow : (getOpts opt).withDefaults.AllowAnonymousBind = true ↔
      ∃ d, some (Opt.withDefaults (some d)) ∈ opt ∧ d.AllowAnonymousBind = true := by
    rw [getOpts, applyOpts_AllowAnonymousBind]
    simp [defaults, directoryDefaults]
  simp only [PasswordMatches, hanon] at hnouser
  have hne := invalidCredentials_ne_success
  rw [← hallow]
  by_cases hon : (getOpts opt).withDefaults.AllowAnonymousBind = true
  · simp [handleBind, hm, hchoice, hanon, hon, started, startSettings, Request.NewBindResponse,
      BaseResponse.SetResultCode]
  · simp [handleBind, hm, hchoice, hanon, hon, hnouser, hne, started, startSettings, Request.NewBindResponse]

/-- A directory started with anonymous binds allowed and no users takes an
anonymous bind. -/
theorem anonymous_bind_allowed :
    let opt : List (Option Opt) := [some (.withDefaults (some { directoryDefaults with AllowAnonymousBind := true }))]
    let m : SimpleBindMessage := ⟨1, SimpleAuthChoice, [], [], []⟩
    let req : Request := ⟨1, 1, .simpleBind m, bindRouteOperation, []⟩
    req.Consistent ∧ req.message = .simpleBind m ∧ m.authChoice = SimpleAuthChoice ∧ m.password = [] ∧
      ¬ PasswordMatches (startDirectory (getOpts opt)) m ∧
      ∃ st, Start opt = .ok st ∧ st.server.router.serve (fun a b => a == b) req = .ok (.handled .handleBind) ∧
        ((handleBind st.directory st.settings req).base.code = ResultSuccess.toInt16 ↔
          ∃ d, some (Opt.withDefaults (some d)) ∈ opt ∧ d.AllowAnonymousBind = true) ∧
        ((handleBind st.directory st.settings req).base.code = ResultSuccess.toInt16 ∨
          (handleBind st.directory st.settings req).base.code = ResultInvalidCredentials.toInt16) := by
  intro opt m req
  have hc : req.Consistent := ⟨rfl, rfl, fun _ h => by cases h; rfl⟩
  have hnouser : ¬ PasswordMatches (startDirectory (getOpts opt)) m := by
    unfold PasswordMatches
    decide +kernel
  exact ⟨hc, rfl, rfl, rfl, hnouser, Start_anonymous_bind _ opt hc rfl rfl rfl hnouser⟩

/-! ### Token groups

`WithDefaults` stores the `TokenGroups` of the defaults it is given, and
`Start` never reads them: a directory has token groups only once the test
calls `SetTokenGroups`. -/

def Defaults.eraseTokenGroups (d : Defaults) : Defaults := { d with TokenGroups := [] }

def Options.eraseTokenGroups (o : Options) : Options := { o with withDefaults := o.withDefaults.eraseTokenGroups }

/-- The option with the token groups of its defaults dropped. -/
def Opt.eraseTokenGroups : Opt → Opt
  | .withDefaults (some d) => .withDefaults (some d.eraseTokenGroups)
  | o => o

/-- Options equal but for their token groups stay so under an option, and
one whose token groups are dropped. -/
theorem apply_eraseTokenGroups {a b : Options} (hab : a.eraseTokenGroups = b.eraseTokenGroups) (o : Opt) :
    (a.apply o).eraseTokenGroups = (b.apply o.eraseTokenGroups).eraseTokenGroups := by
  cases o
  case withDefaults d =>
    cases d with
    | none => exact hab
    | some d =>
      have hd : a.withDefaults.eraseTokenGroups = b.withDefaults.eraseTokenGroups :=
        congrArg Options.withDefaults hab
      -- every field of the merge but the token groups reads only erased defaults
      calc (a.apply (.withDefaults (some d))).eraseTokenGroups
          = { a.eraseTokenGroups with
              withDefaults := (a.withDefaults.eraseTokenGroups.merge d.eraseTokenGroups).eraseTokenGroups } := rfl
        _ = { b.eraseTokenGroups with
              withDefaults := (b.withDefaults.eraseTokenGroups.merge d.eraseTokenGroups).eraseTokenGroups } := by
            rw [hab, hd]
        _ = _ := rfl
  -- the other options do not touch the defaults
  all_goals
    cases a
    cases b
    simp_all [Options.apply, Opt.eraseTokenGroups, Options.eraseTokenGroups]

theorem applyOpts_eraseTokenGroups {a b : Options} (hab : a.eraseTokenGroups = b.eraseTokenGroups)
    (opt : List (Option Opt)) :
    (applyOpts a opt).eraseTokenGroups =
      (applyOpts b (opt.map (Option.map Opt.eraseTokenGroups))).eraseTokenGroups := by
  induction opt generalizing a b with
  | nil => exact hab
  | cons o rest ih =>
    cases o with
    | none => exact ih hab
    | some o => exact ih (apply_eraseTokenGroups hab o)

/-- `Start` builds nothing from the token groups of the options. -/
theorem started_eraseTokenGroups (opts : Options) : started opts.eraseTokenGroups = started opts := rfl

/-- `Start` ignores the `TokenGroups` of every `WithDefaults` it is given:
options that differ only in them start the same directory, settings and
server. -/
theorem Start_ignores_TokenGroups {opt opt' : List (Option Opt)}
    (h : opt.map (Option.map Opt.eraseTokenGroups) = opt'.map (Option.map Opt.eraseTokenGroups)) :
    Start opt = Start opt' := by
  have herase : ∀ opt : List (Option Opt), (getOpts opt).eraseTokenGroups =
      (getOpts (opt.map (Option.map Opt.eraseTokenGroups))).eraseTokenGroups :=
    fun opt => applyOpts_eraseTokenGroups rfl opt
  rw [Start_eq, Start_eq, ← started_eraseTokenGroups, herase, h, ← herase, started_eraseTokenGroups]

/-- Defaults that list the groups of a SID start the same directory as the
defaults without them. -/
theorem default_token_groups_ignored :
    let withGroups : Defaults :=
      { directoryDefaults with TokenGroups := [(lit "S-1-5-21", [⟨lit "cn=admins,ou=groups", []⟩])] }
    [some (Opt.withDefaults (some withGroups))].map (Option.map Opt.eraseTokenGroups) =
        [some (Opt.withDefaults (some directoryDefaults))].map (Option.map Opt.eraseTokenGroups) ∧
      Start [some (.withDefaults (some withGroups))] = Start [some (.withDefaults (some directoryDefaults))] := by
  intro withGroups
  have h : [some (Opt.withDefaults (some withGroups))].map (Option.map Opt.eraseTokenGroups) =
      [some (Opt.withDefaults (some directoryDefaults))].map (Option.map Opt.eraseTokenGroups) := rfl
  exact ⟨h, Start_ignores_TokenGroups h⟩

end TestDirectory

end Gldap
