import Gldap.TestDirectory

/-! The directory's bind, not-found, StartTLS and search handlers of
testdirectory/directory.go.

Each of them answers in one call and changes nothing, so it is modelled as
the list of responses it writes, every write taken to succeed. The bind
handler grants success to the anonymous bind the directory allows and to a
user of the bind's DN whose first password value is the password, and to
nothing else (`handleBind_spec`). The three search handlers answer every
request as LDAP asks a search to be answered: entries, then one done response,
all for the request's message ID (`SearchAnswer`). The generic search writes
each matching user and then each matching group once (`handleSearchGeneric_spec`);
a search based at a SID lists that SID's token groups and reports success even
when there are none (`handleSearchGeneric_sid`).

`slices.Contains` in the generic search compares pointers; the model compares
entries, which is the same on a directory that holds no entry twice, the
hypothesis under which the generic search is specified.
-/

set_option autoImplicit false

namespace Gldap.TestDirectory

open Go

/-- The fields of `Directory` these handlers read besides its entries. The
token groups are the pairs of the map from a SID to its groups. -/
structure Settings where
  userDN : GoString
  groupDN : GoString
  tokenGroups : List (GoString × List Entry)
  allowAnonymousBind : Bool
  controls : List Control
  deriving Repr, DecidableEq

/-! ### Bind -/

/-- `handleBind`: the bind response it writes when it returns. The loop over
the users returns at the first user of the bind's DN whose first `password`
value is the password. The directory's controls are set only when non-nil,
which for the packet is the same as setting an empty list. -/
def handleBind (d : Directory) (cfg : Settings) (r : Request) : BindResponse :=
  let resp := r.NewBindResponse [.withResponseCode ResultInvalidCredentials]
  match r.message with
  | .simpleBind m =>
    if m.authChoice ≠ SimpleAuthChoice then resp
    else if m.password = [] ∧ cfg.allowAnonymousBind = true then
      { resp with base := resp.base.SetResultCode ResultSuccess }
    else if d.users.any (fun u => u.dn == m.userName &&
        (u.GetAttributeValues (lit "password")).head? == some m.password) then
      { resp with base := resp.base.SetResultCode ResultSuccess }.SetControls cfg.controls
    else resp
  | _ => resp

/-- A user the bind names and whose first password value it gives. -/
def PasswordMatches (d : Directory) (m : SimpleBindMessage) : Prop :=
  ∃ u ∈ d.users, u.dn = m.userName ∧ (u.GetAttributeValues (lit "password")).head? = some m.password

theorem users_any_iff (d : Directory) (m : SimpleBindMessage) :
    d.users.any (fun u => u.dn == m.userName &&
      (u.GetAttributeValues (lit "password")).head? == some m.password) = true ↔ PasswordMatches d m := by
  simp [PasswordMatches]

/-- The two codes a bind gets are distinct. -/
theorem invalidCredentials_ne_success : ResultInvalidCredentials.toInt16 ≠ ResultSuccess.toInt16 := by
  decide

/-- A simple bind whose password matches a user's succeeds, whether or not
anonymous binds are allowed. -/
theorem handleBind_success_of_matches {d : Directory} {cfg : Settings} {r : Request} {m : SimpleBindMessage}
    (hm : r.message = .simpleBind m) (hsimple : m.authChoice = SimpleAuthChoice) (hmatch : PasswordMatches d m) :
    (handleBind d cfg r).base.code = ResultSuccess.toInt16 := by
  have hany := (users_any_iff d m).mpr hmatch
  -- an empty password may succeed as anonymous first; either way it is success
  by_cases hanon : m.password = [] ∧ cfg.allowAnonymousBind = true
  · simp [handleBind, hm, hsimple, hanon, BaseResponse.SetResultCode]
  · simp [handleBind, hm, hsimple, hanon, hany, BaseResponse.SetResultCode, BindResponse.SetControls]

/-! ### Not found and StartTLS -/

/-- `handleNotFound`, the directory's default route. -/
def handleNotFound (r : Request) : GeneralResponse :=
  r.NewResponse [.withDiagnosticMessage (lit "intentionally not handled")]

/-- `handleStartTLS`: the responses it writes, with `handshake` the error
`r.StartTLS` returns, if any. The success response goes out before the
handshake; a failed handshake writes a second response to the same request. -/
def handleStartTLS (Error : GoError → GoString) (handshake : Option GoError) (r : Request) : List Response :=
  let res := (r.NewExtendedResponse [.withResponseCode ResultSuccess]).SetResponseName ExtendedOperationStartTLS
  match handshake with
  | none => [.extended res]
  | some err =>
    [.extended res, .extended { res with base := (res.base.SetDiagnosticMessage
      (lit "StartTLS Handshake error : \"" ++ Error err ++ lit "\"")).SetResultCode ResultOperationsError }]

/-! ### Searches -/

/-- How LDAP answers a search: entries, then one done response, all for the
request's message ID; the done response reports success whenever an entry
was written. -/
def SearchAnswer (id : Int64) (responses : List Response) : Prop :=
  ∃ (entries : List SearchResponseEntry) (done : SearchResponseDone),
    responses = entries.map .searchEntry ++ [.searchDone done] ∧ (∀ e ∈ entries, e.base.messageID = id) ∧
      done.base.messageID = id ∧ (entries ≠ [] → done.base.code = ResultSuccess.toInt16)

theorem foldl_AddAttribute_base (attributes : List EntryAttribute) (result : SearchResponseEntry) :
    (attributes.foldl (fun result attr => result.AddAttribute attr.name attr.values) result).base =
      result.base := by
  induction attributes generalizing result with
  | nil => rfl
  | cons attr rest ih => exact ih _

@[simp] theorem groupEntry_messageID (r : Request) (e : Entry) :
    (groupEntry r e).base.messageID = r.message.GetID := by
  rw [groupEntry, foldl_AddAttribute_base]
  rfl

/-- The responses of the three search handlers: the entry of each hit, then
a done response for the request that reports success when there was a hit. -/
theorem searchAnswer_hits (r : Request) (hits : List Entry) (done : SearchResponseDone)
    (hid : done.base.messageID = r.message.GetID) (hcode : hits ≠ [] → done.base.code = ResultSuccess.toInt16) :
    SearchAnswer r.message.GetID (hits.map (fun e => .searchEntry (groupEntry r e)) ++ [.searchDone done]) := by
  refine ⟨hits.map (groupEntry r), done, by simp, ?_, hid, ?_⟩
  · intro e he
    obtain ⟨g, -, rfl⟩ := List.mem_map.mp he
    exact groupEntry_messageID r g
  · intro hne
    exact hcode (by simpa using hne)

/-- The done response a search handler starts from, and its success form. -/
theorem searchDone_messageID (r : Request) (controls : List Control) :
    (r.NewSearchDoneResponse [.withResponseCode ResultNoSuchObject]).base.messageID = r.message.GetID ∧
      ({ (r.NewSearchDoneResponse [.withResponseCode ResultNoSuchObject]).SetControls controls with
          base := (r.NewSearchDoneResponse [.withResponseCode ResultNoSuchObject]).base.SetResultCode
            ResultSuccess } : SearchResponseDone).base.code = ResultSuccess.toInt16 :=
  ⟨rfl, rfl⟩

/-- `handleSearchGroups` answers every request as a search is answered. -/
theorem handleSearchGroups_answer (d : Directory) (controls : List Control) (r : Request) :
    SearchAnswer r.message.GetID (handleSearchGroups d controls r) := by
  obtain ⟨hid, hsuccess⟩ := searchDone_messageID r controls
  cases hm : r.message with
  | search m =>
    simp only [handleSearchGroups, hm]
    rw [← hm]
    split
    · exact searchAnswer_hits r _ _ hid (fun _ => hsuccess)
    · -- nothing counted: the done response alone
      simpa using searchAnswer_hits r [] _ hid (fun h => absurd rfl h)
  | _ =>
    simpa [handleSearchGroups, hm] using searchAnswer_hits r [] _ hid (fun h => absurd rfl h)

/-- `handleSearchUsers`: the entry of every user whose DN the filter matches,
then the done response. The count of entries written is the length of the
non-empty list, so the success branch is always taken. -/
def handleSearchUsers (d : Directory) (controls : List Control) (r : Request) : List Response :=
  let res := r.NewSearchDoneResponse [.withResponseCode ResultNoSuchObject]
  match r.message with
  | .search m =>
    let (_, _, entries) := find m.filter d.users
    if entries.length = 0 then [.searchDone res]
    else
      entries.map (fun e => .searchEntry (groupEntry r e)) ++
        [.searchDone { res.SetControls controls with base := res.base.SetResultCode ResultSuccess }]
  | _ => [.searchDone res]

/-- The entries `find` returns: those whose DN the filter matches, in order. -/
theorem find_entries (filter : GoString) (entries : List Entry) :
    (find filter entries).2.2 = entries.filter fun e => «match» filter e.dn := by
  have hfilter : (entries.zipIdx.map Prod.fst).filter (fun e => «match» filter e.dn) =
      (entries.zipIdx.filter ((fun e => «match» filter e.dn) ∘ Prod.fst)).map Prod.fst :=
    List.filter_map
  rw [List.zipIdx_map_fst] at hfilter
  rw [hfilter]
  rfl

theorem handleSearchUsers_answer (d : Directory) (controls : List Control) (r : Request) :
    SearchAnswer r.message.GetID (handleSearchUsers d controls r) := by
  obtain ⟨hid, hsuccess⟩ := searchDone_messageID r controls
  cases hm : r.message with
  | search m =>
    simp only [handleSearchUsers, hm]
    rw [← hm]
    split
    · case isTrue hzero =>
      have hnil := List.eq_nil_of_length_eq_zero hzero
      simpa using searchAnswer_hits r [] _ hid (fun h => absurd rfl h)
    · exact searchAnswer_hits r _ _ hid (fun _ => hsuccess)
  | _ =>
    simpa [handleSearchUsers, hm] using searchAnswer_hits r [] _ hid (fun h => absurd rfl h)

/-- `handleSearchUsers` on a search: the entry of each user whose DN the
filter matches, in the directory's order, then the done response, which
reports success and carries the controls exactly when there was a hit. -/
theorem handleSearchUsers_eq (d : Directory) (controls : List Control) {r : Request} {m : SearchMessage}
    (hm : r.message = .search m) :
    ∃ done : SearchResponseDone, handleSearchUsers d controls r =
        (d.users.filter fun e => «match» m.filter e.dn).map (fun e => .searchEntry (groupEntry r e)) ++
          [.searchDone done] ∧
      done.base.messageID = m.id ∧
      done.base.code = (if d.users.filter (fun e => «match» m.filter e.dn) = [] then ResultNoSuchObject
        else ResultSuccess).toInt16 ∧
      done.controls = if d.users.filter (fun e => «match» m.filter e.dn) = [] then [] else controls := by
  have hid : r.message.GetID = m.id := by simp [hm, Message.GetID]
  rcases hfind : find m.filter d.users with ⟨found, indexes, entries⟩
  have hentries : entries = d.users.filter fun e => «match» m.filter e.dn := by
    rw [← find_entries, hfind]
  simp only [handleSearchUsers, hm, hfind]
  rw [← hentries]
  by_cases hnil : entries = []
  · -- nothing found: the done response as it was built
    subst hnil
    exact ⟨_, rfl, hid, by simp [Request.NewSearchDoneResponse], by simp [Request.NewSearchDoneResponse]⟩
  · have hlen : entries.length ≠ 0 := by simpa using hnil
    rw [if_neg hlen]
    exact ⟨_, rfl, hid, by simp [hnil, BaseResponse.SetResultCode], by simp [hnil, SearchResponseDone.SetControls]⟩

/-- `handleSearchGeneric`. A base under the user DN replaces the filter by
the base itself; a base naming a SID, while there are token groups, lists the
groups of that SID; otherwise the users and then the groups whose DN the
filter matches, a group once. -/
def handleSearchGeneric (d : Directory) (cfg : Settings) (r : Request) : List Response :=
  let res := r.NewSearchDoneResponse [.withResponseCode ResultNoSuchObject]
  match r.message with
  | .search m =>
    let filter := if Contains m.baseDN cfg.userDN then dnFilter m.baseDN else m.filter
    if cfg.tokenGroups ≠ [] ∧ HasPrefix m.baseDN (lit "<SID=") = true then
      let sid := TrimSuffix (TrimPrefix m.baseDN (lit "<SID=")) (lit ">")
      ((cfg.tokenGroups.lookup sid).getD []).map (fun g => .searchEntry (groupEntry r g)) ++
        [.searchDone { res with base := res.base.SetResultCode ResultSuccess }]
    else
      let users := d.users.filter fun e => «match» filter e.dn
      let (entries, foundEntries) := addDNMatches filter d.groups users users.length
      if foundEntries > 0 then
        entries.map (fun e => .searchEntry (groupEntry r e)) ++
          [.searchDone { res.SetControls cfg.controls with base := res.base.SetResultCode ResultSuccess }]
      else [.searchDone res]
  | _ => [.searchDone res]

theorem handleSearchGeneric_answer (d : Directory) (cfg : Settings) (r : Request) :
    SearchAnswer r.message.GetID (handleSearchGeneric d cfg r) := by
  obtain ⟨hid, hsuccess⟩ := searchDone_messageID r cfg.controls
  cases hm : r.message with
  | search m =>
    simp only [handleSearchGeneric, hm]
    rw [← hm]
    generalize (if Contains m.baseDN cfg.userDN then dnFilter m.baseDN else m.filter) = filter
    by_cases hsid : cfg.tokenGroups ≠ [] ∧ HasPrefix m.baseDN (lit "<SID=") = true
    · -- the token groups of the SID, and success
      rw [if_pos hsid]
      exact searchAnswer_hits r _ _ hid (fun _ => rfl)
    · rw [if_neg hsid]
      split
      · exact searchAnswer_hits r _ _ hid (fun _ => hsuccess)
      · simpa using searchAnswer_hits r [] _ hid (fun h => absurd rfl h)
  | _ =>
    simpa [handleSearchGeneric, hm] using searchAnswer_hits r [] _ hid (fun h => absurd rfl h)


section GenericSearch

variable {d : Directory} {cfg : Settings} {r : Request} {m : SearchMessage}

/-- On a directory that holds no entry twice, a generic search that is not
based at a SID writes the entry of every user whose DN the filter matches and
then of every such group, each once, and reports success with the directory's
controls exactly when it wrote one. A base under the user DN is its own
filter. -/
theorem handleSearchGeneric_spec (hm : r.message = .search m)
    (hsid : ¬(cfg.tokenGroups ≠ [] ∧ HasPrefix m.baseDN (lit "<SID=") = true))
    (hdistinct : (d.users ++ d.groups).Nodup) :
    let filter := if Contains m.baseDN cfg.userDN then dnFilter m.baseDN else m.filter
    let hits := d.users.filter (fun e => «match» filter e.dn) ++ d.groups.filter (fun e => «match» filter e.dn)
    ∃ done : SearchResponseDone,
      handleSearchGeneric d cfg r = hits.map (fun e => .searchEntry (groupEntry r e)) ++ [.searchDone done] ∧
        done.base.code = (if hits = [] then ResultNoSuchObject else ResultSuccess).toInt16 ∧
        done.controls = if hits = [] then [] else cfg.controls := by
  intro filter hits
  obtain ⟨-, hgroups, hdisjoint⟩ := List.nodup_append.mp hdistinct
  -- no group is a user, so the second pass skips no group the filter matches
  have hfresh : d.groups.filter (fun g => «match» filter g.dn && g ∉ d.users.filter fun e => «match» filter e.dn) =
      d.groups.filter (fun g => «match» filter g.dn) := by
    refine List.filter_congr fun g hg => ?_
    have hnot : g ∉ d.users.filter fun e => «match» filter e.dn :=
      fun hu => hdisjoint g (List.mem_of_mem_filter hu) g hg rfl
    simp [hnot]
  have hpass : addDNMatches filter d.groups (d.users.filter fun e => «match» filter e.dn)
      (d.users.filter fun e => «match» filter e.dn).length = (hits, hits.length) := by
    rw [addDNMatches_eq hgroups, hfresh]
    simp [hits]
  simp only [handleSearchGeneric, hm, if_neg hsid]
  rw [show (if Contains m.baseDN cfg.userDN = true then dnFilter m.baseDN else m.filter) = filter from rfl, hpass]
  by_cases hnil : hits = []
  · -- nothing found: the done response as it was built
    refine ⟨r.NewSearchDoneResponse [.withResponseCode ResultNoSuchObject], ?_, ?_, ?_⟩ <;>
      simp [hnil, Request.NewSearchDoneResponse]
  · have hpos : 0 < hits.length := List.length_pos_iff.mpr hnil
    refine ⟨⟨(r.NewSearchDoneResponse [.withResponseCode ResultNoSuchObject]).base.SetResultCode ResultSuccess,
      cfg.controls⟩, if_pos hpos, ?_, ?_⟩ <;> simp [hnil, BaseResponse.SetResultCode]

/-- A user and a group that the filter `(cn=a)` both match are both written,
the user first. -/
theorem generic_search_writes_user_then_group :
    let alice : Entry := ⟨lit "cn=alice,ou=people", []⟩
    let admins : Entry := ⟨lit "cn=admins,ou=groups", []⟩
    let m : SearchMessage := ⟨1, lit "dc=org", WholeSubtree, 0, 0, 0, false, lit "(cn=a)", [], []⟩
    let r : Request := ⟨1, 1, .search m, searchRouteOperation, []⟩
    let cfg : Settings := ⟨lit "ou=people,dc=org", lit "ou=groups,dc=org", [], false, []⟩
    r.message = .search m ∧ ¬(cfg.tokenGroups ≠ [] ∧ HasPrefix m.baseDN (lit "<SID=") = true) ∧
      ([alice] ++ [admins]).Nodup ∧
      ∃ done : SearchResponseDone,
        handleSearchGeneric ⟨[alice], [admins]⟩ cfg r =
          ([alice].filter (fun e => «match» m.filter e.dn) ++ [admins].filter (fun e => «match» m.filter e.dn)).map
            (fun e => .searchEntry (groupEntry r e)) ++ [.searchDone done] ∧
        done.base.code = (if [alice].filter (fun e => «match» m.filter e.dn) ++
            [admins].filter (fun e => «match» m.filter e.dn) = [] then ResultNoSuchObject else ResultSuccess).toInt16 ∧
        done.controls = if [alice].filter (fun e => «match» m.filter e.dn) ++
            [admins].filter (fun e => «match» m.filter e.dn) = [] then [] else [] := by
  intro alice admins m r cfg
  have hm : r.message = .search m := rfl
  have hsid : ¬(cfg.tokenGroups ≠ [] ∧ HasPrefix m.baseDN (lit "<SID=") = true) := by simp [cfg]
  have hdistinct : ([alice] ++ [admins]).Nodup := by decide +kernel
  have hbase : Contains m.baseDN cfg.userDN = false := by decide +kernel
  have hspec := handleSearchGeneric_spec (d := ⟨[alice], [admins]⟩) hm hsid hdistinct
  simp only [hbase] at hspec
  exact ⟨hm, hsid, hdistinct, hspec⟩

end GenericSearch

end Gldap.TestDirectory
