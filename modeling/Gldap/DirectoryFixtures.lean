import Gldap.DirectoryHandlers

/-! The entries testdirectory/testing.go builds for tests, and what the
directory's bind makes of them.

`NewUsers` gives every user the attributes `name`, `email` and `password`,
the last with the one value `password`, and optionally `memberOf` and
`tokenGroups`; `NewEntry` sorts them by name. Whatever the options, the
attribute `handleBind` reads is that `password`, so every user built this way
binds as its DN with the password `password` (`NewUsers_bind_succeeds`).
-/

set_option autoImplicit false

namespace Gldap.TestDirectory

open Go

def DefaultUserAttr : GoString := lit "cn"
def DefaultGroupAttr : GoString := lit "cn"
def DefaultUserDN : GoString := lit "ou=people,dc=example,dc=org"
def DefaultGroupDN : GoString := lit "ou=groups,dc=example,dc=org"

/-- `Defaults`. `Users` and `Groups` are slices that `WithDefaults` tells
apart from nil, and `TokenGroups`, a map, is kept as its pairs. -/
structure Defaults where
  UserAttr : GoString
  GroupAttr : GoString
  Users : Option (List Entry)
  Groups : Option (List Entry)
  TokenGroups : List (GoString × List Entry)
  UserDN : GoString
  GroupDN : GoString
  AllowAnonymousBind : Bool
  UPNDomain : GoString
  deriving Repr, DecidableEq

/-- The defaults `getOpts` starts from. -/
def directoryDefaults : Defaults :=
  ⟨DefaultUserAttr, DefaultGroupAttr, none, none, [], DefaultUserDN, DefaultGroupDN, false, []⟩

/-- The DN `NewUsers` and `NewGroup` give user `n`: a user principal name
when a UPN domain is set, else the user attribute's value. -/
def userEntryDN (defaults : Defaults) (n : GoString) : GoString :=
  if defaults.UPNDomain ≠ [] then
    lit "userPrincipalName=" ++ n ++ lit "@" ++ defaults.UPNDomain ++ lit "," ++ defaults.UserDN
  else defaults.UserAttr ++ lit "=" ++ n ++ lit "," ++ defaults.UserDN

/-- The attribute map of a user `NewUsers` builds, as its pairs. -/
def userAttributes (membersOf tokenGroupSIDs : List GoString) (n : GoString) : List (GoString × List GoString) :=
  [(lit "name", [n]), (lit "email", [n ++ lit "@example.com"]), (lit "password", [lit "password"])] ++
    (if membersOf.length > 0 then [(lit "memberOf", membersOf)] else []) ++
    (if tokenGroupSIDs.length > 0 then [(lit "tokenGroups", tokenGroupSIDs)] else [])

/-- `NewUsers`, with `membersOf` and `tokenGroupSIDs` the values of
`WithMembersOf` and `WithTokenGroups`. -/
def NewUsers (defaults : Defaults) (membersOf tokenGroupSIDs userNames : List GoString) : List Entry :=
  userNames.map fun n => NewEntry (userEntryDN defaults n) (userAttributes membersOf tokenGroupSIDs n)

/-- `NewGroup`: the group's DN and a `member` attribute with its members' DNs. -/
def NewGroup (defaults : Defaults) (groupName : GoString) (memberNames : List GoString) : Entry :=
  NewEntry (defaults.GroupAttr ++ lit "=" ++ groupName ++ lit "," ++ defaults.GroupDN)
    [(lit "member", memberNames.map (userEntryDN defaults))]

/-- `NewMemberOf`: the DNs of the named groups. -/
def NewMemberOf (defaults : Defaults) (groupNames : List GoString) : List GoString :=
  groupNames.map fun n => defaults.GroupAttr ++ lit "=" ++ n ++ lit "," ++ defaults.GroupDN

/-- An entry built from a map holds each of the map's values under its key. -/
theorem GetAttributeValues_NewEntry {dn name : GoString} {values : List GoString}
    {attributes : List (GoString × List GoString)} (hnames : (attributes.map Prod.fst).Nodup)
    (hmem : (name, values) ∈ attributes) : (NewEntry dn attributes).GetAttributeValues name = values := by
  unfold Entry.GetAttributeValues NewEntry
  -- the lookup by name finds an attribute, since the sorted pairs hold the key
  obtain ⟨attr, hfind⟩ : ∃ attr, ((attributes.mergeSort fun a b => decide (a.1 ≤ b.1)).map
      fun a => NewEntryAttribute a.1 a.2).find? (fun attr => decide (attr.name = name)) = some attr := by
    cases h : ((attributes.mergeSort fun a b => decide (a.1 ≤ b.1)).map
        fun a => NewEntryAttribute a.1 a.2).find? (fun attr => decide (attr.name = name)) with
    | some attr => exact ⟨attr, rfl⟩
    | none =>
      have hnone := List.find?_eq_none.mp h (NewEntryAttribute name values)
        (List.mem_map.mpr ⟨(name, values), List.mem_mergeSort.mpr hmem, rfl⟩)
      simp [NewEntryAttribute] at hnone
  simp only [hfind]
  obtain ⟨⟨k, v⟩, hkv, rfl⟩ := List.mem_map.mp (List.mem_of_find?_eq_some hfind)
  have hfound := List.find?_some hfind
  have hk : k = name := of_decide_eq_true hfound
  subst hk
  -- one pair per key
  have hpair := List.inj_on_of_nodup_map hnames (List.mem_mergeSort.mp hkv) hmem rfl
  simp only [Prod.mk.injEq, true_and] at hpair
  simp [NewEntryAttribute, hpair]

/-- The attribute names of a user are distinct, whatever the options. -/
theorem userAttributes_names (membersOf tokenGroupSIDs : List GoString) (n : GoString) :
    ((userAttributes membersOf tokenGroupSIDs n).map Prod.fst).Nodup := by
  unfold userAttributes
  split_ifs <;> simp only [List.map_cons, List.map_nil, List.cons_append, List.nil_append, List.append_nil] <;>
    decide +kernel

theorem NewUsers_password (defaults : Defaults) (membersOf tokenGroupSIDs : List GoString) (n : GoString) :
    (NewEntry (userEntryDN defaults n) (userAttributes membersOf tokenGroupSIDs n)).GetAttributeValues
      (lit "password") = [lit "password"] :=
  GetAttributeValues_NewEntry (userAttributes_names membersOf tokenGroupSIDs n) (by simp [userAttributes])

/-- A bind as the DN `NewUsers` gave a user, with the password `password`,
matches that user on any directory that holds the users. -/
theorem NewUsers_passwordMatches {defaults : Defaults} {membersOf tokenGroupSIDs userNames : List GoString}
    {n : GoString} (hn : n ∈ userNames) {d : Directory}
    (hd : ∀ u ∈ NewUsers defaults membersOf tokenGroupSIDs userNames, u ∈ d.users) {m : SimpleBindMessage}
    (hname : m.userName = userEntryDN defaults n) (hpassword : m.password = lit "password") :
    PasswordMatches d m :=
  ⟨_, hd _ (List.mem_map.mpr ⟨n, hn, rfl⟩), by simp [NewEntry, hname], by rw [NewUsers_password, hpassword]; rfl⟩

/-- Every user `NewUsers` builds, on any directory that holds it, binds as
its DN with the password `password`, whatever the options it was built with
and whatever else the directory holds. -/
theorem NewUsers_bind_succeeds {defaults : Defaults} {membersOf tokenGroupSIDs userNames : List GoString}
    {n : GoString} (hn : n ∈ userNames) {d : Directory}
    (hd : ∀ u ∈ NewUsers defaults membersOf tokenGroupSIDs userNames, u ∈ d.users) (cfg : Settings)
    {r : Request} {m : SimpleBindMessage} (hm : r.message = .simpleBind m) (hsimple : m.authChoice = SimpleAuthChoice)
    (hname : m.userName = userEntryDN defaults n) (hpassword : m.password = lit "password") :
    (handleBind d cfg r).base.code = ResultSuccess.toInt16 := by
  exact handleBind_success_of_matches hm hsimple (NewUsers_passwordMatches hn hd hname hpassword)

/-- alice, built with the defaults, binds as `cn=alice,ou=people,dc=example,dc=org`. -/
theorem default_user_binds :
    let users := NewUsers directoryDefaults [] [] [lit "alice"]
    let m : SimpleBindMessage := ⟨1, SimpleAuthChoice, lit "cn=alice,ou=people,dc=example,dc=org", lit "password", []⟩
    let r : Request := ⟨1, 1, .simpleBind m, bindRouteOperation, []⟩
    let cfg : Settings := ⟨DefaultUserDN, DefaultGroupDN, [], false, []⟩
    lit "alice" ∈ [lit "alice"] ∧ (∀ u ∈ users, u ∈ (⟨users, []⟩ : Directory).users) ∧ r.message = .simpleBind m ∧
      m.authChoice = SimpleAuthChoice ∧ m.userName = userEntryDN directoryDefaults (lit "alice") ∧
      m.password = lit "password" ∧ (handleBind ⟨users, []⟩ cfg r).base.code = ResultSuccess.toInt16 := by
  intro users m r cfg
  have hname : m.userName = userEntryDN directoryDefaults (lit "alice") := by decide +kernel
  exact ⟨List.mem_singleton_self _, fun u hu => hu, rfl, rfl, hname, rfl,
    NewUsers_bind_succeeds (List.mem_singleton_self _) (fun u hu => hu) cfg rfl rfl hname rfl⟩

end Gldap.TestDirectory
