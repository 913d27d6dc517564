import Gldap.Response
import Gldap.Go.Strings
import Gldap.Go.Strconv
import Gldap.Go.Goroutine

/-! The in-memory directory of testdirectory/directory.go: its `match` and
`find` heuristics, its add and delete handlers, its modify handler and its
group search.

`serveRequests` runs every add and delete request on a goroutine of its own.
A handler looks the DN up with `find` over the current list without taking
the directory's mutex, and only then takes the mutex to append or to remove
at the index it found. Each handler is therefore two atomic steps (three for
a delete that falls through to the groups), and any interleaving of the
handlers' steps is a run of the process.

The modify handler and the group search are modelled as calls on the
directory with no other handler in between. On distinct attribute names the
change loop of `handleModify` is the modify operation `modifyAttributes` for
every change but a replace, which it drops (`foldl_applyChange`); with
distinct groups the group search writes a group once per matching member
value (`handleSearchGroups_spec`).
-/

set_option autoImplicit false

namespace Gldap.TestDirectory

open Go

/-- `match`: some parenthesised element of the filter, with its stars,
parentheses, bars and surrounding white space removed, occurs in `attr`. -/
def «match» (filter attr : GoString) : Bool :=
  (FindAllParens filter).any fun element =>
    Contains attr (TrimSpace (Trim (Trim (Trim (ReplaceAll element 42 []) (lit "|(")) (lit "(")) (lit ")")))

/-- `find` without options (`withFirst` unset): whether any entry matched,
the indexes of all that did and the entries themselves. -/
def find (filter : GoString) (entries : List Entry) : Bool × List Nat × List Entry :=
  let hits := (entries.zipIdx).filter fun (e, _) => «match» filter e.dn
  (!hits.isEmpty, hits.map (·.2), hits.map (·.1))

/-- The filter the handlers look a DN up with: `fmt.Sprintf("(%s)", dn)`. -/
def dnFilter (dn : GoString) : GoString := lit "(" ++ dn ++ lit ")"

/-- The directory's entries; its other fields are not read by these handlers. -/
structure Directory where
  users : List Entry
  groups : List Entry
  deriving Repr, DecidableEq

/-- The shared state of the handler goroutines: the directory and the
responses written so far. -/
structure Store where
  dir : Directory
  written : List GeneralResponse
  deriving Repr, DecidableEq

/-- `attrs[a.Type] = a.Vals` for each attribute in turn: a later attribute of
the same type replaces an earlier one. -/
def attributeMap (attributes : List Attribute) : List (GoString × List GoString) :=
  attributes.foldl (fun attrs a => attrs.filter (·.1 ≠ a.type) ++ [(a.type, a.vals)]) []

/-- Where a handler goroutine is: before its unlocked lookup, or about to
take the mutex and change the list. -/
inductive Handler where
  | add (r : Request)
  | addAppend (res : GeneralResponse) (newEntry : Entry)
  | delete (r : Request)
  | deleteGroups (res : GeneralResponse) (dn : GoString)
  | removeUser (res : GeneralResponse) (idx : Nat)
  | removeGroup (res : GeneralResponse) (idx : Nat)
  deriving Repr, DecidableEq

def Store.write (s : Store) (res : GeneralResponse) : Store := { s with written := s.written ++ [res] }

/-- The response of a lookup that matched several entries. -/
def moreThanOneMatch (res : GeneralResponse) (count : Nat) : GeneralResponse :=
  (res.SetResultCode ResultInappropriateMatching).SetDiagnosticMessage
    (lit "more than one match: " ++ decimalDigits count ++ lit " entries")

/-- `append(s[:idx], s[idx+1:]...)`, which panics when `idx + 1` is past the
end of the list. -/
def removeAt (xs : List Entry) (idx : Nat) : Outcome GoError (List Entry) :=
  if idx < xs.length then .ok (xs.take idx ++ xs.drop (idx + 1))
  else .panic ("runtime error: slice bounds out of range [" ++ toString (idx + 1) ++ ":" ++
    toString xs.length ++ "]")

/-- One atomic step of a handler goroutine. The deferred write of the
response happens when the handler returns. -/
def handlerStep (s : Store) : Handler → Effect Store Handler Unit
  | .add r =>
    let res := r.NewResponse [.withApplicationCode (.ofNat ApplicationAddResponse),
      .withResponseCode ResultOperationsError]
    match r.message with
    | .add m =>
      if (find (dnFilter m.dn) s.dir.users).1 then
        .exit (s.write ((res.SetResultCode ResultEntryAlreadyExists).SetDiagnosticMessage
          (lit "entry exists for DN: " ++ m.dn)))
      else .continue s (.addAppend res (NewEntry m.dn (attributeMap m.attributes))) []
    | _ => .exit (s.write res)
  | .addAppend res newEntry =>
    .exit ({ s with dir := { s.dir with users := s.dir.users ++ [newEntry] } }.write
      (res.SetResultCode ResultSuccess))
  | .delete r =>
    let res := r.NewResponse [.withResponseCode ResultNoSuchObject,
      .withApplicationCode (.ofNat ApplicationDelResponse)]
    match r.message with
    | .delete m =>
      match (find (dnFilter m.dn) s.dir.users).2.1 with
      | [] => .continue s (.deleteGroups res m.dn) []
      | [idx] => .continue s (.removeUser res idx) []
      | foundAt => .exit (s.write (moreThanOneMatch res foundAt.length))
    | _ => .exit (s.write res)
  | .deleteGroups res dn =>
    match (find (dnFilter dn) s.dir.groups).2.1 with
    | [] => .exit (s.write res)
    | [idx] => .continue s (.removeGroup res idx) []
    | foundAt => .exit (s.write (moreThanOneMatch res foundAt.length))
  | .removeUser res idx =>
    match removeAt s.dir.users idx with
    | .ok users => .exit ({ s with dir := { s.dir with users := users } }.write (res.SetResultCode ResultSuccess))
    | .error _ => .exit s
    | .panic message => .panic (s.write res) message
  | .removeGroup res idx =>
    match removeAt s.dir.groups idx with
    | .ok groups => .exit ({ s with dir := { s.dir with groups := groups } }.write (res.SetResultCode ResultSuccess))
    | .error _ => .exit s
    | .panic message => .panic (s.write res) message

/-- The directory with one goroutine per request; a request goroutine
recovers nothing. -/
def directoryStart (d : Directory) (requests : List Handler) : Process Store Handler Unit :=
  .running ⟨d, []⟩ (requests.map fun h => ⟨h, false, []⟩) []

/-- The users' DNs are pairwise distinct. -/
def UsersDistinct : Process Store Handler Unit → Bool
  | .running s _ _ => decide (s.dir.users.map Entry.dn).Nodup
  | .crashed _ => true

/-- A DN with a star is not found by its own filter: the star is removed from
the element but not from the DN. -/
theorem match_star_dn : «match» (dnFilter (lit "cn=a*b")) (lit "cn=a*b") = false := by
  decide +kernel

/-- Two adds of the same DN that both look it up before either appends: both
report success and the DN is there twice. -/
theorem concurrent_adds_duplicate_dn :
    Process.Reachable handlerStep
      (directoryStart ⟨[], []⟩
        [.add ⟨1, 1, .add ⟨1, lit "cn=alice", [], []⟩, addRouteOperation, []⟩,
          .add ⟨2, 1, .add ⟨2, lit "cn=alice", [], []⟩, addRouteOperation, []⟩])
      (.running ⟨⟨[⟨lit "cn=alice", []⟩, ⟨lit "cn=alice", []⟩], []⟩,
        [⟨⟨1, 0, lit "Unused", lit "Unused"⟩, .ofNat ApplicationAddResponse⟩,
          ⟨⟨2, 0, lit "Unused", lit "Unused"⟩, .ofNat ApplicationAddResponse⟩]⟩ [] []) := by
  -- both lookups, then both appends
  have hrun : (directoryStart ⟨[], []⟩
        [.add ⟨1, 1, .add ⟨1, lit "cn=alice", [], []⟩, addRouteOperation, []⟩,
          .add ⟨2, 1, .add ⟨2, lit "cn=alice", [], []⟩, addRouteOperation, []⟩]).run handlerStep
        [0, 1, 0, 0] =
      some (.running ⟨⟨[⟨lit "cn=alice", []⟩, ⟨lit "cn=alice", []⟩], []⟩,
        [⟨⟨1, 0, lit "Unused", lit "Unused"⟩, .ofNat ApplicationAddResponse⟩,
          ⟨⟨2, 0, lit "Unused", lit "Unused"⟩, .ofNat ApplicationAddResponse⟩]⟩ [] []) := by
    decide +kernel
  exact Process.reachable_of_run handlerStep hrun

/-- Deleting `cn=bob` from a directory whose only user is `cn=bobby`
removes `cn=bobby` and reports success; and two deletes of the only user that
both look it up first make the second remove past the end of the list, which
panics on a request goroutine and crashes the process. -/
theorem delete_removes_other_entry_or_panics :
    Process.Reachable handlerStep
      (directoryStart ⟨[⟨lit "cn=bobby", []⟩], []⟩
        [.delete ⟨1, 1, .delete ⟨1, lit "cn=bob", []⟩, deleteRouteOperation, []⟩])
      (.running ⟨⟨[], []⟩, [⟨⟨1, 0, lit "Unused", lit "Unused"⟩, .ofNat ApplicationDelResponse⟩]⟩ [] []) ∧
    Process.Reachable handlerStep
      (directoryStart ⟨[⟨lit "cn=alice", []⟩], []⟩
        [.delete ⟨1, 1, .delete ⟨1, lit "cn=alice", []⟩, deleteRouteOperation, []⟩,
          .delete ⟨2, 1, .delete ⟨2, lit "cn=alice", []⟩, deleteRouteOperation, []⟩])
      (.crashed "runtime error: slice bounds out of range [1:0]") := by
  -- the lookup of cn=bob matches cn=bobby, which the removal then takes out
  have hsubstring : (directoryStart ⟨[⟨lit "cn=bobby", []⟩], []⟩
        [.delete ⟨1, 1, .delete ⟨1, lit "cn=bob", []⟩, deleteRouteOperation, []⟩]).run handlerStep [0, 0] =
      some (.running ⟨⟨[], []⟩, [⟨⟨1, 0, lit "Unused", lit "Unused"⟩, .ofNat ApplicationDelResponse⟩]⟩
        [] []) := by
    decide +kernel
  -- both lookups find index 0; the first removal empties the list
  have hrace : (directoryStart ⟨[⟨lit "cn=alice", []⟩], []⟩
        [.delete ⟨1, 1, .delete ⟨1, lit "cn=alice", []⟩, deleteRouteOperation, []⟩,
          .delete ⟨2, 1, .delete ⟨2, lit "cn=alice", []⟩, deleteRouteOperation, []⟩]).run handlerStep
        [0, 1, 0, 0] =
      some (.crashed "runtime error: slice bounds out of range [1:0]") := by
    decide +kernel
  exact ⟨Process.reachable_of_run handlerStep hsubstring, Process.reachable_of_run handlerStep hrace⟩

/-! ### Modify

`handleModify` looks the entry up and changes it in place through the
pointer `find` returned, under the mutex. It is modelled as one atomic call
on the directory: the change goes to the element at the index `find`
reported, which is the entry the pointer points to when no other handler
runs in between.
-/

/-- The attribute the scan of `handleModify` settles on: the loop has no
`break`, so the last attribute of the type. -/
def foundAttributeAt : List EntryAttribute → GoString → Option Nat
  | [], _ => none
  | a :: rest, type =>
    match foundAttributeAt rest type with
    | some i => some (i + 1)
    | none => if a.name = type then some 0 else none

/-- The body of the change loop of `handleModify`. -/
def applyChange (attributes : List EntryAttribute) (chg : Change) : List EntryAttribute :=
  match foundAttributeAt attributes chg.modification.type with
  | some foundAt =>
    if chg.operation = AddAttribute then attributes.modify foundAt (·.AddValue chg.modification.vals)
    -- copy the tail down over the attribute, then drop the last element
    else if chg.operation = DeleteAttribute then attributes.eraseIdx foundAt
    -- a replace assigns a new attribute to the loop's local pointer only
    else attributes
  | none =>
    if chg.operation = AddAttribute then
      attributes ++ [NewEntryAttribute chg.modification.type chg.modification.vals]
    else attributes

/-- The entry at `idx` of the users or of the groups, changed in place. -/
def Directory.modifyEntry (d : Directory) (inUsers : Bool) (idx : Nat) (f : Entry → Entry) : Directory :=
  if inUsers then { d with users := d.users.modify idx f } else { d with groups := d.groups.modify idx f }

/-- `handleModify`: the directory afterwards and the response it writes. -/
def handleModify (d : Directory) (r : Request) : Outcome GoError (Directory × ModifyResponse) := do
  let res ← r.NewModifyResponse [.withResponseCode ResultNoSuchObject]
  match r.message with
  | .modify m =>
    -- the users with the DN in parentheses; the groups, if no user matched, with the bare DN
    let (inUsers, foundAt, entries) := match find (dnFilter m.dn) d.users with
      | (_, _, []) => (false, (find m.dn d.groups).2.1, (find m.dn d.groups).2.2)
      | (_, foundAt, entries) => (true, foundAt, entries)
    match foundAt, entries with
    | _, [] => pure (d, res)
    | [idx], [e] =>
      let res : ModifyResponse := ⟨res.general.SetMatchedDN e.dn⟩
      let e := { e with attributes := m.changes.foldl applyChange e.attributes }
      pure (d.modifyEntry inUsers idx fun _ => e, ⟨res.general.SetResultCode ResultSuccess⟩)
    | _, entries => pure (d, ⟨moreThanOneMatch res.general entries.length⟩)
  | _ => pure (d, res)

/-- The modify operation on the attributes of an entry: an add extends the
values of the attribute of the type or adds the attribute at the end, a
delete removes the attribute of the type, a replace sets its values. -/
def modifyAttributes (attributes : List EntryAttribute) (chg : Change) : List EntryAttribute :=
  let type := chg.modification.type
  if chg.operation = AddAttribute then
    if attributes.any (·.name = type) then
      attributes.map fun a => if a.name = type then a.AddValue chg.modification.vals else a
    else attributes ++ [NewEntryAttribute type chg.modification.vals]
  else if chg.operation = DeleteAttribute then attributes.filter (·.name ≠ type)
  else if chg.operation = ReplaceAttribute then
    attributes.map fun a => if a.name = type then NewEntryAttribute type chg.modification.vals else a
  else attributes

/-- The attribute names of an entry are pairwise distinct. -/
def NamesDistinct (attributes : List EntryAttribute) : Prop := (attributes.map (·.name)).Nodup

section ModifySpec

variable {attributes : List EntryAttribute} {type : GoString}

theorem foundAttributeAt_eq_none_iff :
    foundAttributeAt attributes type = none ↔ ∀ a ∈ attributes, a.name ≠ type := by
  induction attributes with
  | nil => simp [foundAttributeAt]
  | cons a rest ih =>
    cases hrest : foundAttributeAt rest type with
    | some i =>
      -- a later attribute has the type
      have hsome : ¬∀ x ∈ rest, x.name ≠ type := fun h => by simp [ih.mpr h] at hrest
      simp only [foundAttributeAt, hrest, reduceCtorEq, false_iff]
      exact fun h => hsome fun x hx => h x (by simp [hx])
    | none =>
      have hall := ih.mp hrest
      by_cases ha : a.name = type
      · simp [foundAttributeAt, hrest, ha]
      · simpa [foundAttributeAt, hrest, ha] using hall

theorem exists_name_of_foundAttributeAt {i : Nat} (hfound : foundAttributeAt attributes type = some i) :
    ∃ a ∈ attributes, a.name = type := by
  by_contra hnone
  simp only [not_exists, not_and] at hnone
  simp [foundAttributeAt_eq_none_iff.mpr hnone] at hfound

/-- With distinct names, an attribute before the one found has another name. -/
theorem name_ne_of_found_later {a : EntryAttribute} {rest : List EntryAttribute} {j : Nat}
    (hnames : NamesDistinct (a :: rest)) (hlater : foundAttributeAt rest type = some j) : a.name ≠ type := by
  obtain ⟨x, hx, hxname⟩ := exists_name_of_foundAttributeAt hlater
  intro h
  exact (List.nodup_cons.mp hnames).1 (List.mem_map.mpr ⟨x, hx, hxname.trans h.symm⟩)

/-- A map that only changes the attributes of the type leaves a list
without that type as it is. -/
theorem map_eq_self_of_absent (hnone : ∀ a ∈ attributes, a.name ≠ type) (f : EntryAttribute → EntryAttribute) :
    (attributes.map fun a => if a.name = type then f a else a) = attributes := by
  conv_rhs => rw [← List.map_id attributes]
  exact List.map_congr_left fun a ha => by simp [hnone a ha]

/-- What the scan can settle on in a list with a head: an attribute further
on, the head having another name, or the head, no later attribute having the
type. -/
theorem foundAttributeAt_cons_eq_some {a : EntryAttribute} {rest : List EntryAttribute} {i : Nat}
    (hnames : NamesDistinct (a :: rest)) (hfound : foundAttributeAt (a :: rest) type = some i) :
    (∃ j, i = j + 1 ∧ foundAttributeAt rest type = some j ∧ a.name ≠ type) ∨
      (i = 0 ∧ a.name = type ∧ ∀ x ∈ rest, x.name ≠ type) := by
  cases hlater : foundAttributeAt rest type with
  | some j =>
    simp only [foundAttributeAt, hlater, Option.some.injEq] at hfound
    exact .inl ⟨j, hfound.symm, rfl, name_ne_of_found_later hnames hlater⟩
  | none =>
    have hname : a.name = type := by
      by_contra h
      simp [foundAttributeAt, hlater, h] at hfound
    simp only [foundAttributeAt, hlater, hname, if_true, Option.some.injEq] at hfound
    exact .inr ⟨hfound.symm, hname, foundAttributeAt_eq_none_iff.mp hlater⟩

/-- With distinct names the attribute found is the only one of the type, so
changing it at its index is changing every attribute of the type. -/
theorem modify_foundAttributeAt (hnames : NamesDistinct attributes) {i : Nat}
    (hfound : foundAttributeAt attributes type = some i) (f : EntryAttribute → EntryAttribute) :
    attributes.modify i f = attributes.map fun a => if a.name = type then f a else a := by
  induction attributes generalizing i with
  | nil => simp [foundAttributeAt] at hfound
  | cons a rest ih =>
    obtain ⟨j, rfl, hlater, hother⟩ | ⟨rfl, hname, hnone⟩ := foundAttributeAt_cons_eq_some hnames hfound
    · simp [List.modify_succ_cons, hother, ih (List.nodup_cons.mp hnames).2 hlater]
    · simp [List.modify_zero_cons, hname, map_eq_self_of_absent hnone]

/-- Slicing out the attribute found removes every attribute of the type. -/
theorem eraseIdx_foundAttributeAt (hnames : NamesDistinct attributes) {i : Nat}
    (hfound : foundAttributeAt attributes type = some i) :
    attributes.eraseIdx i = attributes.filter (·.name ≠ type) := by
  induction attributes generalizing i with
  | nil => simp [foundAttributeAt] at hfound
  | cons a rest ih =>
    obtain ⟨j, rfl, hlater, hother⟩ | ⟨rfl, hname, hnone⟩ := foundAttributeAt_cons_eq_some hnames hfound
    · simp [List.eraseIdx_cons_succ, hother, ih (List.nodup_cons.mp hnames).2 hlater]
    · have hkeep : rest.filter (·.name ≠ type) = rest :=
        List.filter_eq_self.mpr fun x hx => by simp [hnone x hx]
      rw [List.eraseIdx_cons_zero, List.filter_cons_of_neg (by simp [hname]), hkeep]

/-- The modify operation keeps the names distinct. -/
theorem namesDistinct_modifyAttributes (hnames : NamesDistinct attributes) (chg : Change) :
    NamesDistinct (modifyAttributes attributes chg) := by
  -- every branch but a new attribute keeps the names or drops some
  have hsame : ∀ f : EntryAttribute → EntryAttribute, (∀ a, a.name = chg.modification.type → (f a).name = a.name) →
      NamesDistinct (attributes.map fun a => if a.name = chg.modification.type then f a else a) := by
    intro f hf
    have hnamesEq : (attributes.map fun a => if a.name = chg.modification.type then f a else a).map (·.name) =
        attributes.map (·.name) := by
      rw [List.map_map]
      exact List.map_congr_left fun a _ => by by_cases ha : a.name = chg.modification.type <;> simp [ha, hf]
    unfold NamesDistinct
    rw [hnamesEq]
    exact hnames
  unfold modifyAttributes
  dsimp only
  split_ifs with hadd hany hdelete hreplace
  · exact hsame _ fun a _ => rfl
  · -- the new attribute has a name no attribute has
    simp only [List.any_eq_true, decide_eq_true_eq, not_exists, not_and] at hany
    unfold NamesDistinct
    rw [List.map_append, List.nodup_append]
    refine ⟨hnames, List.nodup_singleton _, ?_⟩
    intro name hname new hnew
    simp only [List.map_cons, List.map_nil, List.mem_singleton, NewEntryAttribute] at hnew
    subst hnew
    obtain ⟨a, ha, rfl⟩ := List.mem_map.mp hname
    exact hany a ha
  · exact (List.Sublist.map _ List.filter_sublist).nodup hnames
  · exact hsame _ fun a ha => ha.symm
  · exact hnames

/-- The body of the change loop is the modify operation, except that a
replace changes nothing. -/
theorem applyChange_eq (hnames : NamesDistinct attributes) (chg : Change) :
    applyChange attributes chg =
      if chg.operation = ReplaceAttribute then attributes else modifyAttributes attributes chg := by
  have hAD : AddAttribute ≠ DeleteAttribute := by decide
  have hAR : AddAttribute ≠ ReplaceAttribute := by decide
  have hDR : DeleteAttribute ≠ ReplaceAttribute := by decide
  unfold applyChange modifyAttributes
  cases hfound : foundAttributeAt attributes chg.modification.type with
  | some i =>
    have hany : attributes.any (·.name = chg.modification.type) = true := by
      simpa using exists_name_of_foundAttributeAt hfound
    by_cases hadd : chg.operation = AddAttribute
    · simp [hadd, hAR, hany, modify_foundAttributeAt hnames hfound]
    · by_cases hdelete : chg.operation = DeleteAttribute
      · simp [hdelete, hAD.symm, hDR, eraseIdx_foundAttributeAt hnames hfound]
      · by_cases hreplace : chg.operation = ReplaceAttribute <;>
          simp [hadd, hdelete, hreplace, hAR.symm, hDR.symm]
  | none =>
    have hnone := foundAttributeAt_eq_none_iff.mp hfound
    have hany : attributes.any (·.name = chg.modification.type) = false := by simpa using hnone
    have hkeep : attributes.filter (fun a => !decide (a.name = chg.modification.type)) = attributes :=
      List.filter_eq_self.mpr fun a ha => by simp [hnone a ha]
    by_cases hadd : chg.operation = AddAttribute
    · simp [hadd, hAR, hany]
    · by_cases hdelete : chg.operation = DeleteAttribute
      · simp [hdelete, hAD.symm, hDR, hkeep]
      · by_cases hreplace : chg.operation = ReplaceAttribute <;>
          simp [hadd, hdelete, hreplace, hAR.symm]

/-- Over any list of changes, on distinct names, the loop of `handleModify`
applies the modify operation for every change but the replaces. -/
theorem foldl_applyChange (changes : List Change) (hnames : NamesDistinct attributes) :
    changes.foldl applyChange attributes =
      (changes.filter (·.operation ≠ ReplaceAttribute)).foldl modifyAttributes attributes := by
  induction changes generalizing attributes with
  | nil => rfl
  | cons chg changes ih =>
    rw [List.foldl_cons, applyChange_eq hnames]
    by_cases hreplace : chg.operation = ReplaceAttribute
    · rw [if_pos hreplace, List.filter_cons_of_neg (by simp [hreplace])]
      exact ih hnames
    · rw [if_neg hreplace, List.filter_cons_of_pos (by simp [hreplace]), List.foldl_cons]
      exact ih (namesDistinct_modifyAttributes hnames chg)

end ModifySpec

/-! ### What `handleModify` does -/

/-- A filter without an open parenthesis has no element, so `match` fails on
every attribute. -/
theorem match_of_no_paren {filter : GoString} (hparen : (40 : UInt8) ∉ filter) (attr : GoString) :
    «match» filter attr = false := by
  have hnone : ∀ s : GoString, (40 : UInt8) ∉ s → parenMatches none s = [] := by
    intro s hs
    induction s with
    | nil => rfl
    | cons b rest ih =>
      have hb : b ≠ 40 := fun h => hs (by simp [h])
      simp only [parenMatches, if_neg hb]
      exact ih fun h => hs (by simp [h])
  simp [«match», FindAllParens, hnone filter hparen]

theorem find_of_no_paren {filter : GoString} (hparen : (40 : UInt8) ∉ filter) (entries : List Entry) :
    find filter entries = (false, [], []) := by
  simp [find, match_of_no_paren hparen]

/-- The response `handleModify` starts from. -/
theorem NewModifyResponse_noSuchObject (r : Request) :
    ∃ res : ModifyResponse, r.NewModifyResponse [.withResponseCode ResultNoSuchObject] = .ok res ∧
      res.general.base.code = ResultNoSuchObject.toInt16 :=
  ⟨_, NewModifyResponse_eq_ok r _ ResultNoSuchObject rfl, rfl⟩

/-- A DN that exactly one user matches: the user's attributes go through the
change loop, which on distinct names is the modify operation for every change
but the replaces; the response reports success with the user's DN; every
other entry stays as it was. -/
theorem handleModify_user {d : Directory} {r : Request} {m : ModifyMessage} (hm : r.message = .modify m)
    {idx : Nat} {e : Entry} (hfind : find (dnFilter m.dn) d.users = (true, [idx], [e]))
    (hnames : NamesDistinct e.attributes) :
    ∃ res : ModifyResponse, handleModify d r =
        .ok (⟨d.users.set idx ⟨e.dn, (m.changes.filter (·.operation ≠ ReplaceAttribute)).foldl modifyAttributes
          e.attributes⟩, d.groups⟩, res) ∧
      res.general.base.code = ResultSuccess.toInt16 ∧ res.general.base.matchedDN = e.dn := by
  obtain ⟨res, hres, _⟩ := NewModifyResponse_noSuchObject r
  refine ⟨⟨(res.general.SetMatchedDN e.dn).SetResultCode ResultSuccess⟩, ?_, rfl, rfl⟩
  simp [handleModify, hres, hm, hfind, Directory.modifyEntry, foldl_applyChange _ hnames, List.set_eq_modify]

/-- A DN without an open parenthesis is never found among the groups: when no
user matches it, the directory stays as it was and the response is no such
object. -/
theorem handleModify_no_user {d : Directory} {r : Request} {m : ModifyMessage} (hm : r.message = .modify m)
    (hparen : (40 : UInt8) ∉ m.dn) (husers : (find (dnFilter m.dn) d.users).2.2 = []) :
    ∃ res : ModifyResponse, handleModify d r = .ok (d, res) ∧ res.general.base.code = ResultNoSuchObject.toInt16 := by
  obtain ⟨res, hres, hcode⟩ := NewModifyResponse_noSuchObject r
  refine ⟨res, ?_, hcode⟩
  rcases hfind : find (dnFilter m.dn) d.users with ⟨found, foundAt, entries⟩
  rw [hfind] at husers
  simp only at husers
  subst husers
  simp [handleModify, hres, hm, hfind, find_of_no_paren hparen]

/-- A replace of an attribute the user has reports success and leaves the
attribute as it was; a modify of a group's DN reports no such object and
leaves the group as it was. -/
theorem modify_replace_ignored_group_not_found :
    handleModify ⟨[⟨lit "cn=bob", [NewEntryAttribute (lit "email") [lit "bob@example.com"]]⟩], []⟩
        ⟨1, 1, .modify ⟨1, lit "cn=bob", [⟨ReplaceAttribute, ⟨lit "email", [lit "bob@new.example.com"]⟩⟩], []⟩,
          modifyRouteOperation, []⟩ =
      .ok (⟨[⟨lit "cn=bob", [NewEntryAttribute (lit "email") [lit "bob@example.com"]]⟩], []⟩,
        ⟨⟨⟨1, 0, lit "Unused", lit "cn=bob"⟩, .ofNat ApplicationModifyResponse⟩⟩) ∧
    handleModify ⟨[], [⟨lit "cn=admins", []⟩]⟩
        ⟨1, 1, .modify ⟨1, lit "cn=admins", [⟨AddAttribute, ⟨lit "member", [lit "cn=alice"]⟩⟩], []⟩,
          modifyRouteOperation, []⟩ =
      .ok (⟨[], [⟨lit "cn=admins", []⟩]⟩,
        ⟨⟨⟨1, 32, lit "Unused", lit "Unused"⟩, .ofNat ApplicationModifyResponse⟩⟩) := by
  decide +kernel

/-! ### Group search -/

/-- The member values of a group that the filter matches once `member=` is
put in front. -/
def matchingMembers (filter : GoString) (e : Entry) : List GoString :=
  (e.GetAttributeValues (lit "member")).filter fun m => «match» filter (lit "member=" ++ m)

/-- `findMembers` without options: a group once for every member value the
filter matches. -/
def findMembers (d : Directory) (filter : GoString) : Bool × List Entry :=
  -- the source's `matches`
  let matching := d.groups.flatMap fun e => (matchingMembers filter e).map fun _ => e
  (!matching.isEmpty, matching)

/-- The second pass of `handleSearchGroups`: each group whose DN the filter
matches and that the list does not hold yet, counted in `foundEntries`.
`slices.Contains` compares pointers, which for distinct groups is comparing
the entries. -/
def addDNMatches (filter : GoString) (groups entries : List Entry) (foundEntries : Nat) : List Entry × Nat :=
  groups.foldl (fun (entries, foundEntries) e =>
    if !«match» filter e.dn then (entries, foundEntries)
    else if e ∈ entries then (entries, foundEntries)
    else (entries ++ [e], foundEntries + 1)) (entries, foundEntries)

/-- The entry written for a group: its DN and each of its attributes. -/
def groupEntry (r : Request) (e : Entry) : SearchResponseEntry :=
  e.attributes.foldl (fun result attr => result.AddAttribute attr.name attr.values) (r.NewSearchResponseEntry e.dn [])

/-- `handleSearchGroups`: the responses it writes, in order, with `controls`
the directory's controls. Every write is taken to succeed. -/
def handleSearchGroups (d : Directory) (controls : List Control) (r : Request) : List Response :=
  let res := r.NewSearchDoneResponse [.withResponseCode ResultNoSuchObject]
  match r.message with
  | .search m =>
    let (_, entries) := findMembers d m.filter
    let (entries, foundEntries) := addDNMatches m.filter d.groups entries entries.length
    if foundEntries > 0 then
      entries.map (fun e => .searchEntry (groupEntry r e)) ++
        [.searchDone { res.SetControls controls with base := res.base.SetResultCode ResultSuccess }]
    else [.searchDone res]
  | _ => [.searchDone res]

section GroupSearch

variable {filter : GoString}

/-- A group is listed by `findMembers` once for each of its matching member
values. -/
theorem count_findMembers {groups : List Entry} (hgroups : groups.Nodup) (g : Entry) :
    (groups.flatMap fun e => (matchingMembers filter e).map fun _ => e).count g =
      if g ∈ groups then (matchingMembers filter g).length else 0 := by
  induction groups with
  | nil => simp
  | cons e rest ih =>
    obtain ⟨hfresh, hrest⟩ := List.nodup_cons.mp hgroups
    rw [List.flatMap_cons, List.count_append, List.map_const', List.count_replicate, ih hrest]
    by_cases he : e = g
    · subst he
      simp [hfresh]
    · have hne : (e == g) = false := by simpa using he
      by_cases hg : g ∈ rest <;> simp [hne, hg, Ne.symm he]

/-- With distinct groups the second pass adds, after the list, each group
whose DN matches and that the list does not hold. -/
theorem addDNMatches_eq {groups : List Entry} (hgroups : groups.Nodup) (entries : List Entry) (n : Nat) :
    addDNMatches filter groups entries n =
      (entries ++ groups.filter (fun g => «match» filter g.dn && g ∉ entries),
        n + (groups.filter (fun g => «match» filter g.dn && g ∉ entries)).length) := by
  induction groups generalizing entries n with
  | nil => simp [addDNMatches]
  | cons g rest ih =>
    obtain ⟨hfresh, hrest⟩ := List.nodup_cons.mp hgroups
    unfold addDNMatches
    rw [List.foldl_cons]
    by_cases hmatch : «match» filter g.dn = true
    · by_cases hin : g ∈ entries
      · simp only [hmatch, hin, Bool.not_true, Bool.false_eq_true, ↓reduceIte]
        rw [← addDNMatches, ih hrest]
        simp [hmatch, hin]
      · simp only [hmatch, hin, Bool.not_true, Bool.false_eq_true, ↓reduceIte]
        rw [← addDNMatches, ih hrest]
        -- the later groups differ from this one, so adding it changes none of their tests
        have hsame : rest.filter (fun x => «match» filter x.dn && x ∉ entries ++ [g]) =
            rest.filter (fun x => «match» filter x.dn && x ∉ entries) :=
          List.filter_congr fun x hx => by
            have hne : x ≠ g := fun h => hfresh (h ▸ hx)
            simp [hne]
        rw [hsame]
        simp [hmatch, hin]
        omega
    · simp only [Bool.not_eq_true] at hmatch
      simp only [hmatch, Bool.not_false, ↓reduceIte]
      rw [← addDNMatches, ih hrest]
      simp [hmatch]

/-- How often a group is listed after both passes. -/
theorem count_groupHits {groups : List Entry} (hgroups : groups.Nodup) (g : Entry) :
    let members := groups.flatMap fun e => (matchingMembers filter e).map fun _ => e
    (members ++ groups.filter (fun e => «match» filter e.dn && e ∉ members)).count g =
      if g ∈ groups then
        (if 0 < (matchingMembers filter g).length then (matchingMembers filter g).length
          else if «match» filter g.dn then 1 else 0)
      else 0 := by
  intro members
  have hmembers : members.count g = if g ∈ groups then (matchingMembers filter g).length else 0 :=
    count_findMembers hgroups g
  -- the second pass lists a group at most once, and only one the first pass missed
  have hsecond : (groups.filter (fun e => «match» filter e.dn && e ∉ members)).count g =
      if g ∈ groups.filter (fun e => «match» filter e.dn && e ∉ members) then 1 else 0 :=
    (hgroups.filter _).count
  have hin : g ∈ members ↔ g ∈ groups ∧ 0 < (matchingMembers filter g).length := by
    rw [← List.count_pos_iff, hmembers]
    split <;> simp_all
  rw [List.count_append, hmembers, hsecond]
  by_cases hg : g ∈ groups
  · by_cases hlen : 0 < (matchingMembers filter g).length
    · simp [hg, hlen, hin]
    · have hnil : matchingMembers filter g = [] := List.eq_nil_of_length_eq_zero (by omega)
      by_cases hmatch : «match» filter g.dn = true <;> simp [hg, hnil, hin, hmatch]
  · simp [hg]

/-- With distinct groups, `handleSearchGroups` writes an entry for a group
once for each of its member values the filter matches, or once when only its
DN matches, and for no other group; then the done response, success when it
wrote an entry and no such object otherwise. -/
theorem handleSearchGroups_spec {d : Directory} {r : Request} {m : SearchMessage} (hm : r.message = .search m)
    (hgroups : d.groups.Nodup) (controls : List Control) :
    ∃ (hits : List Entry) (done : SearchResponseDone),
      handleSearchGroups d controls r = hits.map (fun e => .searchEntry (groupEntry r e)) ++ [.searchDone done] ∧
      done.base.code = (if hits = [] then ResultNoSuchObject else ResultSuccess).toInt16 ∧
      ∀ g, hits.count g =
        if g ∈ d.groups then
          (if 0 < (matchingMembers m.filter g).length then (matchingMembers m.filter g).length
            else if «match» m.filter g.dn then 1 else 0)
        else 0 := by
  have hpasses : ∀ members : List Entry, addDNMatches m.filter d.groups members members.length =
      (members ++ d.groups.filter (fun e => «match» m.filter e.dn && e ∉ members),
        members.length + (d.groups.filter (fun e => «match» m.filter e.dn && e ∉ members)).length) :=
    fun members => addDNMatches_eq hgroups members members.length
  simp only [handleSearchGroups, hm, findMembers, hpasses]
  set members := d.groups.flatMap fun e => (matchingMembers m.filter e).map fun _ => e
  set hits := members ++ d.groups.filter (fun e => «match» m.filter e.dn && e ∉ members) with hhits
  -- the count of found entries is the length of the list
  have hlength : members.length + (d.groups.filter (fun e => «match» m.filter e.dn && e ∉ members)).length =
      hits.length := by
    simp [hhits]
  rw [hlength]
  by_cases hempty : hits = []
  · refine ⟨hits, r.NewSearchDoneResponse [.withResponseCode ResultNoSuchObject], ?_, ?_, count_groupHits hgroups⟩
    · simp [hempty]
    · simp only [hempty, if_true]
      rfl
  · refine ⟨hits, ?done, ?written, ?code, count_groupHits hgroups⟩
    case written => rw [if_pos (List.length_pos_iff.mpr hempty)]
    case code =>
      simp only [hempty, if_false]
      rfl

end GroupSearch

/-- A group with two member values that the filter matches is written
twice, and the search reports success. -/
theorem search_groups_writes_group_twice :
    let admins : Entry := ⟨lit "cn=admins",
      [NewEntryAttribute (lit "member") [lit "cn=alice,ou=people", lit "cn=bob,ou=people"]]⟩
    let r : Request := ⟨1, 1, .search ⟨1, lit "ou=groups", WholeSubtree, 0, 0, 0, false, lit "(ou=people)", [], []⟩,
      searchRouteOperation, []⟩
    handleSearchGroups ⟨[], [admins]⟩ [] r =
      [.searchEntry (groupEntry r admins), .searchEntry (groupEntry r admins), .searchDone ⟨⟨1, 0, [], []⟩, []⟩] := by
  decide +kernel

end Gldap.TestDirectory
