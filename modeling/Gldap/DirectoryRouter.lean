import Gldap.DirectoryHandlers
import Gldap.Mux

/-! The router `Start` gives the directory, and what the directory answers
through it.

`Start` registers the not-found handler as the default route, then a route
per handler. The three search routes differ only in their base DN, and the
user search is registered first, so the first-match loop of `serve` sends a
search under the user DN to it, a search under the group DN to the group
search, and every other search to the generic one. On every request
`newRequest` builds, the mux picks the handler `route` names
(`startMux_serve`); so every search request reaches a search handler and is
answered with entries and one done response for its message ID
(`directory_answers_search`).
-/

set_option autoImplicit false

namespace Gldap.TestDirectory

open Go

/-- The handlers `Start` registers. -/
inductive HandlerFunc where
  | handleNotFound
  | handleBind
  | handleStartTLS
  | handleSearchUsers
  | handleSearchGroups
  | handleSearchGeneric
  | handleModify
  | handleAdd
  | handleDelete
  deriving Repr, DecidableEq

/-- The registrations of `Start`, in its order. Every one has a handler, so
none fails. -/
def startRegistrations (cfg : Settings) : List (Registration HandlerFunc) :=
  [.defaultRoute (some .handleNotFound) [],
    .bind (some .handleBind) [],
    .extendedOperation (some .handleStartTLS) ExtendedOperationStartTLS [],
    .search (some .handleSearchUsers) [.withBaseDN cfg.userDN, .withLabel (lit "Search - Users")],
    .search (some .handleSearchGroups) [.withBaseDN cfg.groupDN, .withLabel (lit "Search - Groups")],
    .search (some .handleSearchGeneric) [.withLabel (lit "Search - Generic")],
    .modify (some .handleModify) [.withLabel (lit "Modify")],
    .add (some .handleAdd) [.withLabel (lit "Add")],
    .delete (some .handleDelete) [.withLabel (lit "Delete")]]

/-- The one default route of `Start`. -/
theorem startRegistrations_defaults (cfg : Settings) :
    (startRegistrations cfg).filterMap Registration.defaultHandler = [.handleNotFound] := rfl

/-- The mux `Start` hands to the server. -/
def startMux (cfg : Settings) : Mux HandlerFunc := NewMux.registerAll (startRegistrations cfg)

section Route

variable (EqualFold : GoString → GoString → Bool)

/-- Where the directory sends a request: by its operation, a StartTLS
request to its handler and every other extended one to the default, and a
search by its base DN, an empty base DN of a route matching every search. -/
def route (cfg : Settings) (req : Request) : HandlerFunc :=
  match req.message with
  | .simpleBind _ => .handleBind
  | .extendedOperation m => if m.name = ExtendedOperationStartTLS then .handleStartTLS else .handleNotFound
  | .search m =>
    if cfg.userDN = [] ∨ EqualFold m.baseDN cfg.userDN = true then .handleSearchUsers
    else if cfg.groupDN = [] ∨ EqualFold m.baseDN cfg.groupDN = true then .handleSearchGroups
    else .handleSearchGeneric
  | .modify _ => .handleModify
  | .add _ => .handleAdd
  | .delete _ => .handleDelete
  | .unbind _ => .handleNotFound

/-- A search route registered with only a base DN takes a search exactly
when the base DN is empty or equals the search's ignoring case. -/
theorem searchCriteria_baseDN (dn label : GoString) (m : SearchMessage) :
    searchCriteria EqualFold [.withBaseDN dn, .withLabel label] m ↔ (dn = [] ∨ EqualFold m.baseDN dn = true) := by
  rw [searchCriteria_iff, getRouteOpts_eq]
  simp [lastGiven, Opt.baseDN?, Opt.filter?, Opt.scope?, or_iff_not_imp_left]

/-- The dispatch the registrations of `Start` ask for is `route`. -/
theorem specServe_startRegistrations (cfg : Settings) {req : Request} (hc : req.Consistent) :
    specServe EqualFold (startRegistrations cfg) req = .handled (route EqualFold cfg req) := by
  have hop := hc.routeOp
  have hname := hc.extendedName
  have hgeneric : ∀ m : SearchMessage, searchCriteria EqualFold [.withLabel (lit "Search - Generic")] m := by
    intro m
    simp [searchCriteria, lastGiven, Opt.baseDN?, Opt.filter?, Opt.scope?]
  -- the operation of each message against the routes in registration order
  cases hm : req.message with
  | search m =>
    by_cases husers : cfg.userDN = [] ∨ EqualFold m.baseDN cfg.userDN = true
    · simp [specServe, startRegistrations, route, hm, hop, Registration.meets, Registration.routeHandler,
        Message.routeOperation, bindRouteOperation_bytes, searchRouteOperation_bytes,
        extendedRouteOperation_bytes, searchCriteria_baseDN, husers]
    · by_cases hgroups : cfg.groupDN = [] ∨ EqualFold m.baseDN cfg.groupDN = true
      · simp [specServe, startRegistrations, route, hm, hop, Registration.meets, Registration.routeHandler,
          Message.routeOperation, bindRouteOperation_bytes, searchRouteOperation_bytes,
          extendedRouteOperation_bytes, searchCriteria_baseDN, husers, hgroups]
      · simp [specServe, startRegistrations, route, hm, hop, Registration.meets, Registration.routeHandler,
          Message.routeOperation, bindRouteOperation_bytes, searchRouteOperation_bytes,
          extendedRouteOperation_bytes, searchCriteria_baseDN, husers, hgroups, hgeneric]
  | extendedOperation m =>
    by_cases hstart : m.name = ExtendedOperationStartTLS
    · simp [specServe, startRegistrations, route, hm, hop, hname, hstart, Registration.meets,
        Registration.routeHandler, Message.routeOperation, bindRouteOperation_bytes,
        extendedRouteOperation_bytes]
    · -- no route takes it: the default route does
      simp [specServe, startRegistrations_defaults]
      simp [startRegistrations, route, hm, hop, hname, hstart, Registration.meets,
        Registration.routeHandler, Message.routeOperation,
        bindRouteOperation_bytes, searchRouteOperation_bytes, extendedRouteOperation_bytes,
        modifyRouteOperation_bytes, addRouteOperation_bytes, deleteRouteOperation_bytes]
  | _ =>
    simp [specServe, startRegistrations_defaults]
    simp [startRegistrations, route, hm, hop, Registration.meets, Registration.routeHandler,
      Message.routeOperation, bindRouteOperation_bytes,
      searchRouteOperation_bytes, extendedRouteOperation_bytes, modifyRouteOperation_bytes,
      addRouteOperation_bytes, deleteRouteOperation_bytes, unbindRouteOperation_bytes]

/-- The mux `Start` builds sends every request `newRequest` builds to the
handler `route` names: binds to the bind handler, StartTLS to its handler,
modify, add and delete to theirs, a search under the user DN to the user
search, else under the group DN to the group search, else to the generic
search, and everything else to the not-found handler. -/
theorem startMux_serve (cfg : Settings) {req : Request} (hc : req.Consistent) :
    (startMux cfg).serve EqualFold req = .ok (.handled (route EqualFold cfg req)) := by
  rw [startMux, registerAll_serve EqualFold _ req hc, specServe_startRegistrations EqualFold cfg hc]

end Route

/-- A search under the group DN goes to the group search. -/
theorem group_search_routed :
    let cfg : Settings := ⟨lit "ou=people,dc=org", lit "ou=groups,dc=org", [], false, []⟩
    let req : Request := ⟨1, 1, .search ⟨1, lit "ou=groups,dc=org", WholeSubtree, 0, 0, 0, false,
      lit "(member=cn=alice)", [], []⟩, searchRouteOperation, []⟩
    req.Consistent ∧
      (startMux cfg).serve (fun a b => a == b) req =
        .ok (.handled (route (fun a b => a == b) cfg req)) ∧
      route (fun a b => a == b) cfg req = .handleSearchGroups := by
  intro cfg req
  have hc : req.Consistent := ⟨rfl, rfl, by simp [req]⟩
  exact ⟨hc, startMux_serve _ cfg hc, by decide +kernel⟩

/-- The responses of a search handler; the other handlers are modelled
elsewhere. -/
def searchResponses (d : Directory) (cfg : Settings) (r : Request) : HandlerFunc → Option (List Response)
  | .handleSearchUsers => some (handleSearchUsers d cfg.controls r)
  | .handleSearchGroups => some (handleSearchGroups d cfg.controls r)
  | .handleSearchGeneric => some (handleSearchGeneric d cfg r)
  | _ => none

/-- The search handler `route` picks for a search answers it as a search is
answered. -/
theorem route_search_answer (EqualFold : GoString → GoString → Bool) (d : Directory) (cfg : Settings)
    {req : Request} {m : SearchMessage} (hm : req.message = .search m) :
    ∃ responses, searchResponses d cfg req (route EqualFold cfg req) = some responses ∧
      SearchAnswer m.id responses := by
  have hid : req.message.GetID = m.id := by simp [hm, Message.GetID]
  -- a search is routed to one of the three search handlers
  have hroute : route EqualFold cfg req = .handleSearchUsers ∨ route EqualFold cfg req = .handleSearchGroups ∨
      route EqualFold cfg req = .handleSearchGeneric := by
    simp only [route, hm]
    split_ifs <;> simp
  rcases hroute with hr | hr | hr
  · exact ⟨_, by rw [hr]; rfl, hid ▸ handleSearchUsers_answer d cfg.controls req⟩
  · exact ⟨_, by rw [hr]; rfl, hid ▸ handleSearchGroups_answer d cfg.controls req⟩
  · exact ⟨_, by rw [hr]; rfl, hid ▸ handleSearchGeneric_answer d cfg req⟩

/-- Every search request `newRequest` builds is sent by the directory's mux to
one of its search handlers, which answers it with entries and then one done
response, all for the request's message ID, reporting success when it wrote
an entry. -/
theorem directory_answers_search (EqualFold : GoString → GoString → Bool) (d : Directory) (cfg : Settings)
    {req : Request} {m : SearchMessage} (hc : req.Consistent) (hm : req.message = .search m) :
    ∃ h responses, (startMux cfg).serve EqualFold req = .ok (.handled h) ∧
      searchResponses d cfg req h = some responses ∧ SearchAnswer m.id responses := by
  rw [startMux, registerAll_serve EqualFold _ req hc, specServe_startRegistrations EqualFold cfg hc]
  obtain ⟨responses, hresponses, hanswer⟩ := route_search_answer EqualFold d cfg hm
  exact ⟨_, responses, rfl, hresponses, hanswer⟩

/-- A search the generic route takes: its answer is the done response alone. -/
theorem generic_search_answered :
    let cfg : Settings := ⟨lit "ou=people,dc=org", lit "ou=groups,dc=org", [], false, []⟩
    let m : SearchMessage := ⟨7, lit "dc=org", WholeSubtree, 0, 0, 0, false, lit "(cn=nobody)", [], []⟩
    let req : Request := ⟨1, 1, .search m, searchRouteOperation, []⟩
    req.Consistent ∧ req.message = .search m ∧
      ∃ h responses, (startMux cfg).serve (fun a b => a == b) req = .ok (.handled h) ∧
        searchResponses ⟨[], []⟩ cfg req h = some responses ∧ SearchAnswer m.id responses := by
  intro cfg m req
  have hc : req.Consistent := ⟨rfl, rfl, by simp [req]⟩
  exact ⟨hc, rfl, directory_answers_search _ ⟨[], []⟩ cfg hc rfl⟩

end Gldap.TestDirectory
