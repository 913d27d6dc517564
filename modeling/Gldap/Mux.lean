import Gldap.Response

/-! The router: route.go's route types and their `match` methods,
route_options.go, and mux.go's registrations and `serve`.

`serve` hands a request to the first registered route that matches it, else
to the default route, else answers UnwillingToPerform. The search route keeps
its options as plain values, so an option given with its zero value (an empty
base DN or filter, the scope `BaseObject`) is indistinguishable from an
option not given. `Registration.meets` states the criteria a registration
sets in terms of the options given, and `serve_registerAll` shows that `serve`
on any registered mux is the first-match dispatch over them.

A handler is an opaque value of a type `H`; a nil `HandlerFunc` is `none`.
`strings.EqualFold` is the parameter `EqualFold`.
-/

set_option autoImplicit false

namespace Gldap

open Go

/-- routeOptions. -/
structure RouteOptions where
  withLabel : GoString
  withBaseDN : GoString
  withFilter : GoString
  withScope : Scope
  deriving Repr, DecidableEq

def routeDefaults : RouteOptions := ⟨[], [], [], 0⟩

def RouteOptions.apply (opts : RouteOptions) : Opt → RouteOptions
  | .withLabel l => { opts with withLabel := l }
  | .withBaseDN dn => { opts with withBaseDN := dn }
  | .withFilter filter => { opts with withFilter := filter }
  | .withScope s => { opts with withScope := s }
  | _ => opts

def getRouteOpts (opt : List Opt) : RouteOptions :=
  applyOpts RouteOptions.apply routeDefaults opt

/-! ### Which options were given -/

def Opt.label? : Opt → Option GoString
  | .withLabel l => some l
  | _ => none

def Opt.baseDN? : Opt → Option GoString
  | .withBaseDN dn => some dn
  | _ => none

def Opt.filter? : Opt → Option GoString
  | .withFilter filter => some filter
  | _ => none

def Opt.scope? : Opt → Option Scope
  | .withScope s => some s
  | _ => none

/-- The value of the last option that `f` reads, if one was given. -/
def lastGiven {α : Type} (f : Opt → Option α) : List Opt → Option α
  | [] => none
  | o :: opt => (lastGiven f opt).or (f o)

/-- Each route option ends up as its last given value, or as it was. -/
theorem applyOpts_route (opts : RouteOptions) (opt : List Opt) :
    applyOpts RouteOptions.apply opts opt =
      ⟨(lastGiven Opt.label? opt).getD opts.withLabel, (lastGiven Opt.baseDN? opt).getD opts.withBaseDN,
        (lastGiven Opt.filter? opt).getD opts.withFilter, (lastGiven Opt.scope? opt).getD opts.withScope⟩ := by
  induction opt generalizing opts with
  | nil => rfl
  | cons o opt ih =>
    simp only [applyOpts, List.foldl_cons] at ih ⊢
    rw [ih]
    cases o <;> simp [lastGiven, RouteOptions.apply, Opt.label?, Opt.baseDN?, Opt.filter?,
      Opt.scope?]

theorem getRouteOpts_eq (opt : List Opt) :
    getRouteOpts opt = ⟨(lastGiven Opt.label? opt).getD [], (lastGiven Opt.baseDN? opt).getD [],
      (lastGiven Opt.filter? opt).getD [], (lastGiven Opt.scope? opt).getD 0⟩ :=
  applyOpts_route routeDefaults opt

/-! ### Routes -/

variable {H : Type}

/-- `baseRoute`. -/
structure BaseRoute (H : Type) where
  h : Option H
  routeOp : RouteOperation
  label : GoString
  deriving Repr, DecidableEq

/-- The source's `route` interface: the seven route types, and a bare
`baseRoute` as `DefaultRoute` registers it. -/
inductive Route (H : Type) where
  | search (base : BaseRoute H) (basedn filter : GoString) (scope : Scope)
  | simpleBind (base : BaseRoute H) (authChoice : AuthChoice)
  | unbind (base : BaseRoute H)
  | extended (base : BaseRoute H) (extendedName : ExtendedOperationName)
  | modify (base : BaseRoute H)
  | add (base : BaseRoute H)
  | delete (base : BaseRoute H)
  | base (base : BaseRoute H)
  deriving Repr, DecidableEq

def Route.baseRoute : Route H → BaseRoute H
  | .search b .. | .simpleBind b _ | .unbind b | .extended b _ | .modify b | .add b | .delete b
  | .base b => b

def Route.handler (r : Route H) : Option H := r.baseRoute.h

section Match

variable (EqualFold : GoString → GoString → Bool)

/-- The body shared by the delete, add and modify routes: the operation, then
the message's type. -/
def matchOpMessage (r : BaseRoute H) (isKind : Message → Bool) (req : Request) : Bool :=
  if r.routeOp ≠ req.routeOp then false else isKind req.message

def Message.isDelete : Message → Bool
  | .delete _ => true
  | _ => false

def Message.isAdd : Message → Bool
  | .add _ => true
  | _ => false

def Message.isModify : Message → Bool
  | .modify _ => true
  | _ => false

def Message.isExtendedOperation : Message → Bool
  | .extendedOperation _ => true
  | _ => false

def deleteRouteMatch (r : BaseRoute H) (req : Request) : Bool :=
  matchOpMessage r Message.isDelete req

def addRouteMatch (r : BaseRoute H) (req : Request) : Bool :=
  matchOpMessage r Message.isAdd req

def modifyRouteMatch (r : BaseRoute H) (req : Request) : Bool :=
  matchOpMessage r Message.isModify req

def simpleBindRouteMatch (r : BaseRoute H) (authChoice : AuthChoice) (req : Request) : Bool :=
  if r.routeOp ≠ req.routeOp then false
  else match req.message with
    | .simpleBind m => authChoice ≠ [] ∧ authChoice = m.authChoice
    | _ => false

def extendedRouteMatch (r : BaseRoute H) (extendedName : ExtendedOperationName) (req : Request) :
    Bool :=
  if r.routeOp ≠ req.routeOp then false
  else if extendedName ≠ req.extendedName then false
  else req.message.isExtendedOperation

/-- `(*searchRoute).match`: an empty base DN or filter and a zero scope
impose nothing. -/
def searchRouteMatch (r : BaseRoute H) (basedn filter : GoString) (scope : Scope) (req : Request) :
    Bool :=
  if r.routeOp ≠ req.routeOp then false
  else match req.message with
    | .search searchMsg =>
      if basedn ≠ [] ∧ !EqualFold searchMsg.baseDN basedn then false
      else if filter ≠ [] ∧ !EqualFold searchMsg.filter filter then false
      else if scope ≠ 0 ∧ searchMsg.scope ≠ scope then false
      else true
    | _ => false

/-- `match` of each route type; the unbind route and the bare base route
inherit `(*baseRoute).match`, which never matches. -/
def Route.match : Route H → Request → Bool
  | .search b basedn filter scope => searchRouteMatch EqualFold b basedn filter scope
  | .simpleBind b authChoice => simpleBindRouteMatch b authChoice
  | .extended b extendedName => extendedRouteMatch b extendedName
  | .modify b => modifyRouteMatch b
  | .add b => addRouteMatch b
  | .delete b => deleteRouteMatch b
  | .unbind _ | .base _ => fun _ => false

end Match

/-! ### The mux -/

/-- `Mux`; the two single routes are `none` while unset. -/
structure Mux (H : Type) where
  routes : List (Route H)
  defaultRoute : Option (Route H)
  unbindRoute : Option (Route H)
  deriving Repr

def NewMux : Mux H := ⟨[], none, none⟩

def missingHandlerFunc (op : GoString) : GoError :=
  .wrapf "%s: missing HandlerFunc: %w" [.str op] ErrInvalidParameter

/-- The body shared by the registrations that append a route: refuse a nil
handler, else append the route built around it. -/
def Mux.appendRoute (m : Mux H) (op : GoString) (fn : Option H) (route : BaseRoute H → Route H)
    (routeOp : RouteOperation) (label : GoString) : Except GoError (Mux H) :=
  match fn with
  | none => .error (missingHandlerFunc op)
  | some _ => .ok { m with routes := m.routes ++ [route ⟨fn, routeOp, label⟩] }

def Mux.Bind (m : Mux H) (bindFn : Option H) (opt : List Opt) : Except GoError (Mux H) :=
  m.appendRoute (lit "gldap.(Mux).Bind") bindFn (fun b => .simpleBind b SimpleAuthChoice)
    bindRouteOperation (getRouteOpts opt).withLabel

def Mux.Search (m : Mux H) (searchFn : Option H) (opt : List Opt) : Except GoError (Mux H) :=
  let opts := getRouteOpts opt
  m.appendRoute (lit "gldap.(Mux).Search") searchFn
    (fun b => .search b opts.withBaseDN opts.withFilter opts.withScope) searchRouteOperation opts.withLabel

/-- `(*Mux).ExtendedOperation`; its errors carry the op name of `Search`. -/
def Mux.ExtendedOperation (m : Mux H) (operationFn : Option H) (exName : ExtendedOperationName)
    (opt : List Opt) : Except GoError (Mux H) :=
  m.appendRoute (lit "gldap.(Mux).Search") operationFn (fun b => .extended b exName)
    extendedRouteOperation (getRouteOpts opt).withLabel

def Mux.Modify (m : Mux H) (modifyFn : Option H) (opt : List Opt) : Except GoError (Mux H) :=
  m.appendRoute (lit "gldap.(Mux).Modify") modifyFn .modify modifyRouteOperation
    (getRouteOpts opt).withLabel

def Mux.Add (m : Mux H) (addFn : Option H) (opt : List Opt) : Except GoError (Mux H) :=
  m.appendRoute (lit "gldap.(Mux).Add") addFn .add addRouteOperation (getRouteOpts opt).withLabel

def Mux.Delete (m : Mux H) (modifyFn : Option H) (opt : List Opt) : Except GoError (Mux H) :=
  m.appendRoute (lit "gldap.(Mux).Delete") modifyFn .delete deleteRouteOperation
    (getRouteOpts opt).withLabel

/-- `(*Mux).Unbind` replaces the unbind route, filed under the bind operation. -/
def Mux.Unbind (m : Mux H) (bindFn : Option H) (opt : List Opt) : Except GoError (Mux H) :=
  match bindFn with
  | none => .error (missingHandlerFunc (lit "gldap.(Mux).Unbind"))
  | some _ => .ok { m with unbindRoute := some (.unbind ⟨bindFn, bindRouteOperation, (getRouteOpts opt).withLabel⟩) }

/-- `(*Mux).DefaultRoute` replaces the default route; it reads no option. -/
def Mux.DefaultRoute (m : Mux H) (noRouteFN : Option H) (_opt : List Opt) : Except GoError (Mux H) :=
  match noRouteFN with
  | none => .error (missingHandlerFunc (lit "gldap.(Mux).Bind"))
  | some _ => .ok { m with defaultRoute := some (.base ⟨noRouteFN, bindRouteOperation, []⟩) }

/-- What `serve` does with a request: call a handler, log a route without
one, or write a response itself. -/
inductive Served (H : Type) where
  | handled (h : H)
  | missingHandler
  | unwilling (resp : GeneralResponse)
  deriving Repr, DecidableEq

/-- The response `serve` writes when no route matches and there is no default. -/
def noMatchingHandlerResponse (req : Request) : GeneralResponse :=
  req.NewResponse [.withResponseCode ResultUnwillingToPerform,
    .withDiagnosticMessage (lit "No matching handler found")]

/-- `(*Mux).serve` for a non-nil writer and request. The loop over the routes
stops at the first match; the default route's handler is called unchecked. -/
def Mux.serve (EqualFold : GoString → GoString → Bool) (m : Mux H) (req : Request) :
    Outcome GoError (Served H) :=
  match m.routes.find? (·.match EqualFold req) with
  | some r =>
    match r.handler with
    | some h => .ok (.handled h)
    | none => .ok .missingHandler
  | none =>
    match m.defaultRoute with
    | some d =>
      match d.handler with
      | some h => .ok (.handled h)
      | none => .panic nilDereference
    | none => .ok (.unwilling (noMatchingHandlerResponse req))

/-! ### Runs of registrations -/

/-- One call of a registration method. -/
inductive Registration (H : Type) where
  | bind (bindFn : Option H) (opt : List Opt)
  | unbind (bindFn : Option H) (opt : List Opt)
  | search (searchFn : Option H) (opt : List Opt)
  | extendedOperation (operationFn : Option H) (exName : ExtendedOperationName) (opt : List Opt)
  | modify (modifyFn : Option H) (opt : List Opt)
  | add (addFn : Option H) (opt : List Opt)
  | delete (modifyFn : Option H) (opt : List Opt)
  | defaultRoute (noRouteFN : Option H) (opt : List Opt)
  deriving Repr, DecidableEq

def Mux.register (m : Mux H) : Registration H → Except GoError (Mux H)
  | .bind fn opt => m.Bind fn opt
  | .unbind fn opt => m.Unbind fn opt
  | .search fn opt => m.Search fn opt
  | .extendedOperation fn exName opt => m.ExtendedOperation fn exName opt
  | .modify fn opt => m.Modify fn opt
  | .add fn opt => m.Add fn opt
  | .delete fn opt => m.Delete fn opt
  | .defaultRoute fn opt => m.DefaultRoute fn opt

/-- A registration that fails returns its error and leaves the mux as it was. -/
def Mux.registerOrKeep (m : Mux H) (reg : Registration H) : Mux H :=
  match m.register reg with
  | .ok m' => m'
  | .error _ => m

def Mux.registerAll (m : Mux H) (regs : List (Registration H)) : Mux H :=
  regs.foldl Mux.registerOrKeep m

/-- The route a registration appends: every registration but `Unbind` and
`DefaultRoute`, given a handler. -/
def Registration.route? : Registration H → Option (Route H)
  | .bind fn opt => fn.map fun h => .simpleBind ⟨some h, bindRouteOperation, (getRouteOpts opt).withLabel⟩ SimpleAuthChoice
  | .search fn opt => fn.map fun h =>
    .search ⟨some h, searchRouteOperation, (getRouteOpts opt).withLabel⟩ (getRouteOpts opt).withBaseDN
      (getRouteOpts opt).withFilter (getRouteOpts opt).withScope
  | .extendedOperation fn exName opt => fn.map fun h =>
    .extended ⟨some h, extendedRouteOperation, (getRouteOpts opt).withLabel⟩ exName
  | .modify fn opt => fn.map fun h => .modify ⟨some h, modifyRouteOperation, (getRouteOpts opt).withLabel⟩
  | .add fn opt => fn.map fun h => .add ⟨some h, addRouteOperation, (getRouteOpts opt).withLabel⟩
  | .delete fn opt => fn.map fun h => .delete ⟨some h, deleteRouteOperation, (getRouteOpts opt).withLabel⟩
  | .unbind .. | .defaultRoute .. => none

/-- The handler a `DefaultRoute` registration installs. -/
def Registration.defaultHandler : Registration H → Option H
  | .defaultRoute fn _ => fn
  | _ => none

def defaultRouteOf (h : H) : Route H := .base ⟨some h, bindRouteOperation, []⟩

/-- The route an `Unbind` registration installs. -/
def Registration.unbindRoute? : Registration H → Option (Route H)
  | .unbind fn opt => fn.map fun h => .unbind ⟨some h, bindRouteOperation, (getRouteOpts opt).withLabel⟩
  | _ => none

/-- One registration, successful or not: it appends its route, replaces the
default or the unbind route, or leaves the mux as it was. -/
theorem registerOrKeep_eq (m : Mux H) (reg : Registration H) :
    m.registerOrKeep reg =
      ⟨m.routes ++ reg.route?.toList, (reg.defaultHandler.map defaultRouteOf).or m.defaultRoute,
        reg.unbindRoute?.or m.unbindRoute⟩ := by
  -- each registration, with a nil and with a given handler
  rcases reg with ⟨fn, opt⟩ | ⟨fn, opt⟩ | ⟨fn, opt⟩ | ⟨fn, exName, opt⟩ | ⟨fn, opt⟩ | ⟨fn, opt⟩ |
    ⟨fn, opt⟩ | ⟨fn, opt⟩ <;> cases fn <;>
    simp [Mux.registerOrKeep, Mux.register, Registration.route?, Registration.defaultHandler,
      Registration.unbindRoute?, Mux.Bind, Mux.Search, Mux.ExtendedOperation, Mux.Modify, Mux.Add,
      Mux.Delete, Mux.Unbind, Mux.DefaultRoute, Mux.appendRoute, defaultRouteOf]

/-- The routes after a run: those before, then one per registration that
appends one, in registration order. -/
theorem registerAll_routes (m : Mux H) (regs : List (Registration H)) :
    (m.registerAll regs).routes = m.routes ++ regs.filterMap Registration.route? := by
  induction regs generalizing m with
  | nil => simp [Mux.registerAll]
  | cons reg regs ih =>
    have step : (m.registerAll (reg :: regs)) = (m.registerOrKeep reg).registerAll regs := rfl
    rw [step, ih, registerOrKeep_eq, List.filterMap_cons]
    cases reg.route? <;> simp

/-- The default route after a run: the last one registered, else the one before. -/
theorem registerAll_defaultRoute (m : Mux H) (regs : List (Registration H)) :
    (m.registerAll regs).defaultRoute =
      ((regs.filterMap Registration.defaultHandler).getLast?.map defaultRouteOf).or m.defaultRoute := by
  induction regs generalizing m with
  | nil => simp [Mux.registerAll]
  | cons reg regs ih =>
    have step : (m.registerAll (reg :: regs)) = (m.registerOrKeep reg).registerAll regs := rfl
    rw [step, ih, registerOrKeep_eq, List.filterMap_cons]
    cases reg.defaultHandler with
    | none => rfl
    | some h =>
      -- a later default replaces this one
      cases hlast : (regs.filterMap Registration.defaultHandler).getLast? <;>
        simp [List.getLast?_cons, hlast]

/-! ### The dispatch the registrations ask for -/

section Spec

variable (EqualFold : GoString → GoString → Bool)

/-- The criteria of a search registration over the options it was given: a
base DN or a filter given non-empty must equal the request's ignoring case, a
scope given other than `BaseObject` must equal the request's. -/
def searchCriteria (opt : List Opt) (m : SearchMessage) : Prop :=
  (∀ dn ∈ lastGiven Opt.baseDN? opt, dn ≠ [] → EqualFold m.baseDN dn = true) ∧
  (∀ filter ∈ lastGiven Opt.filter? opt, filter ≠ [] → EqualFold m.filter filter = true) ∧
  (∀ s ∈ lastGiven Opt.scope? opt, s ≠ 0 → m.scope = s)

instance (opt : List Opt) (m : SearchMessage) : Decidable (searchCriteria EqualFold opt m) := by
  unfold searchCriteria
  -- each criterion is decided on the one option value given, never by ranging over a finite type
  exact @instDecidableAnd _ _ (Option.decidableForallMem _)
    (@instDecidableAnd _ _ (Option.decidableForallMem _) (Option.decidableForallMem _))

/-- Whether a registration's route is meant to take a request: the same
operation and, for search and extended, the registered criteria. -/
def Registration.meets : Registration H → Request → Bool
  | .bind .., req => decide (req.routeOp = bindRouteOperation)
  | .search _ opt, req => decide (req.routeOp = searchRouteOperation) && match req.message with
    | .search m => decide (searchCriteria EqualFold opt m)
    | _ => false
  | .extendedOperation _ exName _, req =>
    decide (req.routeOp = extendedRouteOperation) && decide (req.extendedName = exName)
  | .modify .., req => decide (req.routeOp = modifyRouteOperation)
  | .add .., req => decide (req.routeOp = addRouteOperation)
  | .delete .., req => decide (req.routeOp = deleteRouteOperation)
  | .unbind .., _ | .defaultRoute .., _ => false

/-- The handler a registration routes to, if it appends a route. -/
def Registration.routeHandler : Registration H → Option H
  | .bind fn _ | .search fn _ | .extendedOperation fn _ _ | .modify fn _ | .add fn _ | .delete fn _ => fn
  | .unbind .. | .defaultRoute .. => none

/-- The intended dispatch: the handler of the first registration that meets
the request, else the last default handler, else an UnwillingToPerform
response. -/
def specServe (regs : List (Registration H)) (req : Request) : Served H :=
  match regs.findSome? (fun reg => if reg.meets EqualFold req then reg.routeHandler else none) with
  | some h => .handled h
  | none =>
    match (regs.filterMap Registration.defaultHandler).getLast? with
    | some h => .handled h
    | none => .unwilling (noMatchingHandlerResponse req)

/-- A criterion over an option given or not, against the zero value the
route stores when it was not. -/
theorem forall_given_iff {α : Type} (o : Option α) (zero : α) (P : α → Prop) :
    (∀ x ∈ o, x ≠ zero → P x) ↔ (o.getD zero ≠ zero → P (o.getD zero)) := by
  cases o <;> simp

/-- The criteria read off the options are those the search route stores. -/
theorem searchCriteria_iff (opt : List Opt) (m : SearchMessage) :
    searchCriteria EqualFold opt m ↔
      ((getRouteOpts opt).withBaseDN ≠ [] → EqualFold m.baseDN (getRouteOpts opt).withBaseDN = true) ∧
      ((getRouteOpts opt).withFilter ≠ [] → EqualFold m.filter (getRouteOpts opt).withFilter = true) ∧
      ((getRouteOpts opt).withScope ≠ 0 → m.scope = (getRouteOpts opt).withScope) := by
  rw [getRouteOpts_eq, searchCriteria, forall_given_iff, forall_given_iff, forall_given_iff]

/-- The search route's three checks, once the operation and the message type
have passed. -/
theorem searchRouteMatch_of_search (b : BaseRoute H) (basedn filter : GoString) (scope : Scope)
    {req : Request} {m : SearchMessage} (hm : req.message = .search m) (hop : b.routeOp = req.routeOp) :
    searchRouteMatch EqualFold b basedn filter scope req =
      decide ((basedn ≠ [] → EqualFold m.baseDN basedn = true) ∧
        (filter ≠ [] → EqualFold m.filter filter = true) ∧ (scope ≠ 0 → m.scope = scope)) := by
  simp only [searchRouteMatch, hop, hm, ne_eq, not_true_eq_false, ↓reduceIte]
  by_cases hdn : basedn = [] <;> by_cases hf : filter = [] <;> by_cases hs : scope = 0 <;> simp_all

/-- For a request `newRequest` builds, each route a registration appends
matches exactly when the registration's criteria are met. -/
theorem route?_match {reg : Registration H} {r : Route H} {req : Request}
    (hr : reg.route? = some r) (hc : req.Consistent) :
    r.match EqualFold req = reg.meets EqualFold req := by
  have hop := hc.routeOp
  rcases reg with ⟨fn, opt⟩ | ⟨fn, opt⟩ | ⟨fn, opt⟩ | ⟨fn, exName, opt⟩ | ⟨fn, opt⟩ | ⟨fn, opt⟩ |
    ⟨fn, opt⟩ | ⟨fn, opt⟩ <;> cases fn <;> simp [Registration.route?] at hr <;> subst hr
  -- the route's operation against the request's, message by message
  all_goals cases hm : req.message
  all_goals simp [Route.match, Registration.meets, matchOpMessage, deleteRouteMatch, addRouteMatch,
    modifyRouteMatch, simpleBindRouteMatch, extendedRouteMatch, searchRouteMatch, Message.isDelete,
    Message.isAdd, Message.isModify, Message.isExtendedOperation, hop, hm, Message.routeOperation,
    bindRouteOperation_bytes, searchRouteOperation_bytes, extendedRouteOperation_bytes,
    modifyRouteOperation_bytes, addRouteOperation_bytes, deleteRouteOperation_bytes,
    unbindRouteOperation_bytes]
  case bind.some.simpleBind _ m =>
    -- every bind `newRequest` builds is a simple bind
    exact ⟨by decide +kernel, (hc.simple m hm).symm⟩
  case search.some.search _ m =>
    rw [Bool.eq_iff_iff, decide_eq_true_iff, searchCriteria_iff]
    simp only [Bool.and_eq_true, Bool.or_eq_true, decide_eq_true_eq, or_iff_not_imp_left]
  case extendedOperation.some.extendedOperation => exact eq_comm

/-- A registration that appends a route gave it a handler, and the route
keeps it. -/
theorem route?_handler {reg : Registration H} {r : Route H} (hr : reg.route? = some r) :
    ∃ h, r.handler = some h ∧ reg.routeHandler = some h := by
  rcases reg with ⟨fn, opt⟩ | ⟨fn, opt⟩ | ⟨fn, opt⟩ | ⟨fn, exName, opt⟩ | ⟨fn, opt⟩ | ⟨fn, opt⟩ |
    ⟨fn, opt⟩ | ⟨fn, opt⟩ <;> cases fn <;> simp [Registration.route?] at hr <;> subst hr <;>
    simp [Route.handler, Route.baseRoute, Registration.routeHandler]

theorem routeHandler_of_route?_none {reg : Registration H} (hr : reg.route? = none) :
    reg.routeHandler = none := by
  rcases reg with ⟨fn, opt⟩ | ⟨fn, opt⟩ | ⟨fn, opt⟩ | ⟨fn, exName, opt⟩ | ⟨fn, opt⟩ | ⟨fn, opt⟩ |
    ⟨fn, opt⟩ | ⟨fn, opt⟩ <;> cases fn <;> simp_all [Registration.route?, Registration.routeHandler]

/-- The loop of `serve` over the routes of a run finds the handler of the
first registration that meets the request. -/
theorem find?_routes (regs : List (Registration H)) {req : Request} (hc : req.Consistent) :
    ((regs.filterMap Registration.route?).find? (·.match EqualFold req)).map Route.handler =
      (regs.findSome? fun reg => if reg.meets EqualFold req then reg.routeHandler else none).map some := by
  induction regs with
  | nil => rfl
  | cons reg regs ih =>
    cases hr : reg.route? with
    | none =>
      -- a failed or non-route registration adds nothing
      have hnone := routeHandler_of_route?_none hr
      simp only [List.filterMap_cons, hr, List.findSome?_cons, hnone, ite_self]
      exact ih
    | some r =>
      have hmatch := route?_match EqualFold hr hc
      obtain ⟨h, hroute, hreg⟩ := route?_handler hr
      by_cases hmeets : reg.meets EqualFold req = true
      · simp [hr, hmatch, hmeets, hroute, hreg]
      · simp only [List.filterMap_cons, hr, List.find?_cons, List.findSome?_cons, hmatch, hmeets,
          Bool.false_eq_true, ↓reduceIte]
        exact ih

/-- The route `serve` finds on a mux built by registrations, when a
registration meets the request. -/
theorem registerAll_serve_found (regs : List (Registration H)) {req : Request} (hc : req.Consistent) {h : H}
    (hs : regs.findSome? (fun reg => if reg.meets EqualFold req then reg.routeHandler else none) = some h) :
    (NewMux.registerAll regs).serve EqualFold req = .ok (.handled h) := by
  have hfind := find?_routes EqualFold regs hc
  obtain ⟨r, hr, hh⟩ : ∃ r, (regs.filterMap Registration.route?).find? (·.match EqualFold req) = some r ∧
      r.handler = some h := by
    rw [hs, Option.map_some, Option.map_eq_some_iff] at hfind
    exact hfind
  unfold Mux.serve
  rw [registerAll_routes]
  simp [NewMux, hr, hh]

/-- When no registration meets the request, `serve` falls back to the last
default route, or to the unwilling response. -/
theorem registerAll_serve_default (regs : List (Registration H)) {req : Request} (hc : req.Consistent)
    (hs : regs.findSome? (fun reg => if reg.meets EqualFold req then reg.routeHandler else none) = none) :
    (NewMux.registerAll regs).serve EqualFold req =
      .ok (match (regs.filterMap Registration.defaultHandler).getLast? with
        | some h => .handled h
        | none => .unwilling (noMatchingHandlerResponse req)) := by
  have hr : (regs.filterMap Registration.route?).find? (·.match EqualFold req) = none := by
    rw [← Option.map_eq_none_iff, find?_routes EqualFold regs hc, hs, Option.map_none]
  unfold Mux.serve
  rw [registerAll_routes, registerAll_defaultRoute]
  simp only [NewMux, List.nil_append, Option.or_none]
  cases (regs.filterMap Registration.defaultHandler).getLast? <;>
    simp [hr, defaultRouteOf, Route.handler, Route.baseRoute]

/-- `serve` on a mux built by registrations is `specServe`. -/
theorem registerAll_serve (regs : List (Registration H)) (req : Request) (hc : req.Consistent) :
    (NewMux.registerAll regs).serve EqualFold req = .ok (specServe EqualFold regs req) := by
  unfold specServe
  cases hs : regs.findSome? (fun reg => if reg.meets EqualFold req then reg.routeHandler else none) with
  | some h => exact registerAll_serve_found EqualFold regs hc hs
  | none => exact registerAll_serve_default EqualFold regs hc hs

/-- `serve` on a mux built by any run of registrations is the intended
dispatch, for every request `newRequest` builds. -/
theorem serve_registerAll (regs : List (Registration H)) (req : Request) (hc : req.Consistent) :
    (NewMux.registerAll regs).serve EqualFold req = .ok (specServe EqualFold regs req) := by
  have hfind := find?_routes EqualFold regs hc
  unfold Mux.serve specServe
  rw [registerAll_routes, registerAll_defaultRoute]
  simp only [NewMux, List.nil_append, Option.or_none]
  cases hs : regs.findSome? (fun reg => if reg.meets EqualFold req then reg.routeHandler else none) with
  | some h =>
    -- a registered route takes the request: it is found, with its handler
    obtain ⟨r, hr, hh⟩ : ∃ r, (regs.filterMap Registration.route?).find? (·.match EqualFold req) = some r ∧
        r.handler = some h := by
      rw [hs, Option.map_some, Option.map_eq_some_iff] at hfind
      exact hfind
    simp [hr, hh]
  | none =>
    -- no route takes it: the default route, or the unwilling response
    have hr : (regs.filterMap Registration.route?).find? (·.match EqualFold req) = none := by
      rw [hs, Option.map_none, Option.map_eq_none_iff] at hfind
      exact hfind
    cases (regs.filterMap Registration.defaultHandler).getLast? <;>
      simp [hr, defaultRouteOf, Route.handler, Route.baseRoute]

end Spec

theorem serve_registerAll_delete :
    (⟨7, 1, .delete ⟨7, lit "cn=alice", []⟩, deleteRouteOperation, []⟩ : Request).Consistent ∧
    (NewMux.registerAll [Registration.bind (some (0 : Nat)) [], .delete (some 1) []]).serve
        (fun a b => a == b) ⟨7, 1, .delete ⟨7, lit "cn=alice", []⟩, deleteRouteOperation, []⟩ =
      .ok (specServe (fun a b => a == b) [Registration.bind (some (0 : Nat)) [], .delete (some 1) []]
        ⟨7, 1, .delete ⟨7, lit "cn=alice", []⟩, deleteRouteOperation, []⟩) := by
  have hc : (⟨7, 1, .delete ⟨7, lit "cn=alice", []⟩, deleteRouteOperation, []⟩ : Request).Consistent :=
    ⟨rfl, rfl, by simp⟩
  exact ⟨hc, serve_registerAll _ _ _ hc⟩

/-- The zero scope is also `BaseObject`: a search route registered
`WithScope(BaseObject)` takes a single-level search. -/
theorem BaseObject_route_takes_SingleLevel_search :
    (⟨1, 1, .search ⟨1, [], SingleLevel, 0, 0, 0, false, [], [], []⟩, searchRouteOperation, []⟩ :
      Request).Consistent ∧
    ∀ EqualFold : GoString → GoString → Bool,
      (NewMux.registerAll [Registration.search (some (0 : Nat)) [.withScope BaseObject]]).serve EqualFold
        ⟨1, 1, .search ⟨1, [], SingleLevel, 0, 0, 0, false, [], [], []⟩, searchRouteOperation, []⟩ =
        .ok (.handled 0) := by
  refine ⟨⟨rfl, rfl, by simp⟩, fun EqualFold => ?_⟩
  simp [Mux.serve, Mux.registerAll, registerOrKeep_eq, Registration.route?, NewMux, Route.match,
    searchRouteMatch, Route.handler, Route.baseRoute, getRouteOpts_eq, lastGiven, Opt.baseDN?,
    Opt.filter?, Opt.scope?, BaseObject]

end Gldap
