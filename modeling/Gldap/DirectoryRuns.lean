import Gldap.TestDirectory
import Gldap.Go.Interleaving

/-! What every run of the directory's add and delete handlers keeps, under
every interleaving of their steps.

The handlers race (an add can duplicate a DN, a delete can remove past the end
of the list), but some things hold whatever the interleaving. Every request is
answered exactly once, when its goroutine returns: the responses written so
far and the requests still being handled carry, between them, each request's
message ID once (`directory_answers_each_request_once`). And the directory
holds nothing the requests did not put there: the groups are the initial
groups with some removed, and every user is an initial user or the entry an
add request built (`directory_entries_come_from_requests`).
-/

set_option autoImplicit false

namespace Gldap.TestDirectory

open Go

/-- The message ID of the request a handler goroutine answers. -/
def Handler.messageID : Handler → Int64
  | .add r | .delete r => r.message.GetID
  | .addAppend res _ | .deleteGroups res _ | .removeUser res _ | .removeGroup res _ => res.base.messageID

/-- The entries a handler may still append: an add request's new entry, or
the one it is about to append. -/
def Handler.Adds : Handler → Entry → Prop
  | .add r, e => ∃ m, r.message = .add m ∧ e = NewEntry m.dn (attributeMap m.attributes)
  | .addAppend _ newEntry, e => e = newEntry
  | _, _ => False

@[simp] theorem moreThanOneMatch_messageID (res : GeneralResponse) (count : Nat) :
    (moreThanOneMatch res count).base.messageID = res.base.messageID := rfl

@[simp] theorem SetResultCode_messageID (res : GeneralResponse) (code : Int64) :
    (res.SetResultCode code).base.messageID = res.base.messageID := rfl

@[simp] theorem SetDiagnosticMessage_messageID (res : GeneralResponse) (msg : GoString) :
    (res.SetDiagnosticMessage msg).base.messageID = res.base.messageID := rfl

/-- `removeAt` takes out at most one element, and never fails with an error. -/
theorem removeAt_sublist {xs ys : List Entry} {idx : Nat} (h : removeAt xs idx = .ok ys) : List.Sublist ys xs := by
  unfold removeAt at h
  split at h
  · cases h
    have hkeep := List.Sublist.append_left (List.drop_sublist_drop_left xs (Nat.le_succ idx)) (xs.take idx)
    rwa [List.take_append_drop] at hkeep
  · cases h

theorem removeAt_ne_error (xs : List Entry) (idx : Nat) (err : GoError) : removeAt xs idx ≠ .error err := by
  unfold removeAt
  split <;> simp

/-- What one step of a handler does to the store: going on keeps the store
and the request and may only narrow what it adds; returning writes one
response for the request and only removes entries or appends one the handler
adds; a panic writes the response and leaves the directory as it was. -/
def StepKeeps (s : Store) (h : Handler) : Effect Store Handler Unit → Prop
  | .continue s' h' spawned => s' = s ∧ spawned = [] ∧ h'.messageID = h.messageID ∧ ∀ e, h'.Adds e → h.Adds e
  | .exit s' => ∃ res : GeneralResponse, s'.written = s.written ++ [res] ∧ res.base.messageID = h.messageID ∧
      List.Sublist s'.dir.groups s.dir.groups ∧ ∀ e ∈ s'.dir.users, e ∈ s.dir.users ∨ h.Adds e
  | .panic s' _ => ∃ res : GeneralResponse, s'.written = s.written ++ [res] ∧ res.base.messageID = h.messageID ∧
      s'.dir = s.dir

/-- Every step of every handler does only what `StepKeeps` allows. -/
theorem handlerStep_keeps (s : Store) (h : Handler) : StepKeeps s h (handlerStep s h) := by
  cases h with
  | add r =>
    simp only [handlerStep]
    split
    · case h_1 m hm =>
      split
      · exact ⟨_, rfl, by simp [Request.NewResponse, Handler.messageID], List.Sublist.refl _, fun e he => .inl he⟩
      · exact ⟨rfl, rfl, by simp [Request.NewResponse, Handler.messageID], fun e he => ⟨m, hm, he⟩⟩
    · exact ⟨_, rfl, by simp [Request.NewResponse, Handler.messageID], List.Sublist.refl _, fun e he => .inl he⟩
  | addAppend res newEntry =>
    refine ⟨_, rfl, by simp [Handler.messageID], List.Sublist.refl _, fun e he => ?_⟩
    rcases List.mem_append.mp he with he | he
    · exact .inl he
    · exact .inr (List.mem_singleton.mp he)
  | delete r =>
    simp only [handlerStep]
    split
    · case h_1 m hm =>
      split
      · exact ⟨rfl, rfl, by simp [Request.NewResponse, Handler.messageID], fun e he => he.elim⟩
      · exact ⟨rfl, rfl, by simp [Request.NewResponse, Handler.messageID], fun e he => he.elim⟩
      · exact ⟨_, rfl, by simp [Request.NewResponse, Handler.messageID], List.Sublist.refl _, fun e he => .inl he⟩
    · exact ⟨_, rfl, by simp [Request.NewResponse, Handler.messageID], List.Sublist.refl _, fun e he => .inl he⟩
  | deleteGroups res dn =>
    simp only [handlerStep]
    split
    · exact ⟨_, rfl, by simp [Handler.messageID], List.Sublist.refl _, fun e he => .inl he⟩
    · exact ⟨rfl, rfl, by simp [Handler.messageID], fun e he => he.elim⟩
    · exact ⟨_, rfl, by simp [Handler.messageID], List.Sublist.refl _, fun e he => .inl he⟩
  | removeUser res idx =>
    simp only [handlerStep]
    split
    · case h_1 users hremove =>
      exact ⟨_, rfl, by simp [Handler.messageID], List.Sublist.refl _,
        fun e he => .inl ((removeAt_sublist hremove).subset he)⟩
    · case h_2 err herror => exact absurd herror (removeAt_ne_error _ _ _)
    · exact ⟨_, rfl, by simp [Handler.messageID], rfl⟩
  | removeGroup res idx =>
    simp only [handlerStep]
    split
    · case h_1 groups hremove =>
      exact ⟨_, rfl, by simp [Handler.messageID], removeAt_sublist hremove, fun e he => .inl he⟩
    · case h_2 err herror => exact absurd herror (removeAt_ne_error _ _ _)
    · exact ⟨_, rfl, by simp [Handler.messageID], rfl⟩

section Runs

variable (d : Directory) (requests : List Handler)

/-- The invariant of the handlers started on `d` with `requests`: the
responses written and the handlers still running answer each request once,
the groups are initial groups, and every user, or entry about to be appended,
is an initial user or one an add request built. -/
structure DirectoryInv (s : Store) (gs : Multiset (Goroutine Handler Unit)) : Prop where
  answered : (↑(s.written.map (·.base.messageID)) : Multiset Int64) + gs.map (·.task.messageID) =
    ↑(requests.map Handler.messageID)
  groups : List.Sublist s.dir.groups d.groups
  users : ∀ e ∈ s.dir.users, e ∈ d.users ∨ ∃ h ∈ requests, h.Adds e
  pending : ∀ g ∈ gs, ∀ e, g.task.Adds e → ∃ h ∈ requests, h.Adds e

theorem directoryInv_start :
    Process.Holds (fun s gs _ => DirectoryInv d requests s gs) (directoryStart d requests) := by
  refine ⟨?_, List.Sublist.refl _, fun e he => .inl he, ?_⟩
  · simp [Multiset.map_coe, Function.comp_def]
  · intro g hg e he
    obtain ⟨h, hh, rfl⟩ := List.mem_map.mp (Multiset.mem_coe.mp hg)
    exact ⟨h, hh, he⟩

/-- A handler that returns or panics takes its message ID from the running
ones to the written ones. -/
theorem answered_write {written : List GeneralResponse} {g : Goroutine Handler Unit}
    {rest : Multiset (Goroutine Handler Unit)} {res : GeneralResponse}
    (h : (↑(written.map (·.base.messageID)) : Multiset Int64) + (g ::ₘ rest).map (·.task.messageID) =
      ↑(requests.map Handler.messageID))
    (hres : res.base.messageID = g.task.messageID) :
    (↑((written ++ [res]).map (·.base.messageID)) : Multiset Int64) + rest.map (·.task.messageID) =
      ↑(requests.map Handler.messageID) := by
  rw [← h, List.map_append, ← Multiset.coe_add, Multiset.map_cons, List.map_singleton, hres,
    Multiset.coe_singleton, Multiset.add_assoc, Multiset.singleton_add]

/-- Every step of every handler keeps the invariant. -/
theorem directoryInv_local :
    Process.LocalInvariant handlerStep (fun s gs (_ : List Unit) => DirectoryInv d requests s gs) where
  continued := by
    intro s g rest log s' task spawned h hstep
    have hkeeps := handlerStep_keeps s g.task
    rw [hstep] at hkeeps
    obtain ⟨rfl, rfl, hid, hadds⟩ := hkeeps
    refine ⟨?_, h.groups, h.users, ?_⟩
    · rw [← h.answered, Multiset.coe_nil, add_zero, Multiset.map_cons, Multiset.map_cons]
      exact congrArg (_ + · ::ₘ _) hid
    · intro x hx e he
      rw [Multiset.coe_nil, add_zero] at hx
      rcases Multiset.mem_cons.mp hx with rfl | hx
      · exact h.pending g (Multiset.mem_cons_self _ _) e (hadds e he)
      · exact h.pending x (Multiset.mem_cons_of_mem hx) e he
  exited := by
    intro s g rest log s' h hstep
    have hkeeps := handlerStep_keeps s g.task
    rw [hstep] at hkeeps
    obtain ⟨res, hwritten, hres, hgroups, husers⟩ := hkeeps
    refine ⟨hwritten ▸ answered_write requests h.answered hres, hgroups.trans h.groups, ?_,
      fun x hx => h.pending x (Multiset.mem_cons_of_mem hx)⟩
    intro e he
    rcases husers e he with he | he
    · exact h.users e he
    · exact .inr (h.pending g (Multiset.mem_cons_self _ _) e he)
  recovered := by
    intro s g rest log s' message h hstep _
    have hkeeps := handlerStep_keeps s g.task
    rw [hstep] at hkeeps
    obtain ⟨res, hwritten, hres, hdir⟩ := hkeeps
    exact ⟨hwritten ▸ answered_write requests h.answered hres, hdir ▸ h.groups, hdir ▸ h.users,
      fun x hx => h.pending x (Multiset.mem_cons_of_mem hx)⟩

/-- Whatever the interleaving of the add and delete handlers, each request is
answered exactly once: the message IDs of the responses written so far and of
the requests whose handlers still run are the requests' message IDs, each as
often as it was sent. -/
theorem directory_answers_each_request_once {s : Store} {gs : List (Goroutine Handler Unit)} {log : List Unit}
    (hr : Process.Reachable handlerStep (directoryStart d requests) (.running s gs log)) :
    (s.written.map (·.base.messageID) ++ gs.map (·.task.messageID)).Perm (requests.map Handler.messageID) := by
  have hinv : DirectoryInv d requests s ↑gs :=
    (directoryInv_local d requests).reachable (directoryInv_start d requests) hr
  have hanswered := hinv.answered
  rw [Multiset.map_coe, Multiset.coe_add, Multiset.coe_eq_coe] at hanswered
  exact hanswered

/-- The two adds of cn=alice that race: both are answered, once each. -/
theorem racing_adds_answered_once :
    ([(⟨⟨1, 0, lit "Unused", lit "Unused"⟩, .ofNat ApplicationAddResponse⟩ : GeneralResponse),
        ⟨⟨2, 0, lit "Unused", lit "Unused"⟩, .ofNat ApplicationAddResponse⟩].map (·.base.messageID) ++
      ([] : List (Goroutine Handler Unit)).map (·.task.messageID)).Perm
      ([Handler.add ⟨1, 1, .add ⟨1, lit "cn=alice", [], []⟩, addRouteOperation, []⟩,
        .add ⟨2, 1, .add ⟨2, lit "cn=alice", [], []⟩, addRouteOperation, []⟩].map Handler.messageID) := by
  -- both lookups, then both appends
  have hrun : (directoryStart ⟨[], []⟩
        [.add ⟨1, 1, .add ⟨1, lit "cn=alice", [], []⟩, addRouteOperation, []⟩,
          .add ⟨2, 1, .add ⟨2, lit "cn=alice", [], []⟩, addRouteOperation, []⟩]).run handlerStep
        [0, 1, 0, 0] =
      some (.running ⟨⟨[⟨lit "cn=alice", []⟩, ⟨lit "cn=alice", []⟩], []⟩,
        [⟨⟨1, 0, lit "Unused", lit "Unused"⟩, .ofNat ApplicationAddResponse⟩,
          ⟨⟨2, 0, lit "Unused", lit "Unused"⟩, .ofNat ApplicationAddResponse⟩]⟩ [] []) := by
    decide +kernel
  exact directory_answers_each_request_once _ _ (Process.reachable_of_run handlerStep hrun)

/-- Whatever the interleaving, the groups are the initial groups with some
removed, and every user is an initial user or the entry an add request built. -/
theorem directory_entries_come_from_requests {s : Store} {gs : List (Goroutine Handler Unit)} {log : List Unit}
    (hr : Process.Reachable handlerStep (directoryStart d requests) (.running s gs log)) :
    List.Sublist s.dir.groups d.groups ∧ ∀ e ∈ s.dir.users, e ∈ d.users ∨ ∃ h ∈ requests, h.Adds e := by
  have hinv : DirectoryInv d requests s ↑gs :=
    (directoryInv_local d requests).reachable (directoryInv_start d requests) hr
  exact ⟨hinv.groups, hinv.users⟩

/-- A delete of cn=bob that takes out cn=bobby: the groups stay, and the users
left are initial users. -/
theorem substring_delete_keeps_entries_from_requests :
    List.Sublist ([] : List Entry) [] ∧ ∀ e ∈ ([] : List Entry), e ∈ [(⟨lit "cn=bobby", []⟩ : Entry)] ∨
      ∃ h ∈ [Handler.delete ⟨1, 1, .delete ⟨1, lit "cn=bob", []⟩, deleteRouteOperation, []⟩], h.Adds e := by
  have hrun : (directoryStart ⟨[⟨lit "cn=bobby", []⟩], []⟩
        [.delete ⟨1, 1, .delete ⟨1, lit "cn=bob", []⟩, deleteRouteOperation, []⟩]).run handlerStep [0, 0] =
      some (.running ⟨⟨[], []⟩, [⟨⟨1, 0, lit "Unused", lit "Unused"⟩, .ofNat ApplicationDelResponse⟩]⟩
        [] []) := by
    decide +kernel
  exact directory_entries_come_from_requests _ _ (Process.reachable_of_run handlerStep hrun)

end Runs

end Gldap.TestDirectory
