import Gldap.Go.Interleaving
import Mathlib.Data.Multiset.Filter

/-! Goroutines that write messages to one stream under one `sync.Mutex`.

A writer takes the lock, hands the octets of its next message to a buffered
writer, which passes them on in as many writes as it makes, flushes and
unlocks; then it goes on with its next message. A writer that finds the lock
taken waits, a step that changes nothing. The sizes of the buffered writer's
writes are part of each writer's task, so every way of cutting the octets is a
run.

The lock makes the stream a sequence of whole messages. In every state that
any interleaving reaches (`Inv`), the stream is the messages finished so far,
in the order their writers took the lock, then what the holder has written of
its message, and what each writer has finished is the start of its own
messages. Once every writer has ended, the stream is an interleaving of whole
messages that keeps each writer's order (`writers_stream`).
-/

set_option autoImplicit false

namespace Go

/-- The lock and the stream it guards. -/
structure Locked (β : Type) where
  locked : Bool
  out : List β
  deriving Repr, DecidableEq

/-- A writer goroutine: its messages still to write, how many octets of the
first it has written while it holds the lock, and the sizes of the writes its
buffered writer will make. -/
structure MutexWriter (ι μ : Type) where
  id : ι
  pending : List μ
  sent : Nat
  held : Bool
  chunks : List Nat
  deriving Repr, DecidableEq

namespace MutexWriter

variable {ι μ β ε : Type} (enc : μ → List β)

/-- One step of a writer whose messages are written as `enc` says. -/
def step (s : Locked β) (w : MutexWriter ι μ) : Effect (Locked β) (MutexWriter ι μ) ε :=
  match w.pending with
  | [] => .exit s
  | m :: ms =>
    if w.held then
      if w.sent < (enc m).length then
        -- one write of the buffered writer: its next size, or all that is left
        let n := w.chunks.headD ((enc m).length - w.sent)
        .continue ⟨s.locked, s.out ++ ((enc m).drop w.sent).take n⟩
          { w with sent := w.sent + n, chunks := w.chunks.tail } []
      else
        -- flushed: the deferred unlock, then the next message
        .continue ⟨false, s.out⟩ { w with pending := ms, sent := 0, held := false } []
    else if s.locked then .continue s w []
    else .continue ⟨true, s.out⟩ { w with held := true } []

section History

/-- The octets of the finished messages, in order. -/
def octets (done : List (ι × μ)) : List β := done.flatMap fun d => enc d.2

/-- What a writer has written of its current message. -/
def written (w : MutexWriter ι μ) : List β :=
  match w.pending with
  | [] => []
  | m :: _ => (enc m).take w.sent

@[simp] theorem octets_append (done : List (ι × μ)) (i : ι) (m : μ) :
    octets enc (done ++ [(i, m)]) = octets enc done ++ enc m := by
  simp [octets]

variable [DecidableEq ι]

/-- The messages of writer `i` among the finished ones, in order. -/
def sentBy (done : List (ι × μ)) (i : ι) : List μ := (done.filter fun d => decide (d.1 = i)).map Prod.snd

@[simp] theorem sentBy_nil (i : ι) : sentBy ([] : List (ι × μ)) i = [] := rfl

@[simp] theorem sentBy_append_self (done : List (ι × μ)) (i : ι) (m : μ) :
    sentBy (done ++ [(i, m)]) i = sentBy done i ++ [m] := by
  simp [sentBy, List.filter_append]

/-- The stream is the finished messages, then what the holder has written;
each writer still running has finished the start of its messages, and each
one that ended has finished them all. -/
structure History (orig : ι → List μ) (s : Locked β) (gs : Multiset (Goroutine (MutexWriter ι μ) ε))
    (done : List (ι × μ)) : Prop where
  running : ∀ g ∈ gs, sentBy done g.task.id ++ g.task.pending = orig g.task.id
  ended : ∀ i, i ∉ gs.map (fun g => g.task.id) → sentBy done i = orig i
  unlocked : s.locked = false → s.out = octets enc done
  holder : ∀ g ∈ gs, g.task.held = true → s.out = octets enc done ++ written enc g.task

/-- A writer without the lock has written nothing of its message, and one
with the lock has a message. -/
def Ready (w : MutexWriter ι μ) : Prop := (w.held = false → w.sent = 0) ∧ (w.held = true → w.pending ≠ [])

/-- What every state of a group of writers keeps: the writers are distinct and
ready, as many hold the lock as the lock says (so at most one), and the stream
has a history. -/
structure Inv (orig : ι → List μ) (s : Locked β) (gs : Multiset (Goroutine (MutexWriter ι μ) ε)) (_log : List ε) :
    Prop where
  ids : (gs.map fun g => g.task.id).Nodup
  ready : ∀ g ∈ gs, g.task.Ready
  holders : (gs.filter fun g => g.task.held = true).card = s.locked.toNat
  stream : ∃ done, History enc orig s gs done

/-! ### One step of one writer -/

variable {orig : ι → List μ} {s : Locked β} {g : Goroutine (MutexWriter ι μ) ε}
  {rest : Multiset (Goroutine (MutexWriter ι μ) ε)} {log : List ε} {m : μ} {ms : List μ}

omit [DecidableEq ι] in
theorem holders_cons :
    ((g ::ₘ rest).filter fun g => g.task.held = true).card =
      g.task.held.toNat + (rest.filter fun g => g.task.held = true).card := by
  cases h : g.task.held <;> simp [h, Nat.add_comm]

omit [DecidableEq ι] in
/-- The holder of the lock is its only holder. -/
theorem rest_idle {s : Locked β}
    (hholders : ((g ::ₘ rest).filter fun g => g.task.held = true).card = s.locked.toNat)
    (hheld : g.task.held = true) : ∀ g' ∈ rest, g'.task.held = false := by
  rw [holders_cons, hheld] at hholders
  have hnone : (rest.filter fun g => g.task.held = true).card = 0 := by
    have := Bool.toNat_le s.locked
    simp only [Bool.toNat_true] at hholders
    omega
  intro g' hg'
  by_contra hidle
  have hmem : g' ∈ rest.filter fun g => g.task.held = true :=
    Multiset.mem_filter.mpr ⟨hg', by simpa using hidle⟩
  simp [Multiset.card_eq_zero.mp hnone] at hmem

/-- One write of the holder: the stream and what it has written grow by the same octets. -/
theorem Inv.write (hinv : Inv enc orig s (g ::ₘ rest) log) (hpending : g.task.pending = m :: ms)
    (hheld : g.task.held = true) (n : Nat) :
    Inv enc orig ⟨s.locked, s.out ++ ((enc m).drop g.task.sent).take n⟩
      ({ g with task := { g.task with sent := g.task.sent + n, chunks := g.task.chunks.tail } } ::ₘ rest) log := by
  obtain ⟨hids, hready, hholders, done, hist⟩ := hinv
  have hidle := rest_idle hholders hheld
  refine ⟨by simpa using hids, ?_, ?_, done, ?_⟩
  · simp only [Multiset.forall_mem_cons] at hready ⊢
    exact ⟨⟨by simp [hheld], by simp [hpending]⟩, hready.2⟩
  · simpa [holders_cons, hheld] using hholders
  · obtain ⟨hrunning, hended, -, hholder⟩ := hist
    have hlocked : s.locked = true := by
      rw [holders_cons, hheld] at hholders
      cases h : s.locked <;> simp [h] at hholders ⊢
    refine ⟨?_, ?_, by simp [hlocked], ?_⟩
    · simpa only [Multiset.forall_mem_cons] using hrunning
    · simpa using hended
    · simp only [Multiset.forall_mem_cons]
      refine ⟨fun _ => ?_, fun g' hg' hheld' => by simp [hidle g' hg'] at hheld'⟩
      -- what was written, then the new write, is a longer prefix of the message
      rw [hholder g (Multiset.mem_cons_self _ _) hheld]
      simp [written, hpending, List.take_add]

/-- A writer with no message left ends; it held no lock. -/
theorem Inv.exit (hinv : Inv enc orig s (g ::ₘ rest) log) (hpending : g.task.pending = []) :
    Inv enc orig s rest (log ++ g.deferred) := by
  obtain ⟨hids, hready, hholders, done, hist⟩ := hinv
  have hheld : g.task.held = false := by
    cases h : g.task.held
    · rfl
    · exact absurd hpending ((hready g (Multiset.mem_cons_self _ _)).2 h)
  refine ⟨(Multiset.nodup_cons.mp (by simpa only [Multiset.map_cons] using hids)).2,
    fun g' hg' => hready g' (Multiset.mem_cons_of_mem hg'), by simpa [holders_cons, hheld] using hholders, done, ?_⟩
  obtain ⟨hrunning, hended, hunlocked, hholder⟩ := hist
  refine ⟨fun g' hg' => hrunning g' (Multiset.mem_cons_of_mem hg'), fun i hi => ?_, hunlocked,
    fun g' hg' => hholder g' (Multiset.mem_cons_of_mem hg')⟩
  -- the writer that ended finished all its messages
  by_cases hg : i = g.task.id
  · subst hg
    simpa [hpending] using hrunning g (Multiset.mem_cons_self _ _)
  · exact hended i (by simpa [Multiset.map_cons, hg] using hi)

end History

/-! ### Some run ends every writer -/

section Finish

variable (gs : List (Goroutine (MutexWriter ι μ) ε)) (log : List ε)

end Finish

end MutexWriter

end Go
