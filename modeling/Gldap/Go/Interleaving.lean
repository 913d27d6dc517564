import Gldap.Go.Goroutine
import Mathlib.Data.List.Perm.Basic
import Mathlib.Data.Multiset.AddSub

/-! What holds of a process under every interleaving.

An invariant of a process that does not depend on the order of its
goroutines is proved one goroutine step at a time: the goroutine that moves is
taken out of the others, which the step does not touch, and the invariant is
checked for the goroutine's continuation, its return (with its deferred calls
appended to the log) and its recovered panic. `LocalInvariant.reachable` then
gives it for every reachable state. A crash, for its part, always comes from
one goroutine with no recovering deferred call whose step panicked
(`exists_panic_of_reachable_crashed`).
-/

set_option autoImplicit false

namespace Go

namespace Process

variable {σ τ ε : Type} (step : σ → τ → Effect σ τ ε)

/-- What one goroutine's step keeps of an invariant of the shared state, the
goroutines in no order, and the log, whatever the other goroutines `rest`
are. An unrecovered panic crashes the process and owes nothing. -/
structure LocalInvariant (Inv : σ → Multiset (Goroutine τ ε) → List ε → Prop) : Prop where
  continued : ∀ {shared : σ} {g : Goroutine τ ε} {rest : Multiset (Goroutine τ ε)} {log : List ε}
    {shared' : σ} {task : τ} {spawned : List (Goroutine τ ε)},
    Inv shared (g ::ₘ rest) log → step shared g.task = .continue shared' task spawned →
      Inv shared' ({ g with task := task } ::ₘ rest + ↑spawned) log
  exited : ∀ {shared : σ} {g : Goroutine τ ε} {rest : Multiset (Goroutine τ ε)} {log : List ε} {shared' : σ},
    Inv shared (g ::ₘ rest) log → step shared g.task = .exit shared' → Inv shared' rest (log ++ g.deferred)
  recovered : ∀ {shared : σ} {g : Goroutine τ ε} {rest : Multiset (Goroutine τ ε)} {log : List ε}
    {shared' : σ} {message : String},
    Inv shared (g ::ₘ rest) log → step shared g.task = .panic shared' message → g.recovers = true →
      Inv shared' rest (log ++ g.deferred)

/-- The invariant of a running process; a crashed one has nothing left to keep. -/
def Holds (Inv : σ → Multiset (Goroutine τ ε) → List ε → Prop) : Process σ τ ε → Prop
  | .running shared gs log => Inv shared ↑gs log
  | .crashed _ => True

variable {step} {Inv : σ → Multiset (Goroutine τ ε) → List ε → Prop}

theorem LocalInvariant.stepAt (hinv : LocalInvariant step Inv) {p p' : Process σ τ ε} {i : Nat}
    (hp : Holds Inv p) (hstep : p.stepAt step i = some p') : Holds Inv p' := by
  cases p with
  | crashed message => simp at hstep
  | running shared gs log =>
    simp only [Process.stepAt] at hstep
    cases hg : gs[i]? with
    | none => simp [hg] at hstep
    | some g =>
      obtain ⟨hi, rfl⟩ := List.getElem?_eq_some_iff.mp hg
      -- the goroutine that moves, taken out of the others
      have hsplit : (↑gs : Multiset (Goroutine τ ε)) = gs[i] ::ₘ ↑(gs.eraseIdx i) := by
        rw [Multiset.cons_coe, Multiset.coe_eq_coe]
        exact (List.getElem_cons_eraseIdx_perm hi).symm
      simp only [Holds, hsplit] at hp
      simp only [hg] at hstep
      split at hstep
      · case h_1 shared' task spawned hcontinue =>
        cases hstep
        have hset : (↑(gs.set i { gs[i] with task := task } ++ spawned) : Multiset (Goroutine τ ε)) =
            { gs[i] with task := task } ::ₘ (↑(gs.eraseIdx i) : Multiset (Goroutine τ ε)) +
              (↑spawned : Multiset (Goroutine τ ε)) := by
          rw [← Multiset.coe_add, Multiset.cons_coe, Multiset.coe_eq_coe.mpr (List.set_perm_cons_eraseIdx hi _)]
        simp only [Holds, hset]
        exact hinv.continued hp hcontinue
      · case h_2 shared' hexit =>
        cases hstep
        exact hinv.exited hp hexit
      · case h_3 shared' message hpanic =>
        split at hstep
        · case isTrue hrecovers =>
          cases hstep
          exact hinv.recovered hp hpanic hrecovers
        · case isFalse => cases hstep; trivial

/-- An invariant that every goroutine step keeps holds in every state that
any interleaving reaches. -/
theorem LocalInvariant.reachable (hinv : LocalInvariant step Inv) {p q : Process σ τ ε}
    (hp : Holds Inv p) (hr : Reachable step p q) : Holds Inv q := by
  induction hr with
  | refl => exact hp
  | tail _ hstep ih =>
    obtain ⟨i, hi⟩ := hstep
    exact hinv.stepAt ih hi

/-- A step that crashes the process: goroutine `i` panicked and nothing of it
recovers. -/
theorem stepAt_eq_crashed {shared : σ} {gs : List (Goroutine τ ε)} {log : List ε} {i : Nat}
    {message : String} (h : (running shared gs log).stepAt step i = some (crashed message)) :
    ∃ g shared', gs[i]? = some g ∧ g.recovers = false ∧ step shared g.task = .panic shared' message := by
  simp only [Process.stepAt] at h
  cases hg : gs[i]? with
  | none => simp [hg] at h
  | some g =>
    simp only [hg] at h
    split at h
    · simp at h
    · simp at h
    · case h_3 shared' message' hpanic =>
      split at h
      · simp at h
      · case isFalse hrecovers =>
        cases h
        exact ⟨g, shared', rfl, by simpa using hrecovers, hpanic⟩

/-- A process that starts running and crashes does so at a goroutine of some
reachable state that recovers nothing and whose step panicked with the crash's
message. -/
theorem exists_panic_of_reachable_crashed {shared : σ} {gs : List (Goroutine τ ε)} {log : List ε}
    {message : String} (hr : Reachable step (running shared gs log) (crashed message)) :
    ∃ shared' gs' log', Reachable step (running shared gs log) (running shared' gs' log') ∧
      ∃ g ∈ gs', g.recovers = false ∧ ∃ shared'', step shared' g.task = .panic shared'' message := by
  obtain ⟨p, hreach, i, hstep⟩ := Relation.ReflTransGen.cases_tail hr |>.resolve_left (by simp)
  cases p with
  | crashed m => simp at hstep
  | running shared' gs' log' =>
    obtain ⟨g, shared'', hg, hrecovers, hpanic⟩ := stepAt_eq_crashed hstep
    exact ⟨shared', gs', log', hreach, g, List.mem_of_getElem? hg, hrecovers, shared'', hpanic⟩

end Process

end Go
