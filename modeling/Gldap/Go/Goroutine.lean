import Mathlib.Logic.Relation

/-! Goroutines over shared state, and what a panic does to the process.

A process is a list of goroutines over one shared state. Any goroutine may
take the next step, so every interleaving is a run. A step of a goroutine
goes on (possibly starting new goroutines), ends it, or panics. A goroutine
that ends runs its deferred calls, whose observable effects are appended to
the process log. A panic unwinds only the goroutine that raised it: if one of
that goroutine's deferred calls recovers, the goroutine ends as if it had
returned; otherwise the whole process crashes, whatever the other goroutines
were doing.

The task type `τ` says what a goroutine has left to do, and `step` what one
step of it does; the module fixes neither.
-/

set_option autoImplicit false

namespace Go

/-- A goroutine: what it has left to run, whether a deferred call of it
recovers panics, and the effects of its deferred calls. -/
structure Goroutine (τ ε : Type) where
  task : τ
  recovers : Bool
  deferred : List ε
  deriving Repr, DecidableEq

/-- What one step of a goroutine does to the shared state and to itself. -/
inductive Effect (σ τ ε : Type) where
  | continue (shared : σ) (task : τ) (spawned : List (Goroutine τ ε))
  | exit (shared : σ)
  | panic (shared : σ) (message : String)
  deriving Repr

inductive Process (σ τ ε : Type) where
  | running (shared : σ) (goroutines : List (Goroutine τ ε)) (log : List ε)
  | crashed (message : String)
  deriving Repr, DecidableEq

namespace Process

variable {σ τ ε : Type} (step : σ → τ → Effect σ τ ε)

/-- Goroutine `i` takes one step; `none` when there is no such goroutine or
the process has crashed. -/
def stepAt : Process σ τ ε → Nat → Option (Process σ τ ε)
  | .crashed _, _ => none
  | .running shared gs log, i =>
    match gs[i]? with
    | none => none
    | some g =>
      match step shared g.task with
      | .continue shared' task spawned =>
        some (.running shared' (gs.set i { g with task := task } ++ spawned) log)
      | .exit shared' => some (.running shared' (gs.eraseIdx i) (log ++ g.deferred))
      | .panic shared' message =>
        -- an unrecovered panic ends the program
        if g.recovers then some (.running shared' (gs.eraseIdx i) (log ++ g.deferred))
        else some (.crashed message)

/-- Some goroutine takes one step. -/
def Step (p p' : Process σ τ ε) : Prop := ∃ i, p.stepAt step i = some p'

/-- The states a process can reach, under every interleaving. -/
def Reachable : Process σ τ ε → Process σ τ ε → Prop := Relation.ReflTransGen (Step step)

/-- The goroutines named in `schedule` take one step each, in order. -/
def run : Process σ τ ε → List Nat → Option (Process σ τ ε)
  | p, [] => some p
  | p, i :: schedule => (p.stepAt step i).bind (run · schedule)

theorem reachable_of_run {p q : Process σ τ ε} {schedule : List Nat}
    (h : p.run step schedule = some q) : Reachable step p q := by
  induction schedule generalizing p with
  | nil =>
    simp only [run, Option.some.injEq] at h
    subst h
    exact Relation.ReflTransGen.refl
  | cons i schedule ih =>
    simp only [run] at h
    cases hs : p.stepAt step i with
    | none => simp [hs] at h
    | some p' =>
      rw [hs, Option.bind_some] at h
      exact Relation.ReflTransGen.head ⟨i, hs⟩ (ih h)

/-- A schedule that ends in a state passing `test` shows such a state reachable. -/
theorem exists_reachable_of_run {p : Process σ τ ε} {schedule : List Nat}
    {test : Process σ τ ε → Bool} (h : (p.run step schedule).map test = some true) :
    ∃ q, Reachable step p q ∧ test q = true := by
  cases hr : p.run step schedule with
  | none => simp [hr] at h
  | some q =>
    simp only [hr, Option.map_some, Option.some.injEq] at h
    exact ⟨q, reachable_of_run step hr, h⟩

@[simp] theorem stepAt_crashed (message : String) (i : Nat) :
    (crashed message : Process σ τ ε).stepAt step i = none := rfl

/-- A crash is final. -/
theorem reachable_crashed {message : String} {q : Process σ τ ε}
    (h : Reachable step (crashed message) q) : q = crashed message := by
  induction h with
  | refl => rfl
  | tail _ hstep ih =>
    subst ih
    obtain ⟨i, hi⟩ := hstep
    simp at hi

variable {step}

/-- A goroutine without a recovering deferred call that panics crashes the
process, whatever the others do. -/
theorem stepAt_unrecovered_panic {shared shared' : σ} {gs : List (Goroutine τ ε)} {log : List ε}
    {i : Nat} {g : Goroutine τ ε} {message : String} (hg : gs[i]? = some g)
    (hpanic : step shared g.task = .panic shared' message) (hrecovers : g.recovers = false) :
    (running shared gs log).stepAt step i = some (crashed message) := by
  simp [stepAt, hg, hpanic, hrecovers]

/-- A recovered panic ends only the goroutine that raised it, after its
deferred calls. -/
theorem stepAt_recovered_panic {shared shared' : σ} {gs : List (Goroutine τ ε)} {log : List ε}
    {i : Nat} {g : Goroutine τ ε} {message : String} (hg : gs[i]? = some g)
    (hpanic : step shared g.task = .panic shared' message) (hrecovers : g.recovers = true) :
    (running shared gs log).stepAt step i = some (running shared' (gs.eraseIdx i) (log ++ g.deferred)) := by
  simp [stepAt, hg, hpanic, hrecovers]

end Process

end Go
