/-!
# Runs of a total step function

A component whose operations are total (a refused call leaves the state as the
code leaves it) is a function `step : σ → ι → σ`. A run is a list of inputs.
`emit` names what each step records, so a history along a run is a function of
the run and cannot be chosen by a proof.

The rules are the two inductions everything else uses: what each step keeps, a
run keeps (`run_invariant`, and `run_invariant_along` when the steps are only
good under a condition), and a relation between the history and the state that
each step extends holds of every run (`emitted_invariant_along`).
-/

namespace Transitions

variable {σ ι ε : Type}

/-- The state after a list of inputs. -/
def run (step : σ → ι → σ) (s : σ) (is : List ι) : σ := is.foldl step s

@[simp] theorem run_nil (step : σ → ι → σ) (s : σ) : run step s [] = s := rfl

@[simp] theorem run_cons (step : σ → ι → σ) (s : σ) (i : ι) (is : List ι) :
    run step s (i :: is) = run step (step s i) is := rfl

theorem run_append (step : σ → ι → σ) (s : σ) (is js : List ι) :
    run step s (is ++ js) = run step (run step s is) js := List.foldl_append

/-- Every step of the run meets `P`, in the state it is taken from. -/
def Along (step : σ → ι → σ) (P : σ → ι → Prop) : σ → List ι → Prop
  | _, [] => True
  | s, i :: is => P s i ∧ Along step P (step s i) is

/-- What the run records, in order. -/
def emitted (step : σ → ι → σ) (emit : σ → ι → List ε) : σ → List ι → List ε
  | _, [] => []
  | s, i :: is => emit s i ++ emitted step emit (step s i) is

theorem emitted_append (step : σ → ι → σ) (emit : σ → ι → List ε) (is js : List ι) :
    ∀ s, emitted step emit s (is ++ js) =
      emitted step emit s is ++ emitted step emit (run step s is) js := by
  induction is with
  | nil => intro s; rfl
  | cons i is ih =>
    intro s
    rw [List.cons_append, emitted, emitted, ih, List.append_assoc, run_cons]

theorem along_of_forall {step : σ → ι → σ} {P : σ → ι → Prop} (h : ∀ s i, P s i) :
    ∀ (is : List ι) (s : σ), Along step P s is
  | [], _ => trivial
  | i :: is, s => ⟨h s i, along_of_forall h is (step s i)⟩

/-- What every good step keeps, a run of good steps keeps. -/
theorem run_invariant_along {step : σ → ι → σ} {P : σ → ι → Prop} {I : σ → Prop}
    (hstep : ∀ s i, I s → P s i → I (step s i)) :
    ∀ (is : List ι) {s : σ}, I s → Along step P s is → I (run step s is) := by
  intro is
  induction is with
  | nil => intro s hs _; exact hs
  | cons i is ih =>
    intro s hs hal
    exact ih (hstep s i hs hal.1) hal.2

/-- What every step keeps, a run keeps. -/
theorem run_invariant {step : σ → ι → σ} {I : σ → Prop} (hstep : ∀ s i, I s → I (step s i))
    (is : List ι) {s : σ} (hs : I s) : I (run step s is) :=
  run_invariant_along (P := fun _ _ => True) (fun s i h _ => hstep s i h) is hs
    (along_of_forall (fun _ _ => trivial) is s)

/-- A relation between the history so far and the state, extended by every good
step, holds after a run of good steps. -/
theorem emitted_invariant_along {step : σ → ι → σ} {emit : σ → ι → List ε}
    {P : σ → ι → Prop} {J : List ε → σ → Prop}
    (hstep : ∀ h s i, J h s → P s i → J (h ++ emit s i) (step s i)) :
    ∀ (is : List ι) {h : List ε} {s : σ}, J h s → Along step P s is →
      J (h ++ emitted step emit s is) (run step s is) := by
  intro is
  induction is with
  | nil =>
    intro h s hJ _
    rw [emitted, List.append_nil]
    exact hJ
  | cons i is ih =>
    intro h s hJ hal
    rw [emitted, ← List.append_assoc, run_cons]
    exact ih (hstep h s i hJ hal.1) hal.2

end Transitions
