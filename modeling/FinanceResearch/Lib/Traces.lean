import FinanceResearch.Lib.Programs

/-!
# Traces of a program

What a program does, whatever it is answered: `Plays` relates it to the calls that it can make,
each with its answer, and to how it ends. It goes through sequencing (`plays_bind`) and through
a handler (`plays_attempt`), so that what holds of every trace of a loop is proved turn by turn.
Against a component that answers as `exec` says there is one trace, the transcript
(`plays_transcript`). `Only` bounds the calls of a program without looking at its traces.
-/

namespace Program

variable {Op : Type} {Ans : Op → Type} {ε δ α β σ : Type}

/-- A call and its answer. -/
structure Call (Op : Type) (Ans : Op → Type) where
  op : Op
  answer : Ans op

/-- The program can make these calls, is answered so, and ends so. -/
def Plays : Program Op Ans ε α → List (Call Op Ans) → Except ε α → Prop
  | done a, trace, out => trace = [] ∧ out = .ok a
  | fail e, trace, out => trace = [] ∧ out = .error e
  | call op next, trace, out => ∃ answer rest, trace = ⟨op, answer⟩ :: rest ∧
      (next answer).Plays rest out

/-- Raise another error. -/
def mapError (f : ε → δ) : Program Op Ans ε α → Program Op Ans δ α
  | done a => done a
  | fail e => fail (f e)
  | call op next => call op fun answer => (next answer).mapError f

/-- What a program returns or raises. -/
def attempt : Program Op Ans ε α → Program Op Ans δ (Except ε α)
  | done a => done (.ok a)
  | fail e => done (.error e)
  | call op next => call op fun answer => (next answer).attempt

variable {p : Program Op Ans ε α} {trace : List (Call Op Ans)}

theorem plays_done {a : α} {out : Except ε α} :
    (done a : Program Op Ans ε α).Plays trace out ↔ trace = [] ∧ out = .ok a := Iff.rfl

theorem plays_fail {e : ε} {out : Except ε α} :
    (fail e : Program Op Ans ε α).Plays trace out ↔ trace = [] ∧ out = .error e := Iff.rfl

theorem plays_perform {op : Op} {out : Except ε (Ans op)} :
    (perform op : Program Op Ans ε (Ans op)).Plays trace out ↔
      ∃ answer, trace = [⟨op, answer⟩] ∧ out = .ok answer := by
  constructor
  · intro h
    obtain ⟨answer, rest, rfl, rfl, hout⟩ := h
    exact ⟨answer, rfl, hout⟩
  · intro h
    obtain ⟨answer, rfl, hout⟩ := h
    exact ⟨answer, [], rfl, rfl, hout⟩

theorem plays_require {condition : Prop} [Decidable condition] {error : ε} {out : Except ε Unit} :
    (require condition error : Program Op Ans ε Unit).Plays trace out ↔
      trace = [] ∧ (condition ∧ out = .ok () ∨ ¬condition ∧ out = .error error) := by
  unfold require
  by_cases h : condition
  · rw [if_pos h, plays_done]
    simp only [h, true_and, not_true_eq_false, false_and, or_false]
  · rw [if_neg h, plays_fail]
    simp only [h, false_and, not_false_eq_true, true_and, false_or]

theorem plays_ofExcept {raised : δ → ε} {value : Except δ α} {out : Except ε α} :
    (ofExcept raised value : Program Op Ans ε α).Plays trace out ↔
      trace = [] ∧ out = value.mapError raised := by
  cases value with
  | ok a => exact Iff.rfl
  | error e => exact Iff.rfl

/-- **A sequence plays its first part, and goes on with the second when that returns.** -/
theorem plays_bind {f : α → Program Op Ans ε β} {out : Except ε β} :
    (p.bind f).Plays trace out ↔
      (∃ e, p.Plays trace (.error e) ∧ out = .error e) ∨
      ∃ a before after, trace = before ++ after ∧ p.Plays before (.ok a) ∧
        (f a).Plays after out := by
  induction p generalizing trace with
  | done a =>
    constructor
    · intro h
      exact Or.inr ⟨a, [], trace, rfl, ⟨rfl, rfl⟩, h⟩
    · intro h
      rcases h with ⟨e, ⟨-, he⟩, -⟩ | ⟨b, before, after, rfl, ⟨rfl, hb⟩, h⟩
      · cases he
      · cases hb
        exact h
  | fail e =>
    constructor
    · intro h
      exact Or.inl ⟨e, ⟨h.1, rfl⟩, h.2⟩
    · intro h
      rcases h with ⟨e', ⟨htrace, he⟩, hout⟩ | ⟨b, before, after, -, ⟨-, hb⟩, -⟩
      · cases he
        exact ⟨htrace, hout⟩
      · cases hb
  | call op next ih =>
    constructor
    · intro h
      obtain ⟨answer, rest, rfl, h⟩ := h
      rcases (ih answer).mp h with ⟨e, hfirst, hout⟩ | ⟨a, before, after, rfl, hfirst, hsecond⟩
      · exact Or.inl ⟨e, ⟨answer, rest, rfl, hfirst⟩, hout⟩
      · exact Or.inr ⟨a, ⟨op, answer⟩ :: before, after, rfl, ⟨answer, before, rfl, hfirst⟩, hsecond⟩
    · intro h
      rcases h with ⟨e, ⟨answer, rest, rfl, hfirst⟩, hout⟩ |
        ⟨a, before, after, rfl, ⟨answer, rest, rfl, hfirst⟩, hsecond⟩
      · exact ⟨answer, rest, rfl, (ih answer).mpr (Or.inl ⟨e, hfirst, hout⟩)⟩
      · exact ⟨answer, rest ++ after, rfl,
          (ih answer).mpr (Or.inr ⟨a, rest, after, rfl, hfirst, hsecond⟩)⟩

theorem plays_bind_ok {f : α → Program Op Ans ε β} {b : β} (h : (p.bind f).Plays trace (.ok b)) :
    ∃ a before after, trace = before ++ after ∧ p.Plays before (.ok a) ∧
      (f a).Plays after (.ok b) := by
  rcases plays_bind.mp h with ⟨e, -, hout⟩ | hboth
  · cases hout
  · exact hboth

theorem plays_require_ok {condition : Prop} [Decidable condition] {error : ε} {a : Unit}
    (h : (require condition error : Program Op Ans ε Unit).Plays trace (.ok a)) :
    trace = [] ∧ condition := by
  obtain ⟨htrace, ⟨hcondition, -⟩ | ⟨-, hout⟩⟩ := plays_require.mp h
  · exact ⟨htrace, hcondition⟩
  · cases hout

theorem plays_ofExcept_ok {raised : δ → ε} {value : Except δ α} {a : α}
    (h : (ofExcept raised value : Program Op Ans ε α).Plays trace (.ok a)) :
    trace = [] ∧ value = .ok a := by
  cases value with
  | ok a' =>
    cases h.2
    exact ⟨h.1, rfl⟩
  | error e => cases h.2

theorem plays_mapError {f : ε → δ} {out : Except δ α} :
    (p.mapError f).Plays trace out ↔ ∃ before, p.Plays trace before ∧ out = before.mapError f := by
  induction p generalizing trace with
  | done a =>
    constructor
    · intro h
      exact ⟨.ok a, ⟨h.1, rfl⟩, h.2⟩
    · intro h
      obtain ⟨before, ⟨htrace, rfl⟩, hout⟩ := h
      exact ⟨htrace, hout⟩
  | fail e =>
    constructor
    · intro h
      exact ⟨.error e, ⟨h.1, rfl⟩, h.2⟩
    · intro h
      obtain ⟨before, ⟨htrace, rfl⟩, hout⟩ := h
      exact ⟨htrace, hout⟩
  | call op next ih =>
    constructor
    · intro h
      obtain ⟨answer, rest, rfl, h⟩ := h
      obtain ⟨before, hbefore, hout⟩ := (ih answer).mp h
      exact ⟨before, ⟨answer, rest, rfl, hbefore⟩, hout⟩
    · intro h
      obtain ⟨before, ⟨answer, rest, rfl, hbefore⟩, hout⟩ := h
      exact ⟨answer, rest, rfl, (ih answer).mpr ⟨before, hbefore, hout⟩⟩

theorem plays_attempt {out : Except δ (Except ε α)} :
    (p.attempt : Program Op Ans δ (Except ε α)).Plays trace out ↔
      ∃ result, p.Plays trace result ∧ out = .ok result := by
  induction p generalizing trace with
  | done a =>
    constructor
    · intro h
      exact ⟨.ok a, ⟨h.1, rfl⟩, h.2⟩
    · intro h
      obtain ⟨result, ⟨htrace, rfl⟩, hout⟩ := h
      exact ⟨htrace, hout⟩
  | fail e =>
    constructor
    · intro h
      exact ⟨.error e, ⟨h.1, rfl⟩, h.2⟩
    · intro h
      obtain ⟨result, ⟨htrace, rfl⟩, hout⟩ := h
      exact ⟨htrace, hout⟩
  | call op next ih =>
    constructor
    · intro h
      obtain ⟨answer, rest, rfl, h⟩ := h
      obtain ⟨result, hresult, hout⟩ := (ih answer).mp h
      exact ⟨result, ⟨answer, rest, rfl, hresult⟩, hout⟩
    · intro h
      obtain ⟨result, ⟨answer, rest, rfl, hresult⟩, hout⟩ := h
      exact ⟨answer, rest, rfl, (ih answer).mpr ⟨result, hresult, hout⟩⟩

/-! ## The calls of a program -/

/-- The program makes only calls that satisfy `P`. -/
def Only (P : Op → Prop) : Program Op Ans ε α → Prop
  | done _ => True
  | fail _ => True
  | call op next => P op ∧ ∀ answer, (next answer).Only P

variable {P : Op → Prop}

theorem Only.plays (h : p.Only P) {out : Except ε α} (hplays : p.Plays trace out) :
    ∀ c ∈ trace, P c.op := by
  induction p generalizing trace with
  | done a =>
    rw [hplays.1]
    exact fun c hc => absurd hc List.not_mem_nil
  | fail e =>
    rw [hplays.1]
    exact fun c hc => absurd hc List.not_mem_nil
  | call op next ih =>
    obtain ⟨answer, rest, rfl, hrest⟩ := hplays
    intro c hc
    rcases List.mem_cons.mp hc with rfl | hc
    · exact h.1
    · exact ih answer (h.2 answer) hrest c hc

theorem Only.mono {Q : Op → Prop} (h : p.Only P) (hPQ : ∀ op, P op → Q op) : p.Only Q := by
  induction p with
  | done a => trivial
  | fail e => trivial
  | call op next ih => exact ⟨hPQ op h.1, fun answer => ih answer (h.2 answer)⟩

theorem only_bind {f : α → Program Op Ans ε β} (h : p.Only P) (hf : ∀ a, (f a).Only P) :
    (p.bind f).Only P := by
  induction p with
  | done a => exact hf a
  | fail e => trivial
  | call op next ih => exact ⟨h.1, fun answer => ih answer (h.2 answer)⟩

theorem only_perform {op : Op} (h : P op) :
    (perform op : Program Op Ans ε (Ans op)).Only P := ⟨h, fun _ => trivial⟩

theorem only_require {condition : Prop} [Decidable condition] {error : ε} :
    (require condition error : Program Op Ans ε Unit).Only P := by
  unfold require
  by_cases h : condition
  · rw [if_pos h]
    trivial
  · rw [if_neg h]
    trivial

theorem only_ofExcept {raised : δ → ε} {value : Except δ α} :
    (ofExcept raised value : Program Op Ans ε α).Only P := by
  cases value with
  | ok a => trivial
  | error e => trivial

/-! ## Transcripts -/

variable (exec : σ → (op : Op) → σ × Ans op)

/-- The calls of a run without interruption. -/
def transcript : Program Op Ans ε α → σ → List (Call Op Ans)
  | done _, _ => []
  | fail _, _ => []
  | call op next, s => ⟨op, (exec s op).2⟩ :: (next (exec s op).2).transcript (exec s op).1

theorem plays_transcript (p : Program Op Ans ε α) :
    ∀ s, p.Plays (p.transcript exec s) (p.run exec s).2 := by
  induction p with
  | done a => exact fun _ => ⟨rfl, rfl⟩
  | fail e => exact fun _ => ⟨rfl, rfl⟩
  | call op next ih => exact fun s => ⟨_, _, rfl, ih _ _⟩

end Program
