import FinanceResearch.Lib.Transitions

/-!
# Programs over a shared component

A sequential program that talks to a component is a tree of calls: at each node the
operation it calls, and the program that goes on with the answer. Its steps are the
calls, so an interleaving of several programs is a list of events that says whose turn
it is (`Pool.step`), and a program that is killed is one that gets no further turn.

`Follows` is the rule for reasoning about one program among others: whatever the
others did since its last call (`rely`), its next call keeps the shared invariant and
does to the state only what it owes the others (`guarantee`), and when it ends its
result is as promised. It goes through sequencing (`follows_bind`), and
`Pool.run_follows` says that when every program follows, every interleaving keeps the
invariant and every program in it still follows. A program that has the component for
itself runs as `run` says, and `Pool.advance_alone` finds that run among the
interleavings.
-/

/-- A program that calls operations and ends with a value or an error. -/
inductive Program (Op : Type) (Ans : Op → Type) (ε α : Type) where
  | done (value : α)
  | fail (error : ε)
  | call (op : Op) (next : Ans op → Program Op Ans ε α)

namespace Program

variable {Op : Type} {Ans : Op → Type} {ε α β σ ν : Type}

/-- One program after the other. -/
def bind : Program Op Ans ε α → (α → Program Op Ans ε β) → Program Op Ans ε β
  | done a, f => f a
  | fail e, _ => fail e
  | call op next, f => call op fun answer => (next answer).bind f

instance instMonadProgram : Monad (Program Op Ans ε) where
  pure := done
  bind := bind

/-- The program of one call. -/
def perform (op : Op) : Program Op Ans ε (Ans op) := call op done

/-- Go on only if the condition holds. -/
def require (p : Prop) [Decidable p] (error : ε) : Program Op Ans ε Unit :=
  if p then done () else fail error

/-- Go on with the value, or raise. -/
def ofOption (error : ε) : Option α → Program Op Ans ε α
  | some a => done a
  | none => fail error

/-- Go on with the result, or raise what was raised. -/
def ofExcept {δ : Type} (raised : δ → ε) : Except δ α → Program Op Ans ε α
  | .ok a => done a
  | .error e => fail (raised e)

@[simp] theorem pure_eq (a : α) : (pure a : Program Op Ans ε α) = done a := rfl

@[simp] theorem bind_eq (p : Program Op Ans ε α) (f : α → Program Op Ans ε β) :
    (p >>= f) = p.bind f := rfl

@[simp] theorem bind_done (a : α) (f : α → Program Op Ans ε β) : (done a).bind f = f a := rfl

@[simp] theorem bind_fail (e : ε) (f : α → Program Op Ans ε β) :
    (fail e : Program Op Ans ε α).bind f = fail e := rfl

/-! ## Running alone -/

variable (exec : σ → (op : Op) → σ × Ans op)

/-- A run without interruption. -/
def run : Program Op Ans ε α → σ → σ × Except ε α
  | done a, s => (s, .ok a)
  | fail e, s => (s, .error e)
  | call op next, s => (next (exec s op).2).run (exec s op).1

variable {exec}

@[simp] theorem run_done (a : α) (s : σ) :
    (done a : Program Op Ans ε α).run exec s = (s, .ok a) := rfl

@[simp] theorem run_fail (e : ε) (s : σ) :
    (fail e : Program Op Ans ε α).run exec s = (s, .error e) := rfl

theorem run_bind_ok {f : α → Program Op Ans ε β} :
    ∀ {p : Program Op Ans ε α} {s t : σ} {a : α}, p.run exec s = (t, .ok a) →
      (p.bind f).run exec s = (f a).run exec t := by
  intro p
  induction p with
  | done b =>
    intro s t a h
    cases h
    rfl
  | fail e =>
    intro s t a h
    cases h
  | call op next ih =>
    intro s t a h
    exact ih _ h

theorem run_bind_error {f : α → Program Op Ans ε β} :
    ∀ {p : Program Op Ans ε α} {s t : σ} {e : ε}, p.run exec s = (t, .error e) →
      (p.bind f).run exec s = (t, .error e) := by
  intro p
  induction p with
  | done b =>
    intro s t e h
    cases h
  | fail e' =>
    intro s t e h
    cases h
    rfl
  | call op next ih =>
    intro s t e h
    exact ih _ h

variable (exec)

/-! ## Following the rules -/

/-- What the programs of one component owe each other. -/
structure Rules (σ Op : Type) where
  /-- what every state in between satisfies -/
  inv : σ → Prop
  /-- what the others may do between two calls of a program -/
  rely : σ → σ → Prop
  /-- what a call may do to the others -/
  guarantee : σ → σ → Prop
  /-- the calls considered -/
  admits : σ → Op → Prop
  refl : ∀ s, rely s s
  trans : ∀ s t w, rely s t → rely t w → rely s w
  owed : ∀ s t, guarantee s t → rely s t

variable (note : σ → Op → List ν) (rules : Rules σ Op)

/-- The program, last active in the state `s` with these notes, keeps to the rules and ends
as `ends` says. -/
def Follows (ends : List ν → σ → Except ε α → Prop) :
    Program Op Ans ε α → List ν → σ → Prop
  | done a, notes, s => ends notes s (.ok a)
  | fail e, notes, s => ends notes s (.error e)
  | call op next, notes, s => ∀ t, rules.rely s t → rules.inv t → rules.admits t op →
      rules.inv (exec t op).1 ∧ rules.guarantee t (exec t op).1 ∧
      Follows ends (next (exec t op).2) (notes ++ note t op) (exec t op).1

variable {exec note rules}

/-- What is promised of the end may be weakened. -/
theorem Follows.mono {ends ends' : List ν → σ → Except ε α → Prop}
    (hends : ∀ notes s out, ends notes s out → ends' notes s out) :
    ∀ {p : Program Op Ans ε α} {notes : List ν} {s : σ},
      Follows exec note rules ends p notes s → Follows exec note rules ends' p notes s := by
  intro p
  induction p with
  | done a => intro notes s h; exact hends _ _ _ h
  | fail e => intro notes s h; exact hends _ _ _ h
  | call op next ih =>
    intro notes s h t hrely hinv hadm
    obtain ⟨hkeep, howed, hrest⟩ := h t hrely hinv hadm
    exact ⟨hkeep, howed, ih _ hrest⟩

/-- A sequence follows when its first part ends where its second part can start. -/
theorem follows_bind {ends : List ν → σ → Except ε β → Prop} {f : α → Program Op Ans ε β} :
    ∀ {p : Program Op Ans ε α} {notes : List ν} {s : σ},
      Follows exec note rules (fun notes s out => match out with
        | .ok a => Follows exec note rules ends (f a) notes s
        | .error e => ends notes s (.error e)) p notes s →
      Follows exec note rules ends (p.bind f) notes s := by
  intro p
  induction p with
  | done a => intro notes s h; exact h
  | fail e => intro notes s h; exact h
  | call op next ih =>
    intro notes s h t hrely hinv hadm
    obtain ⟨hkeep, howed, hrest⟩ := h t hrely hinv hadm
    exact ⟨hkeep, howed, ih _ hrest⟩

/-! ## Learning -/

variable (exec note rules)

/-- The program notes nothing, and `Q` holds of the state it returns a value in and of the
value. -/
def Learns (p : Program Op Ans ε α) (s : σ) (Q : σ → α → Prop) : Prop :=
  rules.inv s → ∀ (ends : List ν → σ → Except ε α → Prop) (notes : List ν),
    (∀ t a, rules.rely s t → rules.inv t → Q t a → ends notes t (.ok a)) →
    (∀ t e, rules.rely s t → rules.inv t → ends notes t (.error e)) →
    Follows exec note rules ends p notes s

variable {exec note rules}

theorem learns_done {a : α} {s : σ} {Q : σ → α → Prop} (h : Q s a) :
    Learns exec note rules (done a : Program Op Ans ε α) s Q :=
  fun hinv _ _ hok _ => hok s a (rules.refl s) hinv h

theorem learns_fail {e : ε} {s : σ} {Q : σ → α → Prop} :
    Learns exec note rules (fail e : Program Op Ans ε α) s Q :=
  fun hinv _ _ _ herror => herror s e (rules.refl s) hinv

theorem learns_require {p : Prop} [Decidable p] {error : ε} {s : σ} :
    Learns exec note rules (require p error : Program Op Ans ε Unit) s fun t _ => t = s ∧ p := by
  unfold require
  by_cases hp : p
  · rw [if_pos hp]
    exact learns_done ⟨rfl, hp⟩
  · rw [if_neg hp]
    exact learns_fail

theorem learns_ofOption {error : ε} {value : Option α} {s : σ} :
    Learns exec note rules (ofOption error value : Program Op Ans ε α) s
      fun t a => t = s ∧ value = some a := by
  cases value with
  | none => exact learns_fail
  | some a => exact learns_done ⟨rfl, rfl⟩

theorem learns_ofExcept {δ : Type} {raised : δ → ε} {value : Except δ α} {s : σ} :
    Learns exec note rules (ofExcept raised value : Program Op Ans ε α) s
      fun t a => t = s ∧ value = .ok a := by
  cases value with
  | error e => exact learns_fail
  | ok a => exact learns_done ⟨rfl, rfl⟩

/-- A call that keeps the rules and notes nothing. -/
theorem learns_perform {s : σ} (op : Op) (Q : σ → Ans op → Prop)
    (h : ∀ t, rules.rely s t → rules.inv t → rules.admits t op →
      rules.inv (exec t op).1 ∧ rules.guarantee t (exec t op).1 ∧ note t op = [] ∧
      Q (exec t op).1 (exec t op).2) :
    Learns exec note rules (perform op : Program Op Ans ε (Ans op)) s Q := by
  intro hinv ends notes hok herror t hrely hinvt hadm
  obtain ⟨hkeep, howed, hnote, hQ⟩ := h t hrely hinvt hadm
  refine ⟨hkeep, howed, ?_⟩
  rw [hnote, List.append_nil]
  exact hok _ _ (rules.trans _ _ _ hrely (rules.owed _ _ howed)) hkeep hQ

theorem Learns.mono {p : Program Op Ans ε α} {s : σ} {Q R : σ → α → Prop}
    (h : Learns exec note rules p s Q)
    (hQ : ∀ t a, rules.rely s t → rules.inv t → Q t a → R t a) :
    Learns exec note rules p s R :=
  fun hinv ends notes hok herror => h hinv ends notes
    (fun t a hrely hinvt hq => hok t a hrely hinvt (hQ t a hrely hinvt hq)) herror

/-- A sequence whose first part learns follows when its second part does from there. -/
theorem Learns.follows_bind {p : Program Op Ans ε α} {s : σ} {Q : σ → α → Prop}
    {f : α → Program Op Ans ε β} {ends : List ν → σ → Except ε β → Prop} {notes : List ν}
    (h : Learns exec note rules p s Q) (hinv : rules.inv s)
    (hok : ∀ t a, rules.rely s t → rules.inv t → Q t a →
      Follows exec note rules ends (f a) notes t)
    (herror : ∀ t e, rules.rely s t → rules.inv t → ends notes t (.error e)) :
    Follows exec note rules ends (p.bind f) notes s :=
  Program.follows_bind (h hinv _ notes hok herror)

theorem Learns.bind {p : Program Op Ans ε α} {s : σ} {Q : σ → α → Prop}
    {f : α → Program Op Ans ε β} {R : σ → β → Prop} (h : Learns exec note rules p s Q)
    (hf : ∀ t a, rules.rely s t → rules.inv t → Q t a → Learns exec note rules (f a) t R) :
    Learns exec note rules (p.bind f) s R := by
  intro hinv ends notes hok herror
  refine h.follows_bind hinv ?_ herror
  intro t a hrely hinvt hq
  refine hf t a hrely hinvt hq hinvt ends notes ?_ ?_
  · exact fun w b hrely' => hok w b (rules.trans _ _ _ hrely hrely')
  · exact fun w e hrely' => herror w e (rules.trans _ _ _ hrely hrely')

end Program

/-! ## Several programs -/

/-- A call in progress: what was asked, what is left to do, what its steps noted. -/
structure OpenCall (ι ν : Type) (Op : Type) (Ans : Op → Type) (ε α : Type) where
  asked : ι
  rest : Program Op Ans ε α
  notes : List ν

/-- The component and the calls in progress. -/
structure Pool (σ ι ν : Type) (Op : Type) (Ans : Op → Type) (ε α : Type) where
  store : σ
  tasks : List (OpenCall ι ν Op Ans ε α)

namespace Pool

variable {Op : Type} {Ans : Op → Type} {ε α σ ι ν : Type}

/-- A new call, or the next step of the call number `i`. -/
inductive Event (ι : Type) where
  | start (asked : ι)
  | advance (i : Nat)

variable (exec : σ → (op : Op) → σ × Ans op) (note : σ → Op → List ν)
  (service : ι → Program Op Ans ε α)

/-- One event; a turn of a call that has ended, or was never made, changes nothing. -/
def step (pool : Pool σ ι ν Op Ans ε α) : Event ι → Pool σ ι ν Op Ans ε α
  | .start asked => { pool with tasks := pool.tasks ++ [⟨asked, service asked, []⟩] }
  | .advance i =>
    match pool.tasks[i]? with
    | some ⟨asked, .call op next, notes⟩ =>
      { store := (exec pool.store op).1
        tasks := pool.tasks.set i
          ⟨asked, next (exec pool.store op).2, notes ++ note pool.store op⟩ }
    | _ => pool

/-- What the steps of all calls note, in order. -/
def noted (pool : Pool σ ι ν Op Ans ε α) : Event ι → List ν
  | .start _ => []
  | .advance i =>
    match pool.tasks[i]? with
    | some ⟨_, .call op _, _⟩ => note pool.store op
    | _ => []

/-- The call made by an event, if there is one, is among those considered. -/
def Admitted (rules : Program.Rules σ Op) (pool : Pool σ ι ν Op Ans ε α) :
    Event ι → Prop
  | .start _ => True
  | .advance i => ∀ task ∈ pool.tasks[i]?, ∀ op next, task.rest = .call op next →
      rules.admits pool.store op

/-- A component on which no call has been made yet. -/
def idle (s : σ) : Pool σ ι ν Op Ans ε α := ⟨s, []⟩

variable {exec note service} {rules : Program.Rules σ Op}
  {ends : ι → List ν → σ → Except ε α → Prop}

/-- Every call was last active in a state from which the present one is reached by what it
relies on, and follows the rules from there. -/
def AllFollow (rules : Program.Rules σ Op) (exec : σ → (op : Op) → σ × Ans op)
    (note : σ → Op → List ν) (ends : ι → List ν → σ → Except ε α → Prop)
    (pool : Pool σ ι ν Op Ans ε α) : Prop :=
  ∀ task ∈ pool.tasks, ∃ s, rules.rely s pool.store ∧
    Program.Follows exec note rules (ends task.asked) task.rest task.notes s

theorem admitted_of_forall (h : ∀ s op, rules.admits s op) (pool : Pool σ ι ν Op Ans ε α)
    (event : Event ι) : pool.Admitted rules event := by
  cases event with
  | start asked => trivial
  | advance i => exact fun _ _ op _ _ => h pool.store op

theorem step_follows {asks : ι → Prop} (hservice : ∀ asked s, asks asked → rules.inv s →
      Program.Follows exec note rules (ends asked) (service asked) [] s)
    {pool : Pool σ ι ν Op Ans ε α} (event : Event ι) (hinv : rules.inv pool.store)
    (hall : pool.AllFollow rules exec note ends) (hadm : pool.Admitted rules event)
    (hasks : ∀ asked, event = .start asked → asks asked) :
    rules.inv (pool.step exec note service event).store ∧
    (pool.step exec note service event).AllFollow rules exec note ends ∧
    rules.rely pool.store (pool.step exec note service event).store := by
  cases event with
  | start asked =>
    refine ⟨hinv, ?_, rules.refl _⟩
    intro task htask
    rcases List.mem_append.mp htask with hold | hnew
    · exact hall task hold
    · rw [List.mem_singleton.mp hnew]
      exact ⟨pool.store, rules.refl _, hservice asked pool.store (hasks asked rfl) hinv⟩
  | advance i =>
    cases hget : pool.tasks[i]? with
    | none =>
      simp only [step, hget]
      exact ⟨hinv, hall, rules.refl _⟩
    | some task =>
      obtain ⟨asked, rest, notes⟩ := task
      cases rest with
      | done a =>
        simp only [step, hget]
        exact ⟨hinv, hall, rules.refl _⟩
      | fail e =>
        simp only [step, hget]
        exact ⟨hinv, hall, rules.refl _⟩
      | call op next =>
        obtain ⟨s, hrely, hfollows⟩ := hall _ (List.mem_of_getElem? hget)
        obtain ⟨hkeep, hguarantee, hrest⟩ := hfollows pool.store hrely hinv
          (hadm _ hget op next rfl)
        have hmoved := rules.owed _ _ hguarantee
        simp only [step, hget]
        refine ⟨hkeep, ?_, hmoved⟩
        intro task htask
        rcases List.mem_or_eq_of_mem_set htask with hold | hnew
        · -- the other calls: the step is one of those they rely on
          obtain ⟨s', hrely', hfollows'⟩ := hall task hold
          exact ⟨s', rules.trans _ _ _ hrely' hmoved, hfollows'⟩
        · rw [hnew]
          exact ⟨_, rules.refl _, hrest⟩

/-- **Every interleaving keeps the invariant, and every call in it follows the rules.** -/
theorem run_follows {asks : ι → Prop} (hservice : ∀ asked s, asks asked → rules.inv s →
      Program.Follows exec note rules (ends asked) (service asked) [] s) :
    ∀ (events : List (Event ι)) {pool : Pool σ ι ν Op Ans ε α}, rules.inv pool.store →
      pool.AllFollow rules exec note ends →
      Transitions.Along (step exec note service) (Admitted rules) pool events →
      (∀ asked, .start asked ∈ events → asks asked) →
      rules.inv (Transitions.run (step exec note service) pool events).store ∧
      (Transitions.run (step exec note service) pool events).AllFollow rules exec note ends ∧
      rules.rely pool.store (Transitions.run (step exec note service) pool events).store := by
  intro events
  induction events with
  | nil => intro pool hinv hall _ _; exact ⟨hinv, hall, rules.refl _⟩
  | cons event events ih =>
    intro pool hinv hall hadm hasks
    obtain ⟨hinv', hall', hmoved⟩ := step_follows hservice event hinv hall
      hadm.1 fun asked he => hasks asked (by rw [he]; exact List.mem_cons_self)
    obtain ⟨hinv'', hall'', hmoved'⟩ := ih hinv' hall' hadm.2
      fun asked hmem => hasks asked (List.mem_cons_of_mem _ hmem)
    exact ⟨hinv'', hall'', rules.trans _ _ _ hmoved hmoved'⟩

/-- A call that has ended, ended as promised in some state before the present one. -/
theorem AllFollow.ended {pool : Pool σ ι ν Op Ans ε α} (h : pool.AllFollow rules exec note ends)
    {task : OpenCall ι ν Op Ans ε α} (htask : task ∈ pool.tasks) {e : ε} (hfail : task.rest = .fail e) :
    ∃ s, rules.rely s pool.store ∧ ends task.asked task.notes s (.error e) := by
  obtain ⟨s, hrely, hfollows⟩ := h task htask
  rw [hfail] at hfollows
  exact ⟨s, hrely, hfollows⟩

/-- A call that gets the next turns does with them what it does alone. -/
theorem advance_alone {β : Type} {f : β → Program Op Ans ε α} {i : Nat} {asked : ι} {b : β} :
    ∀ {p : Program Op Ans ε β} {notes : List ν} {pool : Pool σ ι ν Op Ans ε α} {t : σ},
      pool.tasks[i]? = some ⟨asked, p.bind f, notes⟩ → p.run exec pool.store = (t, .ok b) →
      ∃ turns notes', Transitions.run (step exec note service) pool
        (List.replicate turns (.advance i)) = ⟨t, pool.tasks.set i ⟨asked, f b, notes'⟩⟩ := by
  intro p
  induction p with
  | done a =>
    intro notes pool t hget hrun
    cases hrun
    refine ⟨0, notes, ?_⟩
    obtain ⟨hi, hget'⟩ := List.getElem?_eq_some_iff.mp hget
    have hset : pool.tasks.set i ⟨asked, f b, notes⟩ = pool.tasks := by
      rw [Program.bind_done] at hget'
      rw [← hget', List.set_getElem_self]
    rw [hset]
    rfl
  | fail e =>
    intro notes pool t hget hrun
    cases hrun
  | call op next ih =>
    intro notes pool t hget hrun
    have hget' : pool.tasks[i]? = some ⟨asked, .call op fun a => (next a).bind f, notes⟩ := hget
    have hi : i < pool.tasks.length := (List.getElem?_eq_some_iff.mp hget).1
    have hstep : step exec note service pool (.advance i) =
        ⟨(exec pool.store op).1, pool.tasks.set i ⟨asked, (next (exec pool.store op).2).bind f,
          notes ++ note pool.store op⟩⟩ := by
      simp only [step, hget']
    have hnext : (pool.tasks.set i ⟨asked, (next (exec pool.store op).2).bind f,
        notes ++ note pool.store op⟩)[i]? = some ⟨asked, (next (exec pool.store op).2).bind f,
          notes ++ note pool.store op⟩ := List.getElem?_set_self hi
    obtain ⟨turns, notes', hturns⟩ := @ih (exec pool.store op).2 _ ⟨_, _⟩ _ hnext hrun
    refine ⟨turns + 1, notes', ?_⟩
    rw [List.replicate_succ, Transitions.run_cons, hstep, hturns, List.set_set]

end Pool
