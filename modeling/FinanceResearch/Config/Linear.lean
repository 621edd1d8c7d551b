import FinanceResearch.Config.Threads

/-!
# Changes of the watchlist are serialised

Whatever the threads do, fail or die in between, the file is what the calls that replaced it leave
one after the other (`threads_serialised`): each is `upsert` or `remove` on the file of the one
before it, so no change is lost. The lock alone does not give this, since a call computes the next
watchlist before it takes the lock: `Behind` carries it, by which a version that is read
again under the lock belongs to the watchlist that was read before.
-/

namespace FinanceResearch.Config

variable {runtime : Runtime} {file : YamlValue} {call : WatchlistCall} {pending : Pending}

/-! ## One call -/

/-- What a call computes from what it has read. -/
structure Prepared (call : WatchlistCall) (pending : Pending) : Prop where
  expected : pending.current.version = call.expectedVersion
  next : nextVersion pending.current.version = .ok pending.updated.version
  updated : watchlistOf pending.updated.version (call.items pending.current) = .ok pending.updated

theorem prepare_spec (h : prepare runtime file call = .ok pending) :
    load runtime file = .ok pending.current ∧ Prepared call pending := by
  obtain ⟨current, hload, h⟩ := Fallible.bind_eq_ok.mp h
  obtain ⟨_, hexpected, h⟩ := Fallible.bind_eq_ok.mp h
  obtain ⟨next, hnext, h⟩ := Fallible.bind_eq_ok.mp h
  obtain ⟨updated, hupdated, h⟩ := Fallible.bind_eq_ok.mp h
  cases h
  have hversion : updated.version = next := by
    obtain ⟨_, -, hbuilt⟩ := Fallible.bind_eq_ok.mp hupdated
    cases hbuilt
    rfl
  subst hversion
  exact ⟨hload, Fallible.require_eq_ok.mp hexpected, hnext, hupdated⟩

/-- A call whose parts succeed on one file succeeds as a whole. -/
theorem apply_of_parts (h : Prepared call pending) (hload : load runtime file = .ok pending.current)
    (hstaged : load runtime (YamlValue.reloaded pending.updated.toJson) = .ok pending.updated) :
    call.apply runtime file =
      .ok (pending.change call, YamlValue.reloaded pending.updated.toJson) := by
  have hreplaced : replaceUnchecked runtime pending.updated =
      .ok (YamlValue.reloaded pending.updated.toJson) := by
    unfold replaceUnchecked
    show (load runtime _ >>= _) = _
    rw [hstaged]
    show (Fallible.require _ _ >>= _) = _
    rw [(Fallible.require_eq_ok (u := ())).mpr rfl]
    rfl
  have hreplace : replaceIfVersion runtime file call.expectedVersion pending.updated =
      .ok (some (YamlValue.reloaded pending.updated.toJson)) := by
    unfold replaceIfVersion
    rw [hload, ← h.expected]
    show (if pending.current.version = pending.current.version then _ else _) = _
    rw [if_pos rfl, h.next]
    show (Fallible.require _ _ >>= _) = _
    rw [(Fallible.require_eq_ok (u := ())).mpr rfl, hreplaced]
    rfl
  rw [WatchlistCall.apply_eq]
  unfold applyChange
  rw [hload]
  show (Fallible.require _ _ >>= _) = _
  rw [(Fallible.require_eq_ok (u := ())).mpr h.expected]
  show (nextVersion _ >>= _) = _
  rw [h.next]
  show (watchlistOf _ _ >>= _) = _
  rw [h.updated]
  show (replaceIfVersion _ _ _ _ >>= _) = _
  rw [hreplace]
  rfl

theorem apply_spec {change : WatchlistChange} {next : YamlValue}
    (h : call.apply runtime file = .ok (change, next)) :
    ∃ current, load runtime file = .ok current ∧ current.version = call.expectedVersion ∧
      load runtime next = .ok (nextWatchlist current (call.items current)) := by
  rw [WatchlistCall.apply_eq] at h
  have hchange := h
  obtain ⟨current, hload, h⟩ := Fallible.bind_eq_ok.mp h
  obtain ⟨_, hexpected, -⟩ := Fallible.bind_eq_ok.mp h
  rw [Fallible.require_eq_ok] at hexpected
  rw [← hexpected] at hchange
  exact ⟨current, hload, hexpected, (applyChange_spec hload hchange).2.2⟩

/-! ## Versions -/

/-- The file is the one that was read, or versions have gone on since. -/
def Behind (runtime : Runtime) (file : YamlValue) (current : WatchlistConfig) : Prop :=
  ∃ stored, load runtime file = .ok stored ∧
    versionNumber current.version ≤ versionNumber stored.version ∧
    (versionNumber current.version = versionNumber stored.version → stored = current)

theorem behind_self {current : WatchlistConfig} (h : load runtime file = .ok current) :
    Behind runtime file current :=
  ⟨current, h, le_rfl, fun _ => rfl⟩

/-- A file that is replaced is behind all that was read before. -/
theorem Behind.replaced {current : WatchlistConfig} {change : WatchlistChange} {next : YamlValue}
    (h : Behind runtime file current) (happly : call.apply runtime file = .ok (change, next)) :
    Behind runtime next current := by
  obtain ⟨stored, hstored, hle, -⟩ := h
  obtain ⟨found, hfound, -, hnext⟩ := apply_spec happly
  rw [hstored] at hfound
  cases hfound
  have hnumber : versionNumber (nextWatchlist stored (call.items stored)).version =
      versionNumber stored.version + 1 := versionNumber_next _
  exact ⟨_, hnext, by omega, by omega⟩

/-- The version that was read still stands for what was read. -/
theorem Behind.load_eq {current stored : WatchlistConfig} (h : Behind runtime file current)
    (hload : load runtime file = .ok stored) (hversion : stored.version = current.version) :
    load runtime file = .ok current := by
  obtain ⟨found, hfound, -, hsame⟩ := h
  rw [hload] at hfound
  cases hfound
  rw [hload, hsame (congrArg versionNumber hversion.symm)]

theorem Replays.concat {commit : Commit} {final : YamlValue} : ∀ {made : List Commit}
    {file middle : YamlValue}, Replays runtime file made middle →
      commit.call.apply runtime middle = .ok (commit.change, final) →
        Replays runtime file (made ++ [commit]) final := by
  intro made
  induction made with
  | nil =>
    intro file middle h happly
    cases h
    exact ⟨final, happly, rfl⟩
  | cons first rest ih =>
    intro file middle h happly
    obtain ⟨next, hfirst, hrest⟩ := h
    exact ⟨next, hfirst, ih hrest happly⟩

/-- Versions go up by one from call to call. -/
theorem Replays.version {final : YamlValue} : ∀ {made : List Commit} {file : YamlValue},
    Replays runtime file made final → ∀ {k : Nat} {commit : Commit}, made[k]? = some commit →
      ∃ first, load runtime file = .ok first ∧
        versionNumber commit.call.expectedVersion = versionNumber first.version + k := by
  intro made
  induction made with
  | nil =>
    intro file _ k commit hget
    cases hget
  | cons first rest ih =>
    intro file h k commit hget
    obtain ⟨next, hfirst, hrest⟩ := h
    obtain ⟨current, hload, hexpected, hnext⟩ := apply_spec hfirst
    refine ⟨current, hload, ?_⟩
    cases k with
    | zero =>
      cases hget
      rw [hexpected]
      rfl
    | succ k =>
      obtain ⟨stored, hstored, hnumber⟩ := ih hrest hget
      rw [hnext] at hstored
      cases hstored
      have hone : versionNumber (nextWatchlist current (first.call.items current)).version =
          versionNumber current.version + 1 := versionNumber_next _
      omega

/-! ## What holds between two turns -/

/-- The thread has not replaced the file. -/
def Fresh (made : List Commit) (i : Nat) : Prop := ∀ commit ∈ made, commit.thread ≠ i

/-- What is known of a thread, by what it has done so far. -/
def ThreadSound (runtime : Runtime) (s : Shared) (made : List Commit) (i : Nat) (call : WatchlistCall) :
    Phase → Prop
  | .called => Fresh made i
  | .busy .prepared pending =>
    Fresh made i ∧ Prepared call pending ∧ Behind runtime s.file pending.current
  | .busy .locked pending =>
    s.holder = some i ∧ Fresh made i ∧ Prepared call pending ∧ Behind runtime s.file pending.current
  | .busy .matched pending =>
    s.holder = some i ∧ Fresh made i ∧ Prepared call pending ∧
      load runtime s.file = .ok pending.current
  | .busy .staged pending =>
    s.holder = some i ∧ Fresh made i ∧ Prepared call pending ∧
      load runtime s.file = .ok pending.current ∧
      s.staging = some (YamlValue.reloaded pending.updated.toJson)
  | .busy .validated pending =>
    s.holder = some i ∧ Fresh made i ∧ Prepared call pending ∧
      load runtime s.file = .ok pending.current ∧
      s.staging = some (YamlValue.reloaded pending.updated.toJson) ∧
      load runtime (YamlValue.reloaded pending.updated.toJson) = .ok pending.updated
  | .busy .replaced pending => s.holder = some i ∧ ⟨i, call, pending.change call⟩ ∈ made
  | .returned change => ⟨i, call, change⟩ ∈ made
  | .raised (.refused _) => Fresh made i
  | .raised .osError => True
  | .killed => True

/-- What a thread needs of the turn of another one. -/
structure Undisturbed (runtime : Runtime) (s t : Shared) (made more : List Commit) (j : Nat) : Prop where
  behind : ∀ current, Behind runtime s.file current → Behind runtime t.file current
  locked : s.holder = some j → t.holder = some j ∧ t.staging = s.staging ∧ t.file = s.file
  kept : ∀ commit ∈ made, commit ∈ more
  fresh : Fresh made j → Fresh more j

theorem ThreadSound.undisturbed {s t : Shared} {made more : List Commit} {j : Nat} {phase : Phase}
    (h : ThreadSound runtime s made j call phase) (hturn : Undisturbed runtime s t made more j) :
    ThreadSound runtime t more j call phase := by
  cases phase with
  | called => exact hturn.fresh h
  | busy progress pending =>
    cases progress with
    | prepared =>
      obtain ⟨hfresh, hprepared, hbehind⟩ := h
      exact ⟨hturn.fresh hfresh, hprepared, hturn.behind _ hbehind⟩
    | locked =>
      obtain ⟨hholder, hfresh, hprepared, hbehind⟩ := h
      exact ⟨(hturn.locked hholder).1, hturn.fresh hfresh, hprepared, hturn.behind _ hbehind⟩
    | matched =>
      obtain ⟨hholder, hfresh, hprepared, hload⟩ := h
      obtain ⟨hholder', -, hfile⟩ := hturn.locked hholder
      exact ⟨hholder', hturn.fresh hfresh, hprepared, hfile.symm ▸ hload⟩
    | staged =>
      obtain ⟨hholder, hfresh, hprepared, hload, hstaged⟩ := h
      obtain ⟨hholder', hstaging, hfile⟩ := hturn.locked hholder
      exact ⟨hholder', hturn.fresh hfresh, hprepared, hfile.symm ▸ hload, hstaging.trans hstaged⟩
    | validated =>
      obtain ⟨hholder, hfresh, hprepared, hload, hstaged, hread⟩ := h
      obtain ⟨hholder', hstaging, hfile⟩ := hturn.locked hholder
      exact ⟨hholder', hturn.fresh hfresh, hprepared, hfile.symm ▸ hload, hstaging.trans hstaged,
        hread⟩
    | replaced => exact ⟨(hturn.locked h.1).1, hturn.kept _ h.2⟩
  | returned change => exact hturn.kept _ h
  | raised error =>
    cases error with
    | refused error => exact hturn.fresh h
    | osError => trivial
  | killed => trivial

/-- **The replacements so far, in their order, explain the file and the threads.** -/
structure Serial (runtime : Runtime) (first : YamlValue) (made : List Commit) (s : Shared) : Prop where
  replays : Replays runtime first made s.file
  single : (made.map Commit.thread).Nodup
  known : ∀ commit ∈ made, ∃ phase, s.threads[commit.thread]? = some ⟨commit.call, phase⟩
  threads : ∀ i call phase, s.threads[i]? = some ⟨call, phase⟩ →
    ThreadSound runtime s made i call phase

/-- One thread goes on, and the others are undisturbed. -/
theorem Serial.update {first : YamlValue} {made more : List Commit} {s t : Shared} {i : Nat}
    {old new : Phase} (h : Serial runtime first made s) (hget : s.threads[i]? = some ⟨call, old⟩)
    (hthreads : t.threads = s.threads.set i ⟨call, new⟩) (hreplays : Replays runtime first more t.file)
    (hsingle : (more.map Commit.thread).Nodup)
    (hmore : ∀ commit ∈ more, commit ∈ made ∨ (commit.thread = i ∧ commit.call = call))
    (hothers : ∀ j, j ≠ i → Undisturbed runtime s t made more j)
    (hsound : ThreadSound runtime t more i call new) : Serial runtime first more t where
  replays := hreplays
  single := hsingle
  known := by
    intro commit hcommit
    rw [hthreads]
    have hi := (List.getElem?_eq_some_iff.mp hget).1
    by_cases heq : commit.thread = i
    · rw [heq, List.getElem?_set_self hi]
      rcases hmore commit hcommit with hold | hnew
      · obtain ⟨phase, hphase⟩ := h.known commit hold
        rw [heq, hget] at hphase
        cases hphase
        exact ⟨new, rfl⟩
      · rw [hnew.2]
        exact ⟨new, rfl⟩
    · rw [List.getElem?_set_ne (Ne.symm heq)]
      exact h.known commit ((hmore commit hcommit).resolve_right fun hnew => heq hnew.1)
  threads := by
    intro j call' phase hj
    rw [hthreads] at hj
    have hi := (List.getElem?_eq_some_iff.mp hget).1
    by_cases heq : j = i
    · subst heq
      rw [List.getElem?_set_self hi] at hj
      cases hj
      exact hsound
    · rw [List.getElem?_set_ne (Ne.symm heq)] at hj
      exact (h.threads j call' phase hj).undisturbed (hothers j heq)

/-! ## Turns -/

section Turns

variable {first : YamlValue} {made : List Commit} {s t : Shared} {i j : Nat} {old new : Phase}

theorem sound_raised {error : CallError} (h : Fresh made i) :
    ThreadSound runtime s made i call (.raised error) := by
  cases error with
  | refused error => exact h
  | osError => trivial

/-- A turn that leaves the files and the lock. -/
theorem undisturbed_of_same (hfile : t.file = s.file) (hstaging : t.staging = s.staging)
    (hholder : t.holder = s.holder) : Undisturbed runtime s t made made j where
  behind := by
    intro current h
    rw [hfile]
    exact h
  locked := fun h => ⟨hholder.trans h, hstaging, hfile⟩
  kept := fun _ h => h
  fresh := id

/-- A turn of the thread that has the lock. -/
theorem undisturbed_of_holder (hholder : s.holder = some i) (hfile : t.file = s.file) (hj : j ≠ i) :
    Undisturbed runtime s t made made j where
  behind := by
    intro current h
    rw [hfile]
    exact h
  locked := by
    intro h
    rw [hholder] at h
    exact absurd (Option.some.inj h).symm hj
  kept := fun _ h => h
  fresh := id

theorem Serial.put (h : Serial runtime first made s) (hget : s.threads[i]? = some ⟨call, old⟩)
    (hsound : ThreadSound runtime (s.put i call new) made i call new) :
    Serial runtime first made (s.put i call new) :=
  h.update hget rfl h.replays h.single (fun _ hcommit => Or.inl hcommit)
    (fun _ _ => undisturbed_of_same rfl rfl rfl) hsound

/-- A thread under the lock changes the staging file. -/
theorem Serial.stage (h : Serial runtime first made s) (hget : s.threads[i]? = some ⟨call, old⟩)
    (hholder : s.holder = some i) {staging : Option YamlValue}
    (hsound : ThreadSound runtime { s.put i call new with staging := staging } made i call new) :
    Serial runtime first made { s.put i call new with staging := staging } :=
  h.update hget rfl h.replays h.single (fun _ hcommit => Or.inl hcommit)
    (fun _ hj => undisturbed_of_holder hholder rfl hj) hsound

/-- A thread leaves the lock. -/
theorem Serial.leave (h : Serial runtime first made s) (hget : s.threads[i]? = some ⟨call, old⟩)
    (hholder : s.holder = some i) {staging : Option YamlValue}
    (hsound : ThreadSound runtime { s.leave i call new with staging := staging } made i call new) :
    Serial runtime first made { s.leave i call new with staging := staging } :=
  h.update hget rfl h.replays h.single (fun _ hcommit => Or.inl hcommit)
    (fun _ hj => undisturbed_of_holder hholder rfl hj) hsound

theorem checkVersion_spec {updated : WatchlistConfig} {u : Unit}
    (h : checkVersion runtime file call updated = .ok u) :
    ∃ stored, load runtime file = .ok stored ∧ stored.version = call.expectedVersion := by
  obtain ⟨stored, hload, h⟩ := Fallible.bind_eq_ok.mp h
  obtain ⟨_, hexpected, -⟩ := Fallible.bind_eq_ok.mp h
  exact ⟨stored, hload, Fallible.require_eq_ok.mp hexpected⟩

theorem checkStaging_spec {value : YamlValue} {updated : WatchlistConfig} {u : Unit}
    (h : checkStaging runtime (some value) updated = .ok u) : load runtime value = .ok updated := by
  obtain ⟨validated, hload, h⟩ := Fallible.bind_eq_ok.mp h
  have hsame : validated = updated := Fallible.require_eq_ok.mp h
  subst hsame
  cases hread : load runtime value with
  | error error =>
    rw [hread] at hload
    cases hload
  | ok read =>
    rw [hread] at hload
    cases hload
    rfl

theorem commits_of_busy {progress : Progress}
    (hget : s.threads[i]? = some ⟨call, .busy progress pending⟩) (h : progress ≠ .validated) :
    s.commits (.turn i) = [] := by
  cases progress with
  | validated => exact absurd rfl h
  | _ => simp only [Shared.commits, hget]

/-- A call in progress keeps the order. -/
theorem Serial.advance (h : Serial runtime first made s) {progress : Progress}
    (hget : s.threads[i]? = some ⟨call, .busy progress pending⟩) :
    Serial runtime first (made ++ s.commits (.turn i)) (s.advance runtime i call pending progress) := by
  have hsound := h.threads i call _ hget
  cases progress with
  | prepared =>
    rw [commits_of_busy hget (by decide), List.append_nil]
    show Serial runtime first made (if s.holder = none then _ else _)
    by_cases hholder : s.holder = none
    · rw [if_pos hholder]
      refine h.update hget rfl h.replays h.single (fun _ hcommit => Or.inl hcommit) ?_ ⟨rfl, hsound⟩
      intro j _
      refine ⟨fun _ hbehind => hbehind, fun hj => ?_, fun _ hcommit => hcommit, id⟩
      rw [hholder] at hj
      cases hj
    · rw [if_neg hholder]
      exact h
  | locked =>
    rw [commits_of_busy hget (by decide), List.append_nil]
    obtain ⟨hholder, hfresh, hprepared, hbehind⟩ := hsound
    show Serial runtime first made (s.checked i call _ _)
    cases hcheck : checkVersion runtime s.file call pending.updated with
    | error error => exact h.leave hget hholder hfresh
    | ok u =>
      obtain ⟨stored, hload, hversion⟩ := checkVersion_spec hcheck
      have hcurrent := hbehind.load_eq hload (hversion.trans hprepared.expected.symm)
      exact h.put hget ⟨hholder, hfresh, hprepared, hcurrent⟩
  | matched =>
    rw [commits_of_busy hget (by decide), List.append_nil]
    obtain ⟨hholder, hfresh, hprepared, hload⟩ := hsound
    exact h.stage hget hholder ⟨hholder, hfresh, hprepared, hload, rfl⟩
  | staged =>
    rw [commits_of_busy hget (by decide), List.append_nil]
    obtain ⟨hholder, hfresh, hprepared, hload, hstaging⟩ := hsound
    show Serial runtime first made (s.checked i call _ _)
    rw [hstaging]
    cases hcheck : checkStaging runtime (some (YamlValue.reloaded pending.updated.toJson))
        pending.updated with
    | error error => exact h.leave hget hholder (sound_raised hfresh)
    | ok u =>
      exact h.put hget ⟨hholder, hfresh, hprepared, hload, hstaging, checkStaging_spec hcheck⟩
  | validated =>
    obtain ⟨hholder, hfresh, hprepared, hload, hstaging, hread⟩ := hsound
    have happly := apply_of_parts hprepared hload hread
    have hcommits : s.commits (.turn i) = [⟨i, call, pending.change call⟩] := by
      simp only [Shared.commits, hget, hstaging]
    have hturn : s.advance runtime i call pending .validated =
        { s.put i call (.busy .replaced pending) with
          file := YamlValue.reloaded pending.updated.toJson, staging := none } := by
      simp only [Shared.advance, hstaging]
    rw [hcommits, hturn]
    refine h.update hget rfl (h.replays.concat happly) ?_ ?_ ?_ ⟨hholder, ?_⟩
    · rw [List.map_append, List.nodup_append]
      refine ⟨h.single, List.nodup_singleton _, ?_⟩
      intro a ha b hb hab
      obtain ⟨commit, hcommit, rfl⟩ := List.mem_map.mp ha
      exact hfresh commit hcommit (hab.trans (List.mem_singleton.mp hb))
    · intro commit hcommit
      rcases List.mem_append.mp hcommit with hold | hnew
      · exact Or.inl hold
      · rw [List.mem_singleton.mp hnew]
        exact Or.inr ⟨rfl, rfl⟩
    · intro j hj
      refine ⟨fun _ hbehind => hbehind.replaced happly, fun hlocked => ?_,
        fun _ hcommit => List.mem_append_left _ hcommit, fun hother commit hcommit => ?_⟩
      · rw [hholder] at hlocked
        exact absurd (Option.some.inj hlocked).symm hj
      · rcases List.mem_append.mp hcommit with hold | hnew
        · exact hother commit hold
        · rw [List.mem_singleton.mp hnew]
          exact hj.symm
    · exact List.mem_append_right _ List.mem_cons_self
  | replaced =>
    rw [commits_of_busy hget (by decide), List.append_nil]
    exact h.leave hget hsound.1 hsound.2

theorem Serial.turn (h : Serial runtime first made s) (i : Nat) :
    Serial runtime first (made ++ s.commits (.turn i)) (s.turn runtime i) := by
  have hnone (hcommits : s.commits (.turn i) = []) (ht : s.turn runtime i = s) :
      Serial runtime first (made ++ s.commits (.turn i)) (s.turn runtime i) := by
    rw [hcommits, ht, List.append_nil]
    exact h
  cases hget : s.threads[i]? with
  | none =>
    refine hnone ?_ ?_
    · simp only [Shared.commits, hget]
    · simp only [Shared.turn, hget]
  | some thread =>
    obtain ⟨call, phase⟩ := thread
    cases phase with
    | busy progress pending =>
      have hadvance := h.advance hget
      simp only [Shared.turn, hget]
      exact hadvance
    | called =>
      have hcommits : s.commits (.turn i) = [] := by
        simp only [Shared.commits, hget]
      have hfresh : Fresh made i := h.threads i call _ hget
      rw [hcommits, List.append_nil]
      cases hprepare : prepare runtime s.file call with
      | error error =>
        simp only [Shared.turn, hget, hprepare]
        exact h.put hget hfresh
      | ok pending =>
        obtain ⟨hload, hprepared⟩ := prepare_spec hprepare
        simp only [Shared.turn, hget, hprepare]
        exact h.put hget ⟨hfresh, hprepared, behind_self hload⟩
    | returned change =>
      refine hnone ?_ ?_
      · simp only [Shared.commits, hget]
      · simp only [Shared.turn, hget]
    | raised error =>
      refine hnone ?_ ?_
      · simp only [Shared.commits, hget]
      · simp only [Shared.turn, hget]
    | killed =>
      refine hnone ?_ ?_
      · simp only [Shared.commits, hget]
      · simp only [Shared.turn, hget]

/-- A failed operation raises in its thread, and no other thread notices. -/
theorem Serial.fault (h : Serial runtime first made s) (i : Nat) (left : Option YamlValue) :
    Serial runtime first made (s.fault i left) := by
  unfold Shared.fault
  cases hget : s.threads[i]? with
  | none => exact h
  | some thread =>
    obtain ⟨call, phase⟩ := thread
    have hsound := h.threads i call phase hget
    cases phase with
    | called => exact h.put hget trivial
    | busy progress pending =>
      cases progress with
      | prepared => exact h
      | locked => exact h.leave hget hsound.1 trivial
      | matched => exact h.leave hget hsound.1 trivial
      | staged => exact h.leave hget hsound.1 trivial
      | validated => exact h.leave hget hsound.1 trivial
      | replaced => exact h.leave hget hsound.1 trivial
    | returned change => exact h
    | raised error => exact h
    | killed => exact h

theorem kill_call (thread : Thread) : ∃ phase, thread.kill = ⟨thread.call, phase⟩ := by
  obtain ⟨call, phase⟩ := thread
  unfold Thread.kill
  cases phase with
  | called => exact ⟨_, rfl⟩
  | busy progress pending => exact ⟨_, rfl⟩
  | returned change => exact ⟨_, rfl⟩
  | raised error => exact ⟨_, rfl⟩
  | killed => exact ⟨_, rfl⟩

/-- A crash leaves the file, and nothing is asked of the threads that died. -/
theorem Serial.crash (h : Serial runtime first made s) :
    Serial runtime first made { s with holder := none, threads := s.threads.map Thread.kill } where
  replays := h.replays
  single := h.single
  known := by
    intro commit hcommit
    obtain ⟨phase, hphase⟩ := h.known commit hcommit
    obtain ⟨after, hafter⟩ := kill_call ⟨commit.call, phase⟩
    refine ⟨after, ?_⟩
    rw [List.getElem?_map, hphase, Option.map_some, hafter]
  threads := by
    intro i call phase hget
    rw [List.getElem?_map, Option.map_eq_some_iff] at hget
    obtain ⟨⟨call', before⟩, hbefore, hkill⟩ := hget
    have hsound := h.threads i call' before hbefore
    cases before with
    | called =>
      cases hkill
      trivial
    | busy progress pending =>
      cases hkill
      trivial
    | returned change =>
      cases hkill
      exact hsound
    | raised error =>
      cases hkill
      cases error with
      | refused error => exact hsound
      | osError => trivial
    | killed =>
      cases hkill
      trivial

theorem Serial.start (h : Serial runtime first made s) (call : WatchlistCall) :
    Serial runtime first made { s with threads := s.threads ++ [⟨call, .called⟩] } where
  replays := h.replays
  single := h.single
  known := by
    intro commit hcommit
    obtain ⟨phase, hphase⟩ := h.known commit hcommit
    refine ⟨phase, ?_⟩
    rw [List.getElem?_append_left (List.getElem?_eq_some_iff.mp hphase).1]
    exact hphase
  threads := by
    intro i call' phase hget
    rcases Nat.lt_or_ge i s.threads.length with hlt | hge
    · rw [List.getElem?_append_left hlt] at hget
      exact (h.threads i call' phase hget).undisturbed (undisturbed_of_same rfl rfl rfl)
    · rw [List.getElem?_append_right hge] at hget
      have hlast : i = s.threads.length := by
        have hlt := (List.getElem?_eq_some_iff.mp hget).1
        rw [List.length_singleton] at hlt
        omega
      subst hlast
      rw [Nat.sub_self] at hget
      cases hget
      intro commit hcommit heq
      obtain ⟨phase, hphase⟩ := h.known commit hcommit
      have hlt := (List.getElem?_eq_some_iff.mp hphase).1
      omega

theorem Serial.step (h : Serial runtime first made s) (event : WatchlistEvent) :
    Serial runtime first (made ++ s.commits event) (s.step runtime event) := by
  cases event with
  | start call =>
    show Serial runtime first (made ++ []) _
    rw [List.append_nil]
    exact h.start call
  | turn i => exact h.turn i
  | fault i left =>
    show Serial runtime first (made ++ []) _
    rw [List.append_nil]
    exact h.fault i left
  | crash =>
    show Serial runtime first (made ++ []) _
    rw [List.append_nil]
    exact h.crash

theorem serial_idle (first : YamlValue) : Serial runtime first [] (idle first) where
  replays := rfl
  single := List.nodup_nil
  known := fun _ hcommit => absurd hcommit List.not_mem_nil
  threads := by
    intro i call phase hget
    cases hget

end Turns

/-- **No change is lost**: whatever the threads do, fail or die in between, the file is what the
calls that replaced it leave one after the other, each under the next version; a call that returned
is one of them, once, and a call that was refused is none. -/
theorem threads_serialised (runtime : Runtime) (first : YamlValue) (events : List WatchlistEvent) :
    let s := Transitions.run (Shared.step runtime) (idle first) events
    let made := Transitions.emitted (Shared.step runtime) Shared.commits (idle first) events
    Replays runtime first made s.file ∧ (made.map Commit.thread).Nodup ∧
      (∀ k commit, made[k]? = some commit → ∃ current, load runtime first = .ok current ∧
        versionNumber commit.call.expectedVersion = versionNumber current.version + k) ∧
      (∀ i call change, s.threads[i]? = some ⟨call, .returned change⟩ → ⟨i, call, change⟩ ∈ made) ∧
      ∀ i call error, s.threads[i]? = some ⟨call, .raised (.refused error)⟩ →
        ∀ commit ∈ made, commit.thread ≠ i := by
  intro s made
  have hserial : Serial runtime first made s := Transitions.emitted_invariant_along
    (J := fun made s => Serial runtime first made s) (P := fun _ _ => True)
    (fun made s event h _ => h.step event) events (serial_idle first)
    (Transitions.along_of_forall (fun _ _ => trivial) events (idle first))
  exact ⟨hserial.replays, hserial.single, fun _ _ => hserial.replays.version,
    fun i call change hget => hserial.threads i call _ hget,
    fun i call error hget => hserial.threads i call _ hget⟩

end FinanceResearch.Config
