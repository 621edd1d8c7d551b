import FinanceResearch.Config.Survives
import FinanceResearch.Lib.Transitions

/-!
# Threads that change the watchlist

`WatchlistService.upsert` and `remove` in any number of threads of one process. A call reads the
file without the lock, computes the next watchlist, takes the lock of the path
(`YamlWatchlistRepository._lock_for`), reads the version again, writes a staging file, reads that
back and renames it over the file.

Mirroring notes vs the source:
- One turn is one operation on a file or on the lock, with what is computed from it.
- `os.replace` is atomic, so a reader finds a whole file.
- Every operation on a file may raise an `OSError` (`fault`); a failed write leaves any staging
  file behind. The directory is synchronised when the file is already replaced.
- An exception leaves the `with` of the lock.
- `crash` ends the process with all its threads; a process that starts has a lock of its own.
-/

namespace FinanceResearch.Config

/-! ## Calls -/

/-- A call of the service. -/
inductive WatchlistCall where
  | upsert (expectedVersion : String) (item : WatchlistItem)
  | remove (expectedVersion : String) (symbol : Symbol)

namespace WatchlistCall

def expectedVersion : WatchlistCall → String
  | upsert expectedVersion _ => expectedVersion
  | remove expectedVersion _ => expectedVersion

/-- The items of the next watchlist. -/
def items : WatchlistCall → WatchlistConfig → List WatchlistItem
  | upsert _ item, current => others current item.symbol ++ [item]
  | remove _ symbol, current => others current symbol

/-- `WatchlistChange.item`. -/
def item : WatchlistCall → Option WatchlistItem
  | upsert _ item => some item
  | remove _ _ => none

/-- `WatchlistChange.removed_symbol`. -/
def removedSymbol : WatchlistCall → Option String
  | upsert _ _ => none
  | remove _ symbol => some symbol.text

/-- The call without others: the change, and the file that it leaves. -/
def apply (runtime : Runtime) (file : YamlValue) :
    WatchlistCall → Except WatchlistError (WatchlistChange × YamlValue)
  | upsert expectedVersion item => Config.upsert runtime file expectedVersion item
  | remove expectedVersion symbol => Config.remove runtime file expectedVersion symbol

theorem apply_eq (runtime : Runtime) (file : YamlValue) (call : WatchlistCall) :
    call.apply runtime file =
      applyChange runtime file call.expectedVersion call.items call.item call.removedSymbol := by
  cases call with
  | upsert expectedVersion item => rfl
  | remove expectedVersion symbol => rfl

end WatchlistCall

/-! ## Threads -/

/-- What a call has read and what it wants to store. -/
structure Pending where
  current : WatchlistConfig
  updated : WatchlistConfig

/-- What the call returns. -/
def Pending.change (pending : Pending) (call : WatchlistCall) : WatchlistChange :=
  ⟨pending.current.version, pending.updated.version, call.item, call.removedSymbol,
    canonicalModelHash pending.updated.toJson⟩

/-- What a call has done so far. -/
inductive Progress where
  /-- the next watchlist is computed -/
  | prepared
  /-- the lock is taken -/
  | locked
  /-- the version under the lock is the expected one -/
  | matched
  /-- the staging file is written -/
  | staged
  /-- the staging file is read back -/
  | validated
  /-- the staging file is renamed -/
  | replaced
  deriving DecidableEq

/-- What a call raises. -/
inductive CallError where
  | refused (error : WatchlistError)
  | osError

inductive Phase where
  | called
  | busy (progress : Progress) (pending : Pending)
  | returned (change : WatchlistChange)
  | raised (error : CallError)
  | killed

structure Thread where
  call : WatchlistCall
  phase : Phase

/-- The directory and the process. -/
structure Shared where
  /-- `watchlist.yaml` -/
  file : YamlValue
  /-- `.watchlist.yaml.staging` -/
  staging : Option YamlValue
  /-- the thread that has the lock -/
  holder : Option Nat
  threads : List Thread

namespace Shared

/-- The thread goes on. -/
def put (s : Shared) (i : Nat) (call : WatchlistCall) (phase : Phase) : Shared :=
  { s with threads := s.threads.set i ⟨call, phase⟩ }

/-- The thread goes on without the lock. -/
def leave (s : Shared) (i : Nat) (call : WatchlistCall) (phase : Phase) : Shared :=
  { s.put i call phase with holder := none }

end Shared

section Turns

variable (runtime : Runtime)

/-- The part of `upsert` and `remove` before the repository is called. -/
def prepare (file : YamlValue) (call : WatchlistCall) : Except WatchlistError Pending := do
  let current ← load runtime file
  Fallible.require (current.version = call.expectedVersion)
    (.versionConflict ("expected watchlist version " ++ call.expectedVersion ++ ", found " ++
      current.version))
  let next ← nextVersion current.version
  let updated ← watchlistOf next (call.items current)
  pure ⟨current, updated⟩

/-- The part of `replace_if_version` before the staging file; a version that is not the expected
one is what the service raises of `False`. -/
def checkVersion (file : YamlValue) (call : WatchlistCall) (updated : WatchlistConfig) :
    Except WatchlistError Unit := do
  let current ← load runtime file
  Fallible.require (current.version = call.expectedVersion)
    (.versionConflict ("expected watchlist version " ++ call.expectedVersion ++
      " was superseded"))
  let expectedNext ← nextVersion call.expectedVersion
  Fallible.require (updated.version = expectedNext)
    (.valueError "replacement version must increment the expected version by one")

/-- The staging file is read back. -/
def checkStaging (staging : Option YamlValue) (updated : WatchlistConfig) : Except CallError Unit :=
  match staging with
  | none => throw .osError
  | some value => do
    let validated ← (load runtime value).mapError .refused
    Fallible.require (validated = updated)
      (.refused (.valueError "staged watchlist failed validation round trip"))

/-- A thread under the lock goes on, or raises and leaves it. -/
def Shared.checked (s : Shared) (i : Nat) (call : WatchlistCall) (phase : Phase) :
    Except CallError Unit → Shared
  | .ok _ => s.put i call phase
  | .error error => s.leave i call (.raised error)

/-- The next operation of a call in progress. -/
def Shared.advance (s : Shared) (i : Nat) (call : WatchlistCall) (pending : Pending) :
    Progress → Shared
  | .prepared =>
    if s.holder = none then { s.put i call (.busy .locked pending) with holder := some i } else s
  | .locked => s.checked i call (.busy .matched pending)
    ((checkVersion runtime s.file call pending.updated).mapError .refused)
  | .matched =>
    { s.put i call (.busy .staged pending) with
      staging := some (YamlValue.reloaded pending.updated.toJson) }
  | .staged =>
    s.checked i call (.busy .validated pending) (checkStaging runtime s.staging pending.updated)
  | .validated =>
    match s.staging with
    | none => s.leave i call (.raised .osError)
    | some value =>
      { s.put i call (.busy .replaced pending) with file := value, staging := none }
  | .replaced => s.leave i call (.returned (pending.change call))

/-- The next operation of a thread. -/
def Shared.turn (s : Shared) (i : Nat) : Shared :=
  match s.threads[i]? with
  | some ⟨call, .called⟩ =>
    match prepare runtime s.file call with
    | .ok pending => s.put i call (.busy .prepared pending)
    | .error error => s.put i call (.raised (.refused error))
  | some ⟨call, .busy progress pending⟩ => s.advance runtime i call pending progress
  | _ => s

/-- The next operation of a thread fails; a write leaves `left` behind. Waiting for the lock does
not fail. -/
def Shared.fault (s : Shared) (i : Nat) (left : Option YamlValue) : Shared :=
  match s.threads[i]? with
  | some ⟨call, .called⟩ => s.put i call (.raised .osError)
  | some ⟨_, .busy .prepared _⟩ => s
  | some ⟨call, .busy .matched _⟩ => { s.leave i call (.raised .osError) with staging := left }
  | some ⟨call, .busy _ _⟩ => s.leave i call (.raised .osError)
  | _ => s

/-- A thread of a process that ends. -/
def Thread.kill (thread : Thread) : Thread :=
  match thread.phase with
  | .called => { thread with phase := .killed }
  | .busy _ _ => { thread with phase := .killed }
  | _ => thread

inductive WatchlistEvent where
  | start (call : WatchlistCall)
  | turn (i : Nat)
  | fault (i : Nat) (left : Option YamlValue)
  | crash

def Shared.step (s : Shared) : WatchlistEvent → Shared
  | .start call => { s with threads := s.threads ++ [⟨call, .called⟩] }
  | .turn i => s.turn runtime i
  | .fault i left => s.fault i left
  | .crash => { s with holder := none, threads := s.threads.map Thread.kill }

/-- No call yet. -/
def idle (file : YamlValue) : Shared := ⟨file, none, none, []⟩

/-! ## Replacements -/

/-- A call that replaced the file. -/
structure Commit where
  thread : Nat
  call : WatchlistCall
  change : WatchlistChange

/-- The replacement that an event makes. -/
def Shared.commits (s : Shared) : WatchlistEvent → List Commit
  | .turn i =>
    match s.threads[i]?, s.staging with
    | some ⟨call, .busy .validated pending⟩, some _ => [⟨i, call, pending.change call⟩]
    | _, _ => []
  | _ => []

/-- The calls one after the other, each on the file that the one before it leaves. -/
def Replays (file : YamlValue) : List Commit → YamlValue → Prop
  | [], final => final = file
  | commit :: rest, final => ∃ next,
      commit.call.apply runtime file = .ok (commit.change, next) ∧ Replays next rest final

end Turns

end FinanceResearch.Config
