import CountBridge.Queue

/-!
The queue as threads share it. A lock guards the items, and a counter beside
them tells how many are pending; it can be read without the lock. Every access
to shared memory is a step of its own, so a schedule may put any thread's steps
between the two updates that one operation makes.
-/

namespace CountBridge.Queue

/-- What a thread asks of the queue. Disposing defers an item and then collects
if the backlog has reached the threshold. -/
inductive Request (α : Type) where
  | defer (item : α)
  | takeAll
  | dispose (item : α)
  | collect
deriving DecidableEq, Repr

/-- Where a thread stands inside its current request. -/
inductive Point (α : Type) where
  | idle
  | pushing (item : α) (checks : Bool)
  | countingUp (item : α) (checks : Bool)
  | leavingPush (item : α) (checks : Bool)
  | checking
  | looking
  | entering (collects : Bool)
  | taking (collects : Bool)
  | countingDown (taken : Array α) (collects : Bool)
  | leavingTake (taken : Array α) (collects : Bool)
  | releasing (taken : Array α)
deriving DecidableEq, Repr

structure Thread (α : Type) where
  requests : List (Request α)
  point : Point α := .idle
deriving DecidableEq, Repr

structure Shared (α : Type) where
  items : Array α
  pending : Nat
  holder : Option Nat := none
  threads : Array (Thread α)
deriving DecidableEq, Repr

/-- What a step does to what the threads share, and what the caller can tell of it. -/
inductive Label (α : Type) where
  | locked
  | pushed (item : α)
  | countedUp
  | deferred (item : α)
  | checked
  | looked
  | foundNothing
  | took (items : Array α)
  | countedDown (count : Nat)
  | answered (items : Array α)
  | released (items : Array α)
deriving DecidableEq, Repr

namespace Shared

variable {α : Type}

/-- Takes the lock and goes on, or waits while another thread has it. -/
def lock (shared : Shared α) (after : Thread α) : Option (Label α × Thread α) :=
  if shared.holder.isNone then some (.locked, after) else none

/-- Reads the counter without the lock; with nothing pending there is nothing to do. -/
def look (shared : Shared α) (collects : Bool) (rest : List (Request α)) : Label α × Thread α :=
  if shared.pending = 0 then (.foundNothing, ⟨rest, .idle⟩)
  else (.looked, ⟨rest, .entering collects⟩)

/-- What a thread does next, if it can move, and where it stands afterwards. -/
def next? (threshold : Nat) (shared : Shared α) (thread : Nat) : Option (Label α × Thread α) :=
  match shared.threads[thread]? with
  | none => none
  | some ⟨requests, .idle⟩ =>
    match requests with
    | [] => none
    | .defer item :: rest => shared.lock ⟨rest, .pushing item false⟩
    | .dispose item :: rest => shared.lock ⟨rest, .pushing item true⟩
    | .takeAll :: rest => some (shared.look false rest)
    | .collect :: rest => some (shared.look true rest)
  | some ⟨rest, .pushing item checks⟩ => some (.pushed item, ⟨rest, .countingUp item checks⟩)
  | some ⟨rest, .countingUp item checks⟩ => some (.countedUp, ⟨rest, .leavingPush item checks⟩)
  | some ⟨rest, .leavingPush item checks⟩ =>
    some (.deferred item, ⟨rest, if checks then .checking else .idle⟩)
  | some ⟨rest, .checking⟩ =>
    some (.checked, ⟨rest, if threshold ≤ shared.pending then .looking else .idle⟩)
  | some ⟨rest, .looking⟩ => some (shared.look true rest)
  | some ⟨rest, .entering collects⟩ => shared.lock ⟨rest, .taking collects⟩
  | some ⟨rest, .taking collects⟩ =>
    some (.took shared.items, ⟨rest, .countingDown shared.items collects⟩)
  | some ⟨rest, .countingDown taken collects⟩ =>
    some (.countedDown taken.size, ⟨rest, .leavingTake taken collects⟩)
  | some ⟨rest, .leavingTake taken collects⟩ =>
    some (.answered taken, ⟨rest, if collects then .releasing taken else .idle⟩)
  | some ⟨rest, .releasing taken⟩ => some (.released taken, ⟨rest, .idle⟩)

/-- The effect of a step on what lies outside of the thread that makes it. -/
def carryOut (shared : Shared α) (thread : Nat) : Label α → Shared α
  | .locked => { shared with holder := some thread }
  | .pushed item => { shared with items := shared.items.push item }
  | .countedUp => { shared with pending := shared.pending + 1 }
  | .took _ => { shared with items := #[] }
  | .countedDown count => { shared with pending := shared.pending - count }
  | .deferred _ | .answered _ => { shared with holder := none }
  | .checked | .looked | .foundNothing | .released _ => shared

def setThread (shared : Shared α) (thread : Nat) (state : Thread α) : Shared α :=
  { shared with threads := shared.threads.setIfInBounds thread state }

/-- One step of one thread; a thread that cannot move passes. -/
def step (threshold : Nat) (shared : Shared α) (thread : Nat) : Shared α :=
  match shared.next? threshold thread with
  | some (label, after) => (shared.carryOut thread label).setThread thread after
  | none => shared

/-- Follows a schedule. -/
def run (threshold : Nat) (shared : Shared α) (schedule : List Nat) : Shared α :=
  schedule.foldl (step threshold) shared

end Shared

variable {α : Type}

/-- A queue at rest, with threads about to use it. -/
def share (queue : Queue α) (threads : List (List (Request α))) : Shared α where
  items := queue.items
  pending := queue.pending
  threads := (threads.map fun requests => ⟨requests, .idle⟩).toArray

/-- Lets one thread after the other defer its items. A deferral takes four steps. -/
def deferFromThreads (queue : Queue α) (batches : List (List α)) : Queue α :=
  let shared := queue.share (batches.map (·.map .defer))
  let after := batches.zipIdx.foldl
    (fun shared (batch, thread) => shared.run 0 (List.replicate (4 * batch.length) thread)) shared
  ⟨after.items⟩

end CountBridge.Queue
