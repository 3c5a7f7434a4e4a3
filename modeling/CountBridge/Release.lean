import CountBridge.Bound

/-!
How the bridge gives units back: at once, or by way of the queue. A queue that
reaches the threshold is emptied on the spot.
-/

namespace CountBridge

open Bridge

def releaseHandle (id : ObjectId) : Bridge Unit := do
  let remaining ← Bound.decrement id
  report (.released id remaining)

def releaseAll : List ObjectId → Bridge Unit
  | [] => pure ()
  | id :: rest => do
    releaseHandle id
    releaseAll rest

/-- Gives back everything queued and tells how much that was. -/
def collect : Bridge Nat := do
  let (taken, rest) := (← binding).queue.takeAll
  modifyQueue fun _ => rest
  releaseAll taken.toList
  if 0 < taken.size then report (.processed taken.size)
  pure taken.size

def deferRelease (id : ObjectId) : Bridge Unit := do
  modifyQueue (·.defer id)
  let backlog := (← binding).queue.pending
  report (.deferred id backlog)
  if (← binding).config.flushThreshold.toNat ≤ backlog then
    let _ ← collect

/-- Gives back the unit of a dropped wrapper, as the policy says. -/
def dispose (id : ObjectId) : Bridge Unit := do
  match (← binding).config.policy with
  | .immediate => releaseHandle id
  | .deferred => deferRelease id

end CountBridge
