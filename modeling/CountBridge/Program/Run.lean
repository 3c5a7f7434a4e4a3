import CountBridge.Program.Origin
import CountBridge.Program.Perform

/-!
Running programs. A body opens a scope that drops its wrappers when it is left,
normally or by unwinding; a step is closed when its operation ends, so the steps
of a body come before the step that holds them. What unwinds from an operation
of the program itself is shown, and the program goes on.
-/

namespace CountBridge.Program

variable {α : Type}

def openFrame (frame : Frame) : Run α Unit :=
  update fun session => { session with frames := frame :: session.frames }

/-- Leaves the innermost scope: drops its wrappers, newest first, and releases its
guard at once. -/
def closeFrame : Run α Unit := do
  match (← session).frames with
  | [] => pure ()
  | frame :: outer =>
    update fun session => { session with frames := outer }
    Wrapper.dropAll (frame.wrappers.map (·.2))
    match frame.guard? with
    | some wrapper => let _ ← wrapper.release
    | none => pure ()

/-- Runs in a scope of its own, which is closed however the routine ends. -/
def inFrame (frame : Frame) (routine : Run α β) : Run α β := do
  openFrame frame
  let outcome ← outcomeOf routine
  closeFrame
  settle outcome

/-- How far a body came: the operations begun, and how the last one ended. -/
structure Progress where
  begun : Nat
  outcome : Except Unwind Unit

/-- A future is polled once for each operation begun, once more to find out how
that went, and once more after the last one. -/
def Progress.polls (progress : Progress) : Nat :=
  match progress.outcome with
  | .ok () => progress.begun + 2
  | .error _ => progress.begun + 1

/-- Executes one operation and closes its step. -/
def recorded (name : String) (operation : Run α (Answer α)) : Run α Unit := do
  match ← outcomeOf operation with
  | .ok answer => update (·.addStep name answer)
  | .error payload =>
    update (·.addStep name .unwound)
    throw payload

def asRoutine (body : Run α Progress) : Run α Unit :=
  inFrame {} do settle (← body).outcome

mutual

def runOp : Op α → Run α Unit
  | .act action => recorded action.name (perform action)
  | .attempt heap body keep => recorded "attempt" <| withHeap heap fun heap => do
    if (← Bridge.heapAt heap).booted then
      keepUnit keep (← hostTrap (asRoutine (runBody body)))
    else Bridge.fault .usedBeforeBoot
  | .hostTrap heap body keep => recorded "host_trap" <| withHeap heap fun _ => do
    keepUnit keep (← hostTrap (asRoutine (runBody body)))
  | .runRoutine heap body keep => recorded "run_routine" <| withHeap heap fun _ => do
    asRoutine (runBody body)
    keepHandle keep none
  | .trap body value keep => recorded "trap" do
    match ← trap (asRoutine (runBody body)) with
    | .ok () => pure (.finished value)
    | .error err => return .caught (← caught keep err)
  | .guarded body value => recorded "guarded" do
    asRoutine (runBody body)
    pure (.value value)
  | .scope body => recorded "scope" do
    asRoutine (runBody body)
    pure .done
  | .scoped wrapper body => recorded "scoped" <| taking wrapper fun taken =>
    inFrame { guard? := some taken } do
      asRoutine (runBody body)
      return .className (← taken.className)
  | .thread body value => recorded "thread" do
    match ← outcomeOf (asRoutine (runBody body)) with
    | .ok () => pure (.finished value)
    | .error payload => return .ended (← conclude payload)
  | .trapFuture body value keep => recorded "trap_future" do
    let progress ← inFrame {} (runBody body)
    match progress.outcome with
    | .ok () => pure (.polled (.ok value) progress.polls)
    | .error payload =>
      let err ← intercept payload
      return .polled (.error (← caught keep err)) progress.polls
  | .spawn body value keep => recorded "spawn" do
    match ← outcomeOf (trap (asRoutine (runBody body))) with
    | .ok (.ok ()) => pure (.finished value)
    | .ok (.error err) => return .caught (← caught keep err)
    | .error payload => return .joinFailed (← conclude payload)

/-- Executes operations until one of them unwinds. -/
def runBody : List (Op α) → Run α Progress
  | [] => pure ⟨0, .ok ()⟩
  | op :: rest => do
    match ← outcomeOf (runOp op) with
    | .error payload => pure ⟨1, .error payload⟩
    | .ok () =>
      let progress ← runBody rest
      pure { progress with begun := progress.begun + 1 }

end

/-- An operation of the program itself. What unwinds from it is shown and dropped. -/
def runTop (op : Op α) : Run α Unit := do
  match ← outcomeOf (runOp op) with
  | .ok () => pure ()
  | .error payload =>
    let ending ← conclude payload
    update (·.addStep "uncaught" (.uncaught ending))

/-- Executes the operations of a program one after another, whatever unwinds. -/
def runEach : List (Op α) → Run α Unit
  | [] => pure ()
  | op :: rest => do
    runTop op
    runEach rest

/-- Executes a program, and drops the wrappers that it still has in the end. -/
def runAll (program : List (Op α)) : Run α Unit := do
  runEach program
  closeFrame
  update (·.addStep "end" .done)

/-- What a run leaves: where its first object lay, and its steps. -/
structure Record (α : Type) where
  origin : Nat
  steps : Array (Step α)

/-- Runs a program from a state in which nothing is bound. -/
def run (watched : Bool) (program : List (Op α)) : Record α :=
  let origin := origin program
  { origin, steps := (runAll program |>.run (Session.start α origin watched)).2.steps }

end CountBridge.Program
