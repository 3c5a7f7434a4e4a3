import CountBridge.World

/-!
Raising and trapping. Native code raises an error by handing over one unit of
it; the error then unwinds as a wrapper to the innermost trap, which hands it
back as a value. Every other payload passes all traps untouched.
-/

namespace CountBridge

open Bridge

/-- Leaves the running routine with a native error. -/
def raise (err : Wrapper) : Bridge α := do
  report (.raising err.handle)
  throw (.native err)

/-- Takes a native error out of an unwinding; anything else unwinds on. -/
def intercept : Unwind → Bridge Wrapper
  | .native err => do
    report (.trapped err.handle)
    pure err
  | payload => throw payload

/-- How a routine ended, without letting it unwind further. -/
def outcomeOf [Monad m] [MonadExceptOf Unwind m] (routine : m α) : m (Except Unwind α) :=
  tryCatch (Except.ok <$> routine) fun payload => pure (.error payload)

/-- Ends in the same way as the routine that ended so. -/
def settle [Monad m] [MonadExceptOf Unwind m] : Except Unwind α → m α
  | .ok value => pure value
  | .error payload => throw payload

/-- Runs a routine and hands back the native error it was left with, if any. -/
def trap [Monad m] [MonadExceptOf Unwind m] [MonadLiftT Bridge m] (routine : m α) :
    m (Except Wrapper α) := do
  match ← outcomeOf routine with
  | .ok value => pure (.ok value)
  | .error payload => return .error (← liftM (intercept payload))

/-- The hook by which native code raises an error. Takes over one unit of it. -/
def hostRaise (err : Handle) : Bridge α := do
  match (← get).binding?, err with
  | none, _ => fault (.noRuntime err)
  | some _, none => fault .invalidError
  | some _, some id => raise ⟨.error, some id⟩

/-- The hook by which native code runs a routine. Null tells that it completed,
any other handle is the trapped error with its unit. -/
def hostTrap [Monad m] [MonadExceptOf Unwind m] [MonadLiftT Bridge m] (routine : m Unit) :
    m Handle := do
  match ← trap routine with
  | .ok () => pure none
  | .error err => pure err.handle

end CountBridge
