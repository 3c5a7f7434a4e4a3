import CountBridge.Program.Session

/-!
What the names in an operation mean, and where its results go. Whatever would
not be lawful is refused here, before anything happens; a name that resolves to
a live object is what makes a borrowed handle safe to use, and a unit taken from
the program's own is what makes it safe to give away.
-/

namespace CountBridge.Program

variable {α : Type}

/-- Naming a dead handle breaks a condition, although nothing comes of it. -/
def refuse (refusal : Refusal) : Run α (Answer α) := do
  if refusal = .deadHandle then Bridge.breach
  pure (.refused refusal)

def withHeap (name : Name) (next : HeapId → Run α (Answer α)) : Run α (Answer α) := do
  match lookup name (← session).heaps with
  | some heap => next heap
  | none => refuse .noSuchHeap

/-- A handle that is null or live. -/
def withHandle (name : Name) (next : Handle → Run α (Answer α)) : Run α (Answer α) := do
  match (← session).handleNamed name with
  | .ok handle => next handle
  | .error refusal => refuse refusal

/-- A handle that is live. -/
def withLive (name : Name) (next : ObjectId → Run α (Answer α)) : Run α (Answer α) :=
  withHandle name fun
    | some id => next id
    | none => refuse .nullHandle

def withBinding (next : Binding → Run α (Answer α)) : Run α (Answer α) := do
  match (← session).world.binding? with
  | some binding => next binding
  | none => pure (.failed .notBootstrapped)

/-- Gives away one of the program's own units; null needs none. -/
def spending (handle : Handle) (next : Run α (Answer α)) : Run α (Answer α) := do
  match handle with
  | none => next
  | some id =>
    if id ∈ (← session).units then
      update fun session => { session with units := session.units.erase id }
      next
    else refuse .noUnit

def withWrapper (name : Name) (next : Wrapper → Run α (Answer α)) : Run α (Answer α) := do
  match findWrapper name (← session).frames with
  | some wrapper => next wrapper
  | none => refuse .noSuchWrapper

/-- A wrapper that leaves its scope. -/
def taking (name : Name) (next : Wrapper → Run α (Answer α)) : Run α (Answer α) := do
  match takeWrapper name (← session).frames with
  | some (wrapper, frames) =>
    update fun session => { session with frames }
    next wrapper
  | none => refuse .noSuchWrapper

/-- Keeps a unit for the program itself, and its handle under a name. -/
def keepUnit (keep : Option Name) (handle : Handle) : Run α (Answer α) := do
  update fun session => (session.gain handle).bindHandle keep handle
  pure (.handle handle)

def keepHandle (keep : Option Name) (handle : Handle) : Run α (Answer α) := do
  update fun session => session.bindHandle keep handle
  pure (.handle handle)

/-- Keeps a wrapper in the innermost scope, or drops it for want of a name. -/
def keepWrapper (keep : Option Name) (wrapper : Wrapper) : Run α Unit := do
  match keep with
  | some name =>
    update fun session => { session with frames := storeWrapper name wrapper session.frames }
  | none => wrapper.drop

def keepMade (keep : Option Name) (made : Except BridgeError Wrapper) : Run α (Answer α) := do
  match made with
  | .error error => pure (.failed error)
  | .ok wrapper =>
    Bridge.record (.shown wrapper.handle)
    keepWrapper keep wrapper
    pure (.handle wrapper.handle)

/-- Shows a trapped error: its handle first, then the message read from it. -/
def describe (err : Wrapper) : Run α Report := do
  Bridge.record (.shown err.handle)
  return ⟨err.handle, ← err.message⟩

def caught (keep : Option Name) (err : Wrapper) : Run α Report := do
  let report ← describe err
  keepWrapper keep err
  pure report

/-- Shows what an unwinding carried, and drops it. -/
def conclude (payload : Unwind) : Run α Ending := do
  match payload with
  | .native err => return .native (← caught none err)
  | .text message => pure (.text message)
  | .number value => pure (.number value)
  | .fault cause => pure (.fault cause)

end CountBridge.Program
