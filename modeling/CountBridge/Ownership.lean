import CountBridge.Release

/-!
Making wrappers and parting with them. A unit enters a wrapper when it is
adopted or taken by an increment, and leaves it exactly once: released at once,
disposed of when the wrapper is dropped, or handed out raw.
-/

namespace CountBridge.Wrapper

/-- Takes over a unit that already belongs to the handle. -/
def adopt (kind : WrapperKind) (handle : Handle) : Except BridgeError Wrapper :=
  match handle with
  | none => .error .nullHandle
  | some id => .ok ⟨kind, some id⟩

def ofRaw? (kind : WrapperKind) (handle : Handle) : Option Wrapper :=
  handle.map fun id => ⟨kind, some id⟩

/-- Takes a further unit of a borrowed handle. -/
def retain (kind : WrapperKind) (handle : Handle) : Bridge (Except BridgeError Wrapper) := do
  match handle with
  | none => pure (.error .nullHandle)
  | some id =>
    Bound.increment id
    pure (.ok ⟨kind, some id⟩)

/-- A second wrapper with a unit of its own; of a released one, another released one. -/
def clone (wrapper : Wrapper) : Bridge Wrapper := do
  match wrapper.handle with
  | none => pure wrapper
  | some id =>
    Bound.increment id
    pure wrapper

/-- Gives the unit back at once, whatever the policy, and tells whether there
was one. The wrapper is released from then on. -/
def release (wrapper : Wrapper) : Bridge Bool := do
  match wrapper.handle with
  | none => pure false
  | some id =>
    releaseHandle id
    pure true

def drop (wrapper : Wrapper) : Bridge Unit := do
  match wrapper.handle with
  | none => pure ()
  | some id => dispose id

def dropAll : List Wrapper → Bridge Unit
  | [] => pure ()
  | wrapper :: rest => do
    wrapper.drop
    dropAll rest

def className (wrapper : Wrapper) : Bridge String := do
  match wrapper.handle with
  | none => pure ""
  | some id => Bound.className id

end CountBridge.Wrapper
