import CountBridge.Handle

/-!
Wrappers. A wrapper pins one unit of the object it points at; once released it
points at nothing. Its kind is only a name: all kinds behave alike, and nobody
checks that the object fits.
-/

namespace CountBridge

inductive WrapperKind where
  | object
  | text
  | error
  | hash
  | vector
  | bytes
  | classObject
  | method
  | registry
deriving DecidableEq, Repr

def WrapperKind.name : WrapperKind → String
  | .object => "Obj"
  | .text => "Str"
  | .error => "TrappedErr"
  | .hash => "Hash"
  | .vector => "Vector"
  | .bytes => "ByteBuf"
  | .classObject => "Class"
  | .method => "Method"
  | .registry => "LockFreeRegistry"

structure Wrapper where
  kind : WrapperKind
  handle : Handle
deriving DecidableEq, Repr

namespace Wrapper

def isReleased (wrapper : Wrapper) : Bool := wrapper.handle.isNone

/-- The same wrapper without its unit. -/
def released (wrapper : Wrapper) : Wrapper := { wrapper with handle := none }

/-- Moves the unit into a wrapper of another kind. -/
def convert (wrapper : Wrapper) (kind : WrapperKind) : Wrapper := { wrapper with kind }

/-- Wrappers are equal when they point at the same object, or both at none. -/
def same (first second : Wrapper) : Bool := first.handle == second.handle

/-- Diagnostic text, given how the handle is written. -/
def diagnostic (wrapper : Wrapper) (shown : Handle → String) : String :=
  let base := "Obj(" ++ shown wrapper.handle ++ ")"
  if wrapper.kind = .object then base
  else wrapper.kind.name ++ " \x7b obj: " ++ base ++ " \x7d"

end Wrapper

end CountBridge
