import CountBridge.Program.Operation

/-!
What a program's operations answer, and the steps that a run leaves behind. An
operation that cannot be carried out lawfully is refused before anything happens.
-/

namespace CountBridge.Program

inductive Refusal where
  | noSuchHandle
  | deadHandle
  | nullHandle
  | noUnit
  | noSuchWrapper
  | noSuchHeap
  | notAnError
  | noText
deriving DecidableEq, Repr

def Refusal.message : Refusal → String
  | .noSuchHandle => "no such handle"
  | .deadHandle => "dead handle"
  | .nullHandle => "null handle"
  | .noUnit => "no unit"
  | .noSuchWrapper => "no such wrapper"
  | .noSuchHeap => "no such heap"
  | .notAnError => "not a TrappedErr"
  | .noText => "no text"

/-- A trapped error as it is shown: its handle and its message. -/
structure Report where
  handle : Handle
  message : String
deriving DecidableEq, Repr

/-- How something that was not trapped came to its end. -/
inductive Ending where
  | native (report : Report)
  | text (message : String)
  | number (value : Int)
  | fault (cause : Fault)
deriving DecidableEq, Repr

inductive Answer (α : Type) where
  | done
  | unwound
  | refused (refusal : Refusal)
  | failed (error : BridgeError)
  | handle (handle : Handle)
  | optional (found : Option ObjectId)
  | counted (handle : Handle) (count : Nat)
  | remaining (count : Nat)
  | length (count : Nat)
  | heap (counters : Heap)
  | object (id : ObjectId) (found : Object)
  | alive (answer : Bool)
  | coerced (result : ObjectId) (same : Bool) (text : Option String)
  | bound (config : Config)
  | current
  | binding (found : Binding)
  | collected (count : Nat)
  | text (text : String)
  | caught (report : Report)
  | burst (during after : Nat)
  | hammered (equal : Bool) (count : Nat)
  | converted (wrapper : Wrapper)
  | released (wasHeld : Bool)
  | wrapper (found : Wrapper) (className : String)
  | texts (first : Except Report String) (display : String)
  | compared (equal : Bool)
  | finished (value : α)
  | value (value : α)
  | className (name : String)
  | ended (ending : Ending)
  | polled (outcome : Except Report α) (polls : Nat)
  | joinFailed (ending : Ending)
  | uncaught (ending : Ending)

/-- One executed operation: what it answered, the counters it left and what was
observed since the step before. -/
structure Step (α : Type) where
  op : String
  answer : Answer α
  live : UInt64
  total : Nat
  pending : Option Nat
  journal : Array Entry

end CountBridge.Program
