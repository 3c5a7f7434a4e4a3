import CountBridge.Config
import CountBridge.Handle
import CountBridge.Logging.Level

/-!
What can be observed of a run from outside, in the order in which it happened:
the calls that the bridge makes on the bound object system, the events it
reports, and the objects that a program shows.
-/

namespace CountBridge

/-- A call on the bound object system together with what it answered. -/
inductive Call where
  | version
  | boot
  | increment (id : ObjectId)
  | decrement (id : ObjectId) (remaining : UInt32)
  | newString (size : Nat) (made : ObjectId)
  | newError (mess : Handle) (made : ObjectId)
  | messageOf (id : ObjectId) (answer : Handle)
  | isString (id : ObjectId) (answer : Bool)
  | toString (id : ObjectId)
  | toStringReturned (answer : ObjectId)
  | stringBytes (id : ObjectId) (answer : Option ByteArray) (size : Nat)
  | className (id : ObjectId)

inductive Event where
  | bootstrapped (policy : ReleasePolicy)
  | raising (err : Handle)
  | trapped (err : Handle)
  | released (id : ObjectId) (remaining : UInt32)
  | deferred (id : ObjectId) (pending : Nat)
  | processed (count : Nat)
  | alreadyBooted
  | unreadable (err : Handle) (nested : Handle)
deriving DecidableEq, Repr

def Event.level : Event → Logging.Level
  | .bootstrapped _ | .raising _ | .trapped _ | .alreadyBooted => .debug
  | .released .. | .deferred .. | .processed _ => .trace
  | .unreadable .. => .warn

inductive Entry where
  /-- A call, and whether what the system asks of its caller held when it was made. -/
  | call (made : Call) (lawful : Bool)
  | event (reported : Event)
  | shown (handle : Handle)

end CountBridge
