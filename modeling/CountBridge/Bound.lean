import CountBridge.Native

/-!
The bound object system as the bridge calls it. Each call is entered in the
journal, with whether its documented condition held: the handle is live, the
argument of a text operation is a string, the system was booted. Stubs may
answer in place of the system.
-/

namespace CountBridge

/-- What the system asks of the caller of an operation, besides the unit that a
spending call gives up. -/
inductive Demand where
  | nothing
  | unbound
  | bound
  | live (id : ObjectId)
  | string (id : ObjectId)
  | stringOrNull (handle : Handle)
deriving DecidableEq, Repr

namespace World

def isBound (world : World) : Bool := world.binding?.isSome

def isString (world : World) (id : ObjectId) : Bool :=
  ((world.store.find? id).map (·.isString)).getD false

def meets (world : World) : Demand → Bool
  | .nothing => true
  | .unbound => !world.isBound
  | .bound => world.isBound
  | .live id => world.isBound && world.store.isLive id
  | .string id => world.isBound && world.isString id
  | .stringOrNull handle => world.isBound && handle.all world.isString

end World

namespace Bound

open Bridge

def heap : Bridge HeapId := return (← binding).heap

/-- Enters a call before it is carried out. -/
@[inline] def before (demand : Demand) (call : Call) (action : Bridge β) : Bridge β := do
  record (.call call ((← get).meets demand))
  action

/-- Enters a call after it was carried out, with its answer; one that unwinds
leaves no entry. -/
@[inline] def after (demand : Demand) (call : β → Call) (action : Bridge β) : Bridge β := do
  let lawful := (← get).meets demand
  let answer ← action
  record (.call (call answer) lawful)
  pure answer

def askVersion : Bridge Unit := before .nothing .version (pure ())

def boot (heap : HeapId) : Bridge Unit := before .unbound .boot (Native.boot heap)

def increment (id : ObjectId) : Bridge Unit :=
  before (.live id) (.increment id) (Native.increment (some id))

def decrement (id : ObjectId) : Bridge UInt32 :=
  after (.live id) (.decrement id) do Native.decrement (← heap) (some id)

def newString (bytes : ByteArray) : Bridge ObjectId :=
  after .bound (.newString bytes.size) do Native.newString (← heap) bytes

def newError (mess : Handle) : Bridge ObjectId :=
  after (.stringOrNull mess) (.newError mess) do Native.newError (← heap) mess

def messageOf (id : ObjectId) : Bridge Handle :=
  after (.live id) (.messageOf id) do return (← objectAt id).message

def isString (id : ObjectId) : Bridge Bool :=
  after (.live id) (.isString id) do
    let object ← objectAt id
    return (← get).stubs.isString.getD object.isString

def toString (id : ObjectId) : Bridge ObjectId := do
  let answer ← before (.live id) (.toString id) do Native.toString (← heap) id
  before .bound (.toStringReturned answer) (pure answer)

/-- The bytes of a string as far as the system shows them, and their number. -/
def stringBytes (id : ObjectId) : Bridge (Option ByteArray × Nat) :=
  after (.string id) (fun (bytes, size) => .stringBytes id bytes size) do
    let bytes := (← objectAt id).stringBytes?
    return (← get).stubs.stringBytes.getD (bytes, (bytes.map ByteArray.size).getD 0)

def className (id : ObjectId) : Bridge String :=
  before (.live id) (.className id) do return (← objectAt id).className

end Bound

end CountBridge
