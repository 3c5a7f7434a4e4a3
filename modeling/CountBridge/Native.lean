import CountBridge.Text.Utf8
import CountBridge.Unwinding

/-!
The operations of the object system itself, on one of its heaps. Operations that
fail raise an error through the hooks that booting handed over; on a heap that
was not booted they find no hooks.
-/

namespace CountBridge.Native

open Bridge

def allocate (heap : HeapId) (payload : Payload) : Bridge ObjectId := do
  let id ← changeStore (·.allocate payload)
  modifyHeap heap Heap.allocate
  pure id

/-- Takes one more unit. A counter that turns over is noticed by nobody but the world. -/
def increment (handle : Handle) : Bridge Unit := do
  match handle with
  | none => pure ()
  | some id =>
    let object ← objectAt id
    changeStore fun store => ((), store.set id object.increment)
    if object.increment.count = 0 then
      modify fun world => { world with turnedOver := true }

/-- Gives back one unit and tells how many are left. What is destroyed on the way
counts for the heap that was asked. -/
def decrement (heap : HeapId) (handle : Handle) : Bridge UInt32 := do
  match handle with
  | none => pure 0
  | some id =>
    let object ← objectAt id
    let (destroyed, misuse) ← changeStore fun store =>
      let after := store.giveBack [some id]
      ((after.destroyed, after.misuse), after.store)
    modifyHeap heap (·.destroy destroyed.length)
    match misuse with
    | some cause => fault (.misuse cause)
    | none => pure object.decrement.count

/-- Raises an object from inside the system, giving up one unit of it. -/
def throwHandle (heap : HeapId) (err : Handle) : Bridge α := do
  if (← heapAt heap).booted then hostRaise err else fault .usedBeforeBoot

/-- Raises a new error with a message. The hooks are looked for before anything
is allocated. -/
def throwMessage (heap : HeapId) (message : String) : Bridge α := do
  if (← heapAt heap).booted then
    let mess ← allocate heap (.string message.toUTF8)
    let err ← allocate heap (.error (some mess))
    hostRaise (some err)
  else fault .usedBeforeBoot

def newString (heap : HeapId) (bytes : ByteArray) : Bridge ObjectId :=
  if bytes.validateUTF8 then allocate heap (.string bytes) else throwMessage heap "Invalid UTF-8"

/-- A new error takes over the unit of its message, whatever that is. -/
def newError (heap : HeapId) (mess : Handle) : Bridge ObjectId := allocate heap (.error mess)

/-- Appends an item, whose unit the vector takes over. Anything but a vector
gives the unit back and raises. -/
def push (heap : HeapId) (vector : ObjectId) (item : Handle) : Bridge Unit := do
  let object ← objectAt vector
  match object.payload with
  | .vector items =>
    changeStore fun store =>
      ((), store.set vector { object with payload := .vector (items.push item) })
  | _ =>
    let _ ← decrement heap item
    throwMessage heap "Not a Vector"

/-- Class and address, the text of an object that has no text of its own. -/
def identityText (origin : Nat) (className : String) (id : ObjectId) : String :=
  className ++ "@" ++ (Address.ofHandle origin (some id)).pointer

/-- One unit of a string with the object's text: the object itself, its message,
or a new string. -/
def toString (heap : HeapId) (id : ObjectId) : Bridge ObjectId := do
  let object ← objectAt id
  let identity (className : String) : Bridge ByteArray := do
    return (identityText (← get).origin className id).toUTF8
  match object.payload with
  | .string _ =>
    increment (some id)
    pure id
  | .error (some mess) =>
    increment (some mess)
    pure mess
  | .error none => allocate heap (.string "".toUTF8)
  | .bytes bytes =>
    if bytes.validateUTF8 then allocate heap (.string bytes) else throwMessage heap "Invalid UTF-8"
  | .vector _ => do allocate heap (.string (← identity vectorClass))
  | .plain name => do allocate heap (.string (← identity name))

/-- Hands the hooks to a heap. A second time changes nothing. -/
def boot (heap : HeapId) : Bridge Unit := do
  if (← heapAt heap).booted then report .alreadyBooted
  else modifyHeap heap fun counters => { counters with booted := true }

end CountBridge.Native
