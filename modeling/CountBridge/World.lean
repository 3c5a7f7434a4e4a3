import CountBridge.Error
import CountBridge.Journal
import CountBridge.Queue
import CountBridge.Store.GiveBack
import CountBridge.Wrapper

/-!
The state that native code and host code share, and computations over it that
may unwind. State survives unwinding: what a routine did before it was left
stays done.
-/

namespace CountBridge

abbrev HeapId := Nat

/-- The counters of one heap, words that wrap. Objects may be given back through
another heap than the one that made them, so even few of them may do that. -/
structure Heap where
  live : UInt64 := 0
  allocated : UInt64 := 0
  booted : Bool := false
deriving DecidableEq, Repr, Inhabited

namespace Heap

/-- How many objects the heap tells that it allocated. -/
def total (heap : Heap) : Nat := heap.allocated.toNat

def outline (heap : Heap) : Text.Outline :=
  .record "LocalHeap"
    [("live", .number heap.live.toNat), ("total_allocated", .number heap.total),
      ("booted", .flag heap.booted)] true

def allocate (heap : Heap) : Heap := { heap with live := heap.live + 1, allocated := heap.allocated + 1 }

def destroy (heap : Heap) (count : Nat) : Heap :=
  { heap with live := heap.live - UInt64.ofNat count }

end Heap

/-- The object system that was bound, once and for all. -/
structure Binding where
  heap : HeapId
  config : Config
  queue : Queue ObjectId := {}
deriving DecidableEq, Repr

def Binding.outline (binding : Binding) : Text.Outline :=
  .record "Runtime" [("config", binding.config.outline), ("deferred", binding.queue.outline)] false

/-- Answers that stand in for those of the bound system, as the bridge sees it. -/
structure Stubs where
  isString : Option Bool := none
  stringBytes : Option (Option ByteArray × Nat) := none

structure World where
  /-- Where the first object lies. -/
  origin : Nat := Address.spacing
  store : Store := {}
  heaps : Array Heap := #[]
  binding? : Option Binding := none
  stubs : Stubs := {}
  /-- Whether some object was ever given a unit more than its counter can tell. -/
  turnedOver : Bool := false
  /-- Whether a caller ever broke a condition of the library: used a handle of a destroyed
  object, or had native code raise before it could. -/
  breached : Bool := false
  journal : Array Entry := #[]

/-- Failures that end a routine with a text of the bridge's own. -/
inductive Fault where
  | usedBeforeBoot
  | noRuntime (err : Handle)
  | invalidError
  | unbound
  | misuse (cause : Misuse)
deriving DecidableEq, Repr

/-- Faults that only a caller meets who broke a condition of the library. -/
def Fault.isBreach : Fault → Bool
  | .usedBeforeBoot | .noRuntime _ | .misuse (.dangling _) => true
  | .invalidError | .unbound | .misuse (.underflow _) => false

/-- Text of a fault, given how a handle is written. -/
def Fault.message (shown : Handle → String) : Fault → String
  | .usedBeforeBoot => "LocalHeap used before boot"
  | .noRuntime err =>
    "native error " ++ shown err ++ " raised with no runtime: " ++ BridgeError.notBootstrapped.message
  | .invalidError => "native code raised an invalid error: " ++ BridgeError.nullHandle.message
  | .unbound => BridgeError.notBootstrapped.message
  | .misuse (.underflow id) => "refcount underflow on " ++ shown (some id)
  | .misuse (.dangling id) => "dangling handle " ++ shown (some id)

/-- What travels outward while a routine is left: a native error, or a payload
that no trap may touch. -/
inductive Unwind where
  | native (err : Wrapper)
  | text (message : String)
  | number (value : Int)
  | fault (cause : Fault)
deriving DecidableEq, Repr

abbrev Bridge (α : Type) := ExceptT Unwind (StateM World) α

namespace Bridge

def record (entry : Entry) : Bridge Unit :=
  modify fun world => { world with journal := world.journal.push entry }

def report (event : Event) : Bridge Unit := record (.event event)

/-- Carries an action out, but keeps nothing of it in the journal. -/
def unrecorded (action : Bridge α) : Bridge α := fun world =>
  let recorded := world.journal.size
  let (outcome, world) := action.run world
  (outcome, { world with journal := world.journal.shrink recorded })

/-- Takes note that a condition was broken. Nobody in the program can tell. -/
def breach : Bridge Unit := modify fun world => { world with breached := true }

def fault (cause : Fault) : Bridge α := do
  if cause.isBreach then breach
  throw (.fault cause)

/-- Changes the store, and answers with what else comes of that. -/
@[inline] def changeStore (change : Store → α × Store) : Bridge α :=
  modifyGet fun world =>
    let (answer, store) := change world.store
    (answer, { world with store })

def modifyHeap (heap : HeapId) (change : Heap → Heap) : Bridge Unit :=
  modify fun world => { world with heaps := world.heaps.modify heap change }

def heapAt (heap : HeapId) : Bridge Heap := return (← get).heaps[heap]?.getD {}

/-- The object a handle points at; pointing at a destroyed one is a misuse. -/
def objectAt (id : ObjectId) : Bridge Object := do
  match (← get).store.find? id with
  | some object => pure object
  | none => fault (.misuse (.dangling id))

def binding : Bridge Binding := do
  match (← get).binding? with
  | some binding => pure binding
  | none => fault .unbound

def modifyQueue (change : Queue ObjectId → Queue ObjectId) : Bridge Unit :=
  modify fun world =>
    { world with
      binding? := world.binding?.map fun binding => { binding with queue := change binding.queue } }

end Bridge

end CountBridge
