import CountBridge.Program.Resolve

/-!
The operations without a body: each resolves its names and then does what the
bridge, or the object system itself, does.
-/

namespace CountBridge.Program

open Bridge

variable {α β : Type}

/-- One of many repetitions. What they leave in the journal is kept only if the run is
watched, so that much can be repeated. -/
def repetition (watched : Bool) (action : Bridge β) : Bridge β :=
  if watched then action else unrecorded action

def repeatedly (watched : Bool) (count : Nat) (action : Bridge Unit) : Bridge Unit := do
  match count with
  | 0 => pure ()
  | count + 1 =>
    repetition watched action
    repeatedly watched count action

def countOf (id : ObjectId) : Bridge Nat :=
  return (((← get).store.find? id).map (·.count.toNat)).getD 0

/-- Takes a number of further units, all held at once, then drops them one by one.
Answers with the counts in between and in the end. -/
def burst (watched : Bool) (id : ObjectId) (count : Nat) : Bridge (Nat × Nat) := do
  repeatedly watched count do
    let _ ← Wrapper.retain .object (some id)
  let during ← countOf id
  repeatedly watched count (Wrapper.drop ⟨.object, some id⟩)
  return (during, ← countOf id)

/-- Clones a wrapper a number of times, and tells whether every clone equals it. -/
def cloneRepeatedly (watched : Bool) (wrapper : Wrapper) (count : Nat) (equal : Bool) :
    Bridge Bool := do
  match count with
  | 0 => pure equal
  | count + 1 =>
    let copy ← repetition watched wrapper.clone
    cloneRepeatedly watched wrapper count (equal && copy.same wrapper)

/-- What threads do that each take a unit, clone its wrapper, and drop all. -/
def hammer (watched : Bool) (id : ObjectId) (count threads : Nat) (equal : Bool) :
    Bridge (Bool × Nat) := do
  match threads with
  | 0 => return (equal, ← countOf id)
  | threads + 1 =>
    let wrapper : Wrapper := ⟨.object, some id⟩
    let _ ← repetition watched (Wrapper.retain wrapper.kind wrapper.handle)
    let equal ← cloneRepeatedly watched wrapper count equal
    repeatedly watched (count + 1) wrapper.drop
    hammer watched id count threads equal

/-- Both readings of a wrapper's text: the one that may fail, then the one that
answers with nothing instead. -/
def readTwice (wrapper : Wrapper) : Bridge (Except Wrapper String × String) := do
  if wrapper.kind = .text then
    let first ← extractText wrapper.handle
    return (first, ← wrapper.display)
  else
    let first ← wrapper.tryMessage
    return (first, ← wrapper.message)

/-- The text of a string object, as its heap has it. -/
def ownText (id : ObjectId) : Bridge (Option String) := do
  return ((← get).store.find? id).bind fun object => object.stringBytes?.map Text.decode

def perform : Action → Run α (Answer α)
  | .openHeap name => do
    update fun session =>
      { session with
        heaps := (name, session.world.heaps.size) :: session.heaps
        world := { session.world with heaps := session.world.heaps.push {} } }
    pure .done
  | .boot heap => withHeap heap fun heap => do
    Native.boot heap
    pure .done
  | .heapInfo heap => withHeap heap fun heap => return .heap (← Bridge.heapAt heap)
  | .newPlain heap className keep => withHeap heap fun heap => do
    keepUnit keep (some (← Native.allocate heap (.plain className)))
  | .newBytes heap bytes keep => withHeap heap fun heap => do
    keepUnit keep (some (← Native.allocate heap (.bytes bytes)))
  | .newVector heap keep => withHeap heap fun heap => do
    keepUnit keep (some (← Native.allocate heap (.vector #[])))
  | .newString heap bytes keep => withHeap heap fun heap => do
    keepUnit keep (some (← Native.newString heap bytes))
  | .newError heap mess keep => withHeap heap fun heap => withHandle mess fun mess =>
    spending mess do keepUnit keep (some (← Native.newError heap mess))
  | .increment heap handle => withHeap heap fun _ => withHandle handle fun handle => do
    Native.increment handle
    update fun session => session.gain handle
    let count ← match handle with
      | some id => pure (← Bridge.objectAt id).count.toNat
      | none => pure 0
    pure (.counted handle count)
  | .decrement heap handle => withHeap heap fun heap => withHandle handle fun handle =>
    spending handle do return .remaining (← Native.decrement heap handle).toNat
  | .push heap vector item => withHeap heap fun heap => withLive vector fun vector =>
    withHandle item fun item => spending item do
      Native.push heap vector item
      return .length (← Bridge.objectAt vector).itemCount
  | .look heap handle => withHeap heap fun _ => withLive handle fun id =>
    return .object id (← Bridge.objectAt id)
  | .alive heap handle => withHeap heap fun _ => do
    match (← session).meaning? handle with
    | none => refuse .noSuchHandle
    | some found => return .alive (found.any (← session).world.store.isLive)
  | .toString heap handle keep => withHeap heap fun heap => withLive handle fun id => do
    let result ← Native.toString heap id
    let text ← ownText result
    let _ ← keepUnit keep (some result)
    pure (.coerced result (result == id) text)
  | .messageOf heap handle keep => withHeap heap fun _ => withLive handle fun id => do
    keepHandle keep (← Bridge.objectAt id).message
  | .throwHandle heap handle => withHeap heap fun heap => withHandle handle fun handle =>
    spending handle (Native.throwHandle heap handle)
  | .hostRaise heap handle => withHeap heap fun _ => withHandle handle fun handle =>
    spending handle (hostRaise handle)
  | .throwMessage heap given => withHeap heap fun heap => Native.throwMessage heap given
  | .bootstrap heap config version => withHeap heap fun heap => do
    match ← bootstrap heap config version with
    | .ok config => pure (.bound config)
    | .error error => pure (.failed error)
  | .current => withBinding fun _ => pure .current
  | .bindingInfo => withBinding fun binding => pure (.binding binding)
  | .collect => withBinding fun _ => return .collected (← collect)
  | .makeString given keep => withBinding fun _ => do keepMade keep (← newString given)
  | .makeError given keep => withBinding fun _ => do keepMade keep (.ok (← newError given))
  | .extract handle keep => withHandle handle fun handle => withBinding fun _ => do
    match ← extractText handle with
    | .ok text => pure (.text text)
    | .error err => return .caught (← caught keep err)
  | .stub stubs => do
    update fun session => { session with world := { session.world with stubs } }
    pure .done
  | .burst handle count => withLive handle fun id => withBinding fun _ => do
    let (during, after) ← burst (← session).watched id count
    pure (.burst during after)
  | .hammer handle threads count => withLive handle fun id => withBinding fun _ => do
    let (equal, after) ← hammer (← session).watched id count threads true
    pure (.hammered equal after)
  | .adopt kind handle keep => withHandle handle fun handle => withBinding fun _ =>
    spending handle (keepMade keep (Wrapper.adopt kind handle))
  | .ofRaw kind handle keep => withHandle handle fun handle => withBinding fun _ =>
    spending handle do
      match Wrapper.ofRaw? kind handle with
      | some wrapper =>
        Bridge.record (.shown wrapper.handle)
        keepWrapper keep wrapper
      | none => pure ()
      pure (.optional handle)
  | .retain handle keep => withHandle handle fun handle => withBinding fun _ => do
    keepMade keep (← Wrapper.retain .object handle)
  | .convert wrapper kind => taking wrapper fun taken => do
    let converted := taken.convert kind
    keepWrapper (some wrapper) converted
    pure (.converted converted)
  | .intoRaw wrapper keep => taking wrapper fun taken => keepUnit keep taken.handle
  | .handleOf wrapper keep => withWrapper wrapper fun found => keepHandle keep found.handle
  | .release wrapper => withWrapper wrapper fun found => do
    update fun session =>
      { session with frames := replaceWrapper wrapper found.released session.frames }
    return .released (← found.release)
  | .clone wrapper keep => withWrapper wrapper fun found => do
    keepMade keep (.ok (← found.clone))
  | .dropWrapper wrapper => taking wrapper fun taken => do
    taken.drop
    pure .done
  | .inspect wrapper => withWrapper wrapper fun found => do
    Bridge.record (.shown found.handle)
    return .wrapper found (← found.className)
  | .text wrapper => withWrapper wrapper fun found => do
    if found.kind = .text ∨ found.kind = .error then
      let (first, display) ← readTwice found
      match first with
      | .ok text => pure (.texts (.ok text) display)
      | .error err => return .texts (.error (← caught none err)) display
    else refuse .noText
  | .message wrapper => withWrapper wrapper fun found => do
    if found.kind = .error then return .text (← found.message) else refuse .notAnError
  | .compare first second => withWrapper second fun second => withWrapper first fun first =>
    pure (.compared (first.same second))
  | .raise wrapper => withWrapper wrapper fun found => do
    if found.kind = .error then taking wrapper fun taken => raise taken
    else refuse .notAnError
  | .panicText given => throw (.text given)
  | .panicNumber value => throw (.number value)

end CountBridge.Program
