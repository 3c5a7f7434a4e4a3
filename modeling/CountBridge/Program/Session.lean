import CountBridge.Message
import CountBridge.Bootstrap
import CountBridge.Program.Answer

/-!
The state of a running program: the world, what its names mean, the units it
owns itself, and its open scopes with the wrappers they hold.
-/

namespace CountBridge.Program

/-- An open scope, with its wrappers from the newest to the oldest. A guard is a
wrapper that is released when the scope is left, in whichever way. -/
structure Frame where
  guard? : Option Wrapper := none
  wrappers : List (Name × Wrapper) := []
deriving DecidableEq, Repr

structure Session (α : Type) where
  world : World
  /-- Whether the calls or events of the run are to be seen. -/
  watched : Bool
  heaps : List (Name × HeapId)
  handles : List (Name × Handle) := []
  /-- One entry for each unit that belongs to the program itself. -/
  units : List ObjectId := []
  /-- The open scopes from the innermost to the outermost. -/
  frames : List Frame := [{}]
  steps : Array (Step α) := #[]

def mainHeap : Name := "main"

def nullName : Name := "null"

/-- One heap that is not booted, and nothing bound. -/
def Session.start (α : Type) (origin : Nat) (watched : Bool) : Session α where
  world := { origin, heaps := #[{}] }
  watched
  heaps := [(mainHeap, 0)]

abbrev Run (α : Type) (β : Type) := ExceptT Unwind (StateM (Session α)) β

/-- What happens to the world leaves the names, units and scopes alone. -/
def lift (action : Bridge β) : Run α β := fun session =>
  let { world, watched, heaps, handles, units, frames, steps } := session
  let (outcome, world) := action.run world
  (outcome, { world, watched, heaps, handles, units, frames, steps })

instance : MonadLift Bridge (Run α) := ⟨lift⟩

def session : Run α (Session α) := getThe (Session α)

def update (change : Session α → Session α) : Run α Unit := modifyThe (Session α) change

/-- Looks up the newest entry of a name. -/
def lookup (name : Name) : List (Name × β) → Option β
  | [] => none
  | (other, found) :: rest => if other = name then some found else lookup name rest

/-- Takes the newest entry of a name out. -/
def takeOut (name : Name) : List (Name × β) → Option (β × List (Name × β))
  | [] => none
  | (other, found) :: rest =>
    if other = name then some (found, rest)
    else (takeOut name rest).map fun (value, kept) => (value, (other, found) :: kept)

/-- Puts another value in place of the newest entry of a name. -/
def exchange (name : Name) (replacement : β) : List (Name × β) → Option (List (Name × β))
  | [] => none
  | (other, found) :: rest =>
    if other = name then some ((other, replacement) :: rest)
    else (exchange name replacement rest).map ((other, found) :: ·)

/-- The newest wrapper of a name in the innermost scope that has one. -/
def findWrapper (name : Name) : List Frame → Option Wrapper
  | [] => none
  | frame :: outer =>
    match lookup name frame.wrappers with
    | some wrapper => some wrapper
    | none => findWrapper name outer

def takeWrapper (name : Name) : List Frame → Option (Wrapper × List Frame)
  | [] => none
  | frame :: outer =>
    match takeOut name frame.wrappers with
    | some (wrapper, wrappers) => some (wrapper, { frame with wrappers } :: outer)
    | none => (takeWrapper name outer).map fun (wrapper, frames) => (wrapper, frame :: frames)

def replaceWrapper (name : Name) (wrapper : Wrapper) : List Frame → List Frame
  | [] => []
  | frame :: outer =>
    match exchange name wrapper frame.wrappers with
    | some wrappers => { frame with wrappers } :: outer
    | none => frame :: replaceWrapper name wrapper outer

/-- Puts a wrapper into the innermost scope. -/
def storeWrapper (name : Name) (wrapper : Wrapper) : List Frame → List Frame
  | [] => [{ wrappers := [(name, wrapper)] }]
  | frame :: outer => { frame with wrappers := (name, wrapper) :: frame.wrappers } :: outer

namespace Session

variable {α : Type}

def bindHandle (session : Session α) (keep : Option Name) (handle : Handle) : Session α :=
  match keep with
  | some name => { session with handles := (name, handle) :: session.handles }
  | none => session

/-- The program comes to own a unit; null has none. -/
def gain (session : Session α) (handle : Handle) : Session α :=
  match handle with
  | some id => { session with units := id :: session.units }
  | none => session

/-- What a handle name means, whether or not the object still lives. -/
def meaning? (session : Session α) (name : Name) : Option Handle :=
  if name = nullName then some none else lookup name session.handles

/-- What a handle name means, if it can be used: null, or a live object. -/
def handleNamed (session : Session α) (name : Name) : Except Refusal Handle :=
  match session.meaning? name with
  | none => .error .noSuchHandle
  | some none => .ok none
  | some (some id) =>
    if session.world.store.isLive id then .ok (some id) else .error .deadHandle

/-- Counters of the heap that every step shows. -/
def mainCounters (session : Session α) : Heap :=
  ((lookup mainHeap session.heaps).bind fun heap => session.world.heaps[heap]?).getD {}

/-- Closes a step over everything observed since the step before. -/
def addStep (session : Session α) (op : String) (answer : Answer α) : Session α :=
  let counters := session.mainCounters
  { session with
    world := { session.world with journal := #[] }
    steps := session.steps.push {
      op, answer
      live := counters.live
      total := counters.total
      pending := session.world.binding?.map (·.queue.pending)
      journal := session.world.journal } }

end Session

end CountBridge.Program
