import CountBridge.Bootstrap

/-!
Binding attempts that run at the same time. What can be checked alone is checked
without the lock; whether something was published, the boot and the publication
happen while the lock is held. Each of these is a step of its own.
-/

namespace CountBridge.Bootstrap

structure Contender where
  config : Config := {}
  version : UInt32 := hookVersion
  heap : HeapId
deriving DecidableEq, Repr

/-- Where an attempt stands. -/
inductive Point where
  | validating
  | asking
  | waiting
  | inspecting
  | booting
  | publishing
  | leaving (outcome : Except BridgeError Unit)
  | finished (outcome : Except BridgeError Unit)

structure Race where
  contenders : Array Contender
  points : Array Point
  booted : Array Bool
  published : Option Nat := none
  holder : Option Nat := none

/-- What a step did to the systems and to the world. -/
inductive Label where
  | checked
  | locked
  | booted (heap : HeapId)
  | published (contender : Nat)
  | refused
  | left
deriving DecidableEq, Repr

namespace Race

def moveTo (race : Race) (contender : Nat) (point : Point) : Race :=
  { race with points := race.points.setIfInBounds contender point }

/-- One step of one attempt, if it can move. -/
def step (race : Race) (index : Nat) : Option (Label × Race) :=
  match race.contenders[index]?, race.points[index]? with
  | some contender, some point =>
    match point with
    | .validating =>
      match contender.config.validate with
      | .ok _ => some (.checked, race.moveTo index .asking)
      | .error error => some (.checked, race.moveTo index (.finished (.error (.config error))))
    | .asking =>
      match checkVersion contender.version with
      | .ok () => some (.checked, race.moveTo index .waiting)
      | .error error => some (.checked, race.moveTo index (.finished (.error error)))
    | .waiting =>
      if race.holder.isNone then
        some (.locked, { race with holder := some index }.moveTo index .inspecting)
      else none
    | .inspecting =>
      let after := if race.published.isSome then .leaving (.error .alreadyBootstrapped) else .booting
      some (.checked, race.moveTo index after)
    | .booting =>
      some (.booted contender.heap,
        { race with booted := race.booted.setIfInBounds contender.heap true }.moveTo index .publishing)
    | .publishing =>
      if race.published.isSome then
        some (.refused, race.moveTo index (.leaving (.error .alreadyBootstrapped)))
      else
        some (.published index, { race with published := some index }.moveTo index (.leaving (.ok ())))
    | .leaving outcome =>
      some (.left, { race with holder := none }.moveTo index (.finished outcome))
    | .finished _ => none
  | _, _ => none

/-- Follows a schedule; an attempt whose turn comes while it cannot move passes. -/
def run (race : Race) (schedule : List Nat) : Race :=
  schedule.foldl (fun current index =>
    match current.step index with
    | some (_, next) => next
    | none => current) race

/-- Attempts about to begin, on heaps of which none is booted. -/
def start (contenders : List Contender) (heaps : Nat) : Race where
  contenders := contenders.toArray
  points := (contenders.map fun _ => Point.validating).toArray
  booted := Array.replicate heaps false

/-- How an attempt ended and whether its heap is booted. -/
def result? (race : Race) (index : Nat) : Option (Except BridgeError Unit × Bool) := do
  let contender ← race.contenders[index]?
  match ← race.points[index]? with
  | .finished outcome => some (outcome, race.booted[contender.heap]?.getD false)
  | _ => none

/-- Attempts of one configuration on a fresh heap each, one after the other; no
attempt takes more than seven steps. -/
def ofFreshHeaps (config : Config) (count : Nat) : Race :=
  let contenders := (List.range count).map fun heap => { config, heap }
  (start contenders count).run ((List.range count).flatMap (List.replicate 7))

end Race

end CountBridge.Bootstrap
