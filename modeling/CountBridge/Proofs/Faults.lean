import Mathlib
import CountBridge.Proofs.Trapping

/-! Raising and trapping over all nestings. A native error gets to the innermost
operation that traps it, with the unit and the text it was raised with. -/

namespace CountBridge

open Bridge

/-- The bytes of an error's message, if there is such a string. -/
def Store.errorText (store : Store) (id : ObjectId) : Option ByteArray := do
  let err ← store.find? id
  let mess ← store.find? (← err.message)
  mess.stringBytes?

/-- The text that a string shows. Other objects show none. -/
def Object.shown (object : Object) : String := object.stringBytes?.elim "" Text.decode

def Store.shown (store : Store) (handle : Handle) : String := (handle.bind store.find?).elim "" Object.shown

/-- The text that an object is turned into, unless it is malformed bytes. For an error that is
what its message shows. -/
def World.reading (world : World) (id : ObjectId) (object : Object) : Option String :=
  match object.payload with
  | .string bytes => some (Text.decode bytes)
  | .error mess => some (world.store.shown mess)
  | .bytes bytes => if bytes.validateUTF8 then some (Text.decode bytes) else none
  | .vector _ => some (Native.identityText world.origin vectorClass id)
  | .plain name => some (Native.identityText world.origin name id)

def World.readingOf (world : World) (handle : Handle) : Option String :=
  handle.elim (some "") fun id => (world.store.find? id).bind (world.reading id)

/-- What an error tells: its message, whatever object that is, and what the message reads as. -/
def World.telling (world : World) (id : ObjectId) : Option (Handle × Option String) :=
  (world.store.find? id).map fun err => (err.message, world.readingOf err.message)

theorem Object.message_of_becomes {first last : Object} (becomes : first.payload.Becomes last.payload) :
    last.message = first.message := by
  obtain ⟨count, payload⟩ := first
  obtain ⟨count', payload'⟩ := last
  cases becomes <;> rfl

theorem Object.stringBytes?_of_becomes {first last : Object} (becomes : first.payload.Becomes last.payload) :
    last.stringBytes? = first.stringBytes? := by
  obtain ⟨count, payload⟩ := first
  obtain ⟨count', payload'⟩ := last
  cases becomes <;> rfl

namespace Store

variable {before after : Store} {id : ObjectId} {object : Object} {held held' : Multiset ObjectId}

theorem Exact.live_message (exact : Exact before held) (found : before.find? id = some object) {mess : ObjectId}
    (message : object.message = some mess) : ∃ other, before.find? mess = some other := by
  apply exact.live_of_mem
  rw [← owned_remove found, Multiset.mem_add, Multiset.mem_add]
  refine .inl (.inr ?_)
  obtain ⟨count, payload⟩ := object
  cases payload with
  | error handle =>
    cases message
    simp [Payload.units, Payload.slots]
  | plain className => cases message
  | string bytes => cases message
  | bytes bytes => cases message
  | vector items => cases message

/-- An object that lives on has come from itself. -/
theorem Continues.alike {last : Object} (continues : before.Continues after) (found : before.find? id = some object)
    (found' : after.find? id = some last) : object.payload.Becomes last.payload := by
  obtain ⟨earlier, present, becomes⟩ := continues.payload id last (lt_allocated_of_find? found) found'
  rw [found] at present
  cases present
  exact becomes

/-- What is held all the while keeps its text. -/
theorem Continues.errorText (continues : before.Continues after) (exact : Exact before held) (exact' : Exact after held')
    (member : id ∈ held) (member' : id ∈ held') : after.errorText id = before.errorText id := by
  obtain ⟨first, found⟩ := exact.live_of_held member
  obtain ⟨last, found'⟩ := exact'.live_of_held member'
  have same := Object.message_of_becomes (continues.alike found found')
  cases message : first.message with
  | none => simp [Store.errorText, found, found', same, message]
  | some mess =>
    obtain ⟨text, present⟩ := exact.live_message found message
    obtain ⟨text', present'⟩ := exact'.live_message found' (same.trans message)
    have bytes := Object.stringBytes?_of_becomes (continues.alike present present')
    simp [Store.errorText, found, found', same, message, present, present', bytes]

/-- The message of an error shows what it showed, as long as the error lives. -/
theorem Continues.shown_message {first last : Object} (continues : before.Continues after) (exact : Exact before held)
    (exact' : Exact after held') (found : before.find? id = some first) (found' : after.find? id = some last) :
    after.shown last.message = before.shown first.message := by
  rw [Object.message_of_becomes (continues.alike found found')]
  cases message : first.message with
  | none => rfl
  | some mess =>
    obtain ⟨text, present⟩ := exact.live_message found message
    obtain ⟨text', present'⟩ := exact'.live_message found'
      ((Object.message_of_becomes (continues.alike found found')).trans message)
    have bytes := Object.stringBytes?_of_becomes (continues.alike present present')
    simp [Store.shown, Object.shown, present, present', bytes]

end Store

namespace World

variable {before after : World} {id : ObjectId} {held held' : Multiset ObjectId} {first last : Object}

/-- A live object reads as it did: a vector that takes more items in shows none of them. -/
theorem Continues.reading (continues : before.Continues after) (exact : before.store.Exact held) (exact' : after.store.Exact held')
    (found : before.store.find? id = some first) (found' : after.store.find? id = some last) :
    after.reading id last = before.reading id first := by
  have becomes := continues.store.alike found found'
  have shown := continues.store.shown_message exact exact' found found'
  obtain ⟨count, payload⟩ := first
  obtain ⟨count', payload'⟩ := last
  cases becomes with
  | same =>
    cases payload with
    | error mess => exact congrArg some shown
    | plain | vector => simp only [World.reading, continues.origin]
    | string | bytes => rfl
  | grown => simp only [World.reading, continues.origin]

/-- What is held all the while tells the same, whatever its message is. -/
theorem Continues.telling (continues : before.Continues after) (exact : before.store.Exact held) (exact' : after.store.Exact held')
    (member : id ∈ held) (member' : id ∈ held') : after.telling id = before.telling id := by
  obtain ⟨first, found⟩ := exact.live_of_held member
  obtain ⟨last, found'⟩ := exact'.live_of_held member'
  have same := Object.message_of_becomes (continues.store.alike found found')
  suffices reads : after.readingOf first.message = before.readingOf first.message by
    simp [World.telling, found, found', same, reads]
  cases message : first.message with
  | none => rfl
  | some mess =>
    obtain ⟨text, present⟩ := exact.live_message found message
    obtain ⟨text', present'⟩ := exact'.live_message found' (same.trans message)
    simpa [World.readingOf, present, present'] using continues.reading exact exact' present present'

end World

namespace Program

variable {α : Type}

def Action.handsOver : Action → Bool
  | .raise _ | .throwHandle .. | .hostRaise .. => true
  | _ => false

def RaisedFrom (handle : Handle) (err : Wrapper) (before after : World) : Prop :=
  err.handle = handle ∧ ∃ journal, after = { before with journal }

variable {β : Type} {handle : Handle} {err : Wrapper} {world after : World}

theorem raised_hostRaise (left : ends (hostRaise handle : Bridge β) world = (.error (.native err), after)) :
    RaisedFrom handle err world after := by
  cases bound : world.binding? with
  | none =>
    rw [ends_hostRaise_unbound handle bound] at left
    cases left
  | some binding =>
    cases handle with
    | none =>
      rw [ends_hostRaise_null bound] at left
      cases left
    | some id =>
      rw [ends_hostRaise bound, ends_raise, Prod.mk.injEq] at left
      obtain ⟨same, rfl⟩ := left
      cases same
      exact ⟨rfl, _, rfl⟩

theorem raised_throwHandle {heap : HeapId}
    (left : ends (Native.throwHandle heap handle : Bridge β) world = (.error (.native err), after)) :
    RaisedFrom handle err world after := by
  have begun : ends (Native.throwHandle heap handle : Bridge β) world =
      ends (if (world.heaps[heap]?.getD {}).booted then hostRaise handle else fault .usedBeforeBoot) world := rfl
  rw [begun] at left
  split at left
  · exact raised_hostRaise left
  · rw [ends_fault_breach rfl] at left
    cases left

variable {s t : Session α} {payload : Unwind}

theorem refuse_returns (refusal : Refusal) (s : Session α) :
    ∃ after, ends (refuse refusal) s = (.ok (.refused refusal), after) := by
  rw [refuse]
  split
  · exact ⟨_, rfl⟩
  · exact ⟨_, rfl⟩

/-- What is spent is in hand while the rest is done. -/
theorem left_spending {next : Run α (Answer α)} (left : ends (spending handle next) s = (.error payload, t)) :
    ∃ between, ends next between = (.error payload, t) ∧ between.world = s.world ∧
      s.holdings = unitOf handle + between.holdings := by
  cases handle with
  | none => exact ⟨s, left, rfl, by simp⟩
  | some id =>
    have begun : ends (spending (some id) next) s = ends (if id ∈ s.units then do
        update fun session : Session α => { session with units := session.units.erase id }
        next
      else refuse .noUnit) s := rfl
    rw [begun] at left
    split at left
    next member =>
      refine ⟨_, left, rfl, ?_⟩
      simp only [Session.holdings, unitOf_some, ← Multiset.coe_erase]
      rw [← add_assoc, Multiset.singleton_add, Multiset.cons_erase (Multiset.mem_coe.mpr member)]
    next =>
      obtain ⟨after, refused⟩ := refuse_returns .noUnit s
      rw [refused] at left
      cases left

theorem left_withHeap {name : Name} {next : HeapId → Run α (Answer α)}
    (left : ends (withHeap name next) s = (.error payload, t)) : ∃ heap, ends (next heap) s = (.error payload, t) := by
  rw [ends_withHeap] at left
  split at left
  next heap _ => exact ⟨heap, left⟩
  next =>
    obtain ⟨after, refused⟩ := refuse_returns .noSuchHeap s
    rw [refused] at left
    cases left

theorem left_withHandle {name : Name} {next : Handle → Run α (Answer α)}
    (left : ends (withHandle name next) s = (.error payload, t)) : ∃ handle, ends (next handle) s = (.error payload, t) := by
  rw [ends_withHandle] at left
  split at left
  next handle _ => exact ⟨handle, left⟩
  next refusal _ =>
    obtain ⟨after, refused⟩ := refuse_returns refusal s
    rw [refused] at left
    cases left

theorem left_withWrapper {name : Name} {next : Wrapper → Run α (Answer α)}
    (left : ends (withWrapper name next) s = (.error payload, t)) :
    ∃ found, findWrapper name s.frames = some found ∧ ends (next found) s = (.error payload, t) := by
  rw [ends_withWrapper] at left
  split at left
  next found there => exact ⟨found, there, left⟩
  next =>
    obtain ⟨after, refused⟩ := refuse_returns .noSuchWrapper s
    rw [refused] at left
    cases left

theorem left_taking {name : Name} {next : Wrapper → Run α (Answer α)} (left : ends (taking name next) s = (.error payload, t)) :
    ∃ taken frames, takeWrapper name s.frames = some (taken, frames) ∧
      ends (next taken) { s with frames } = (.error payload, t) := by
  rw [ends_taking] at left
  split at left
  next taken frames there => exact ⟨taken, frames, there, left⟩
  next =>
    obtain ⟨after, refused⟩ := refuse_returns .noSuchWrapper s
    rw [refused] at left
    cases left

theorem left_recorded {name : String} {routine : Run α (Answer α)} (left : ends (recorded name routine) s = (.error payload, t)) :
    ∃ after, ends routine s = (.error payload, after) ∧ t = after.addStep name .unwound := by
  rw [recorded, ends_bind, ends_outcomeOf] at left
  rcases ended : ends routine s with ⟨outcome, after⟩
  rw [ended] at left
  cases outcome with
  | ok answer => cases left
  | error payload => cases left; exact ⟨after, rfl, rfl⟩

/-- Raising moves one unit of the error from where the program has it to what unwinds; no unit
of any object is added or dropped. -/
structure Session.HandedOver (before after : Session α) (err : Wrapper) : Prop where
  store : after.world.store = before.world.store
  queued : after.world.queued = before.world.queued
  holdings : before.holdings = unitOf err.handle + after.holdings

theorem handedOver_lift {action : Bridge (Answer α)} {between : Session α}
    (raised : ∀ after, ends action s.world = (.error (.native err), after) → RaisedFrom handle err s.world after)
    (left : ends (lift action : Run α (Answer α)) between = (.error (.native err), t)) (world : between.world = s.world)
    (spent : s.holdings = unitOf handle + between.holdings) (name : String) :
    s.HandedOver (t.addStep name .unwound) err := by
  rw [ends_lift, Prod.mk.injEq, world] at left
  obtain ⟨ended, rfl⟩ := left
  obtain ⟨rfl, journal, same⟩ := raised _ (Prod.ext ended rfl)
  refine ⟨?_, ?_, spent⟩
  · simp only [Session.addStep, same]
  · simp only [Session.addStep, same]
    rfl

theorem handedOver_of_handsOver {action : Action} (hands : action.handsOver = true)
    (left : ends (runOp (.act action)) s = (.error (.native err), t)) : s.HandedOver t err := by
  rw [runOp] at left
  obtain ⟨after, performed, rfl⟩ := left_recorded left
  clear left
  cases action with
  | throwHandle name given =>
    obtain ⟨heap, performed⟩ := left_withHeap performed
    obtain ⟨handle, performed⟩ := left_withHandle performed
    obtain ⟨between, performed, world, spent⟩ := left_spending performed
    exact handedOver_lift (fun _ => raised_throwHandle) performed world spent _
  | hostRaise name given =>
    obtain ⟨heap, performed⟩ := left_withHeap performed
    obtain ⟨handle, performed⟩ := left_withHandle performed
    obtain ⟨between, performed, world, spent⟩ := left_spending performed
    exact handedOver_lift (fun _ => raised_hostRaise) performed world spent _
  | raise name =>
    obtain ⟨found, -, performed⟩ := left_withWrapper performed
    split at performed
    next =>
      obtain ⟨taken, frames, there, performed⟩ := left_taking performed
      have raised (after : World) (ended : ends (raise taken : Bridge (Answer α)) s.world = (.error (.native err), after)) :
          RaisedFrom taken.handle err s.world after := by
        rw [ends_raise] at ended
        cases ended
        exact ⟨rfl, _, rfl⟩
      refine handedOver_lift raised performed rfl ?_ _
      simp only [Session.holdings, contents_take there, unitsIn_add, unitsIn_singleton]
      abel
    next =>
      obtain ⟨after, refused⟩ := refuse_returns .notAnError s
      rw [refused] at performed
      cases performed
  | _ => cases hands

/-- What unwinds arrives at an operation that stops it, as it was raised: the accounts are exact
with its unit in hand, its message is the same object, and reads the same. Trapping takes it from
there as it is. -/
structure Delivered (op : Op α) (begun : Session α) (payload : Unwind) (raised arrived last : Session α)
    (answer : Answer α) : Prop where
  arrives : ends (asRoutine (runBody op.body)) begun = (.error payload, arrived)
  exact : arrived.world.store.Exact (arrived.world.queued + (arrived.holdings + payload.units))
  text : ∀ id ∈ payload.units, arrived.world.store.errorText id = raised.world.store.errorText id
  telling : ∀ id ∈ payload.units, arrived.world.telling id = raised.world.telling id
  trapped : ∀ err, payload = .native err → ends (trap (asRoutine (runBody op.body))) begun = (.ok (.error err), arrived.noted err)
  hostTrapped : ∀ err, payload = .native err →
    ends (hostTrap (asRoutine (runBody op.body))) begun = (.ok err.handle, arrived.noted err)
  ended : ends (runOp op) begun = (.ok (), last.addStep op.name answer)
  tells : answer.tells payload

variable {program : List (Op α)} {above between : List (Op α × Session α)} {op inner : Op α} {start raised : Session α}

theorem Begun.delivered (start_fair : Fair false 0 start) (begun : Begun program start (between ++ (op, s) :: above) inner t)
    (left : ends (runOp inner) t = (.error payload, raised))
    (passes : ∀ enclosing ∈ between, enclosing.1.stops payload = false) (stops : op.stops payload = true)
    (quiet : (ends (runOp op) s).2.Quiet) : ∃ arrived last answer, Delivered op s payload raised arrived last answer := by
  obtain ⟨entered, count, u, entry, ran, passed⟩ := begun.reaches start_fair left passes quiet
  obtain ⟨arrived, last, answer, arrives, fair, onward', ended, tells⟩ :=
    begun.outer.stopped start_fair entry ran stops quiet
  have calm : raised.Quiet := by
    have order := begun.order_end
    rw [left] at order
    exact Session.course.quiet_of_order order quiet
  obtain ⟨bound, -, linked⟩ := begun.fair_end start_fair left calm
  obtain ⟨bound', -, linked'⟩ := fair
  have exact := linked.world.sound.exact
  have exact' := linked'.world.sound.exact
  have continues : raised.world.Continues arrived.world := Session.course.trans passed.order onward'
  have aloft {id : ObjectId} (member : id ∈ payload.units) (queued held : Multiset ObjectId) :
      id ∈ queued + (held + payload.units) := Multiset.mem_add.mpr (.inr (Multiset.mem_add.mpr (.inr member)))
  refine ⟨arrived, last, answer, arrives, exact', fun id member => ?_, fun id member => ?_, ?_, ?_, ended, tells⟩
  · exact continues.store.errorText exact exact' (aloft member _ _) (aloft member _ _)
  · exact continues.telling exact exact' (aloft member _ _) (aloft member _ _)
  · rintro err rfl
    exact ends_trap_native arrives
  · rintro err rfl
    exact ends_hostTrap_native arrives

/-- Whatever unwinds out of an operation passes each operation above that does not stop it, and
ends at the innermost that does: a native error at the innermost trap, anything else not
before the end of a thread. What is not left so answers with its own value, and raising an
object only hands its unit over. -/
theorem Begun.fault_reaches_innermost_trap (origin : Nat) (watched : Bool)
    (begun : Begun program (Session.start α origin watched) above op s)
    (fits : (ends (runOp op) s).2.world.turnedOver = false) (lawful : (ends (runOp op) s).2.world.breached = false) :
    (∀ between inner t payload raised,
      Begun program (Session.start α origin watched) (between ++ (op, s) :: above) inner t →
      ends (runOp inner) t = (.error payload, raised) →
      (∀ enclosing ∈ between, enclosing.1.stops payload = false) →
      if op.stops payload then ∃ arrived last answer, Delivered op s payload raised arrived last answer
      else ∃ last, ends (runOp op) s = (.error payload, last)) ∧
    (∀ entered count after, op.entry? s = some entered →
      ends (runBody op.body) entered = (.ok ⟨count, .ok ()⟩, after) →
      ∃ (last : Session α) (answer : Answer α), ends (runOp op) s = (.ok (), last.addStep op.name answer) ∧
        op.completes count answer) ∧
    ∀ action err after, op = .act action → action.handsOver = true →
      ends (runOp op) s = (.error (.native err), after) → s.HandedOver after err := by
  have fair := fair_start (α := α) origin watched
  have quiet : (ends (runOp op) s).2.Quiet := ⟨fits, lawful⟩
  refine ⟨fun between inner t payload raised beneath left passes => ?_, fun entered count after entry ran => ?_, ?_⟩
  · split
    next stops => exact beneath.delivered fair left passes stops quiet
    next unstopped =>
      obtain ⟨entered, count, u, entry, ran, -⟩ := beneath.reaches fair left passes quiet
      obtain ⟨-, last, -, -, -, unwound⟩ := begun.leaves fair entry ran (eq_false_of_ne_true unstopped) quiet
      exact ⟨_, unwound⟩
  · exact begun.completes fair entry ran quiet
  · rintro action err after rfl hands left
    exact handedOver_of_handsOver hands left

/-- An error is raised in a scope within the body of a native trap. -/
theorem Begun.fault_reaches_innermost_trap_scope :
    let start := Session.start Unit Address.spacing false
    let earlier : List (Op Unit) := [.act (.bootstrap mainHeap {} hookVersion), .act (.makeError "boom" (some "e"))]
    let op : Op Unit := .hostTrap mainHeap [.scope [.act (.raise "e")]] (some "h")
    ∃ s raised arrived last answer, Begun (earlier ++ [op]) start [] op s ∧
      Delivered op s (.native ⟨.error, some 1⟩) raised arrived last answer := by
  intro start earlier op
  have ran : (ends (runEach earlier) start).1 = .ok () := by cbv
  have heap : lookup mainHeap (ends (runEach earlier) start).2.heaps = some 0 := by cbv
  have left : (ends (runOp (.act (.raise "e"))) (((ends (runEach earlier) start).2.opened {}).opened {})).1 =
      .error (.native ⟨.error, some 1⟩) := by cbv
  have fits : (ends (runOp op) (ends (runEach earlier) start).2).2.world.turnedOver = false := by cbv
  have lawful : (ends (runOp op) (ends (runEach earlier) start).2).2.world.breached = false := by cbv
  rcases making : ends (runEach earlier) start with ⟨outcome, s⟩
  rw [making] at ran heap left fits lawful
  cases ran
  rcases raising : ends (runOp (.act (.raise "e"))) ((s.opened {}).opened {}) with ⟨outcome, raised⟩
  rw [raising] at left
  cases left
  have begun : Begun (earlier ++ [op]) start [] op s := .top (.of_runEach making)
  have entry : op.entry? s = some (s.opened {}) := by
    change (lookup mainHeap s.heaps).map _ = _
    rw [heap]
    rfl
  have beneath : Begun (earlier ++ [op]) start [(.scope [.act (.raise "e")], s.opened {}), (op, s)] (.act (.raise "e"))
      ((s.opened {}).opened {}) := .inside (.inside begun entry .here) rfl .here
  have fact := begun.fault_reaches_innermost_trap Address.spacing false fits lawful
  obtain ⟨arrived, last, answer, delivered⟩ :=
    fact.1 [(.scope [.act (.raise "e")], s.opened {})] _ _ _ _ beneath raising (by simp [Op.stops])
  exact ⟨s, raised, arrived, last, answer, begun, delivered⟩

end Program

end CountBridge
