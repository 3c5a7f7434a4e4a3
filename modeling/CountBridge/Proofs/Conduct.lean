import CountBridge.Proofs.Nesting

/-! What the bridge owes and is owed. On one side stand the calls that it makes on
the bound system, and a ledger of the units that it took over, gave up and handed
out; on the other what callers and native code owe it in return. -/

namespace CountBridge

/-- What passes between the bridge and the code around it: units that it takes over
or hands out, and calls on the bound system. -/
inductive Exchange where
  | takenOver (id : ObjectId)
  | called (call : Call) (lawful : Bool)
  | handedOut (id : ObjectId)

namespace Call

def spends : Call → Multiset ObjectId
  | .decrement id _ => {id}
  | .newError mess _ => unitOf mess
  | _ => 0

def brings : Call → Multiset ObjectId
  | .increment id => {id}
  | .newString _ made | .newError _ made | .toStringReturned made => {made}
  | _ => 0

def isBoot : Call → Bool
  | .boot => true
  | _ => false

/-- The system is booted once, and only its version is asked for before. -/
def Timely (booted : Bool) : Call → Prop
  | .version => True
  | .boot => booted = false
  | _ => booted = true

/-- Null is given where a handle is asked for. All calls but one take an object. -/
def GivesNull : Call → Prop
  | .newError mess _ => mess = none
  | _ => False

end Call

structure Ledger where
  booted : Bool := false
  owned : Multiset ObjectId := 0

namespace Ledger

def next (ledger : Ledger) : Exchange → Ledger
  | .takenOver id => { ledger with owned := {id} + ledger.owned }
  | .called call _ =>
    { booted := ledger.booted || call.isBoot, owned := call.brings + (ledger.owned - call.spends) }
  | .handedOut id => { ledger with owned := ledger.owned - {id} }

def after : Ledger → List Exchange → Ledger := List.foldl next

def Allows (ledger : Ledger) : Exchange → Prop
  | .takenOver _ => True
  | .called call lawful =>
    lawful = true ∧ call.Timely ledger.booted ∧ ¬ call.GivesNull ∧ call.spends ≤ ledger.owned
  | .handedOut id => id ∈ ledger.owned

def Honours : Ledger → List Exchange → Prop
  | _, [] => True
  | ledger, exchange :: rest => ledger.Allows exchange ∧ (ledger.next exchange).Honours rest

def add (ledger : Ledger) (units : Multiset ObjectId) : Ledger := { ledger with owned := units + ledger.owned }

variable {ledger : Ledger} {exchange : Exchange} {first rest : List Exchange}

@[simp] theorem add_zero (ledger : Ledger) : ledger.add 0 = ledger := by simp [add]

theorem after_append (ledger : Ledger) (first rest : List Exchange) :
    ledger.after (first ++ rest) = (ledger.after first).after rest := List.foldl_append ..

theorem honours_append : ledger.Honours (first ++ rest) ↔ ledger.Honours first ∧ (ledger.after first).Honours rest := by
  induction first generalizing ledger with
  | nil => simp [Honours, after]
  | cons exchange others ih => simp [Honours, after, ih, and_assoc]

/-- Each exchange was allowed by what came before. -/
theorem Honours.allows {before later : List Exchange} (honours : ledger.Honours (before ++ exchange :: later)) :
    (ledger.after before).Allows exchange :=
  (honours_append.mp honours).2.1

theorem Allows.add (allows : ledger.Allows exchange) (units : Multiset ObjectId) :
    (ledger.add units).Allows exchange ∧ (ledger.add units).next exchange = (ledger.next exchange).add units := by
  cases exchange with
  | takenOver id => exact ⟨trivial, by simp [Ledger.add, next, add_left_comm]⟩
  | called call lawful =>
    obtain ⟨kept, timely, given, owned⟩ := allows
    refine ⟨⟨kept, timely, given, owned.trans (Multiset.le_add_left _ _)⟩, ?_⟩
    simp only [Ledger.add, next, Multiset.add_sub_assoc owned, add_left_comm]
  | handedOut id =>
    refine ⟨Multiset.mem_add.mpr (.inr allows), ?_⟩
    simp only [Ledger.add, next, Multiset.add_sub_assoc (Multiset.singleton_le.mpr allows)]

/-- More units do no harm, and are still there afterwards. -/
theorem Honours.add (honours : ledger.Honours rest) (units : Multiset ObjectId) :
    (ledger.add units).Honours rest ∧ (ledger.add units).after rest = (ledger.after rest).add units := by
  induction rest generalizing ledger with
  | nil => exact ⟨trivial, rfl⟩
  | cons exchange others ih =>
    obtain ⟨allowed, next⟩ := Allows.add honours.1 units
    obtain ⟨further, last⟩ := ih honours.2
    refine ⟨⟨allowed, next ▸ further⟩, ?_⟩
    simp only [after, List.foldl_cons, next]
    exact last

end Ledger

/-- What an entry tells of. A native error that is raised comes with a unit, unless it is the
program's own wrapper that is raised. -/
def Entry.exchanges (native : Bool) : Entry → List Exchange
  | .call made lawful => [.called made lawful]
  | .event (.raising (some err)) => if native then [.takenOver err] else []
  | .event _ | .shown _ => []

def exchangesOf (native : Bool) (journal : Array Entry) : List Exchange :=
  journal.toList.flatMap (Entry.exchanges native)

@[simp] theorem exchangesOf_push (native : Bool) (journal : Array Entry) (entry : Entry) :
    exchangesOf native (journal.push entry) = exchangesOf native journal ++ entry.exchanges native := by
  simp [exchangesOf]

namespace Object

def isVector (object : Object) : Bool :=
  match object.payload with
  | .vector _ => true
  | _ => false

def isReadable (object : Object) : Bool :=
  match object.payload with
  | .bytes bytes => bytes.validateUTF8
  | _ => true

end Object

def World.CanRaise (world : World) (heap : HeapId) : Prop :=
  (world.heaps[heap]?.getD {}).booted = true ∧ world.isBound = true

namespace Program

variable {α : Type}

def Answer.unit : Answer α → Handle
  | .handle made => made
  | .optional found => found
  | _ => none

def receiving : List String := ["adopt", "from_raw"]

def parting : List String := ["into_raw", "attempt", "host_trap"]

def received (op : String) (answer : Answer α) : Handle := if op ∈ receiving then answer.unit else none

def parted (op : String) (answer : Answer α) : Handle := if op ∈ parting then answer.unit else none

def Step.exchanges (step : Step α) : List Exchange :=
  (received step.op step.answer).toList.map .takenOver ++
    exchangesOf (step.op != "raise") step.journal ++
    (parted step.op step.answer).toList.map .handedOut

def exchanges (steps : Array (Step α)) : List Exchange := steps.toList.flatMap Step.exchanges

theorem exchanges_push (steps : Array (Step α)) (step : Step α) :
    exchanges (steps.push step) = exchanges steps ++ step.exchanges := by
  simp [exchanges]

def Answer.fault? : Answer α → Option Fault
  | .ended (.fault cause) | .joinFailed (.fault cause) | .uncaught (.fault cause) => some cause
  | _ => none

def Session.Usable (session : Session α) (name : Name) : Prop := session.handleNamed name ≠ .error .deadHandle

def Session.Names (session : Session α) (name : Name) (object : Object) : Prop :=
  ∃ id, session.handleNamed name = .ok (some id) ∧ session.world.store.find? id = some object

def Session.CanRaise (session : Session α) (name : Name) : Prop :=
  ∀ heap, lookup name session.heaps = some heap → session.world.CanRaise heap

/-- An object that threads hammer on lives whenever one of them takes its unit. -/
def Outlasts (watched : Bool) (id : ObjectId) (count threads : Nat) (world : World) : Prop :=
  ∀ earlier < threads, (ends (hammer watched id count earlier true) world).2.store.isLive id = true

/-- The conditions that the documentation sets for an operation: a handle that is named is not
that of a destroyed object, and what raises an error natively does so through a heap that can. -/
def Action.Heeds (session : Session α) : Action → Prop
  | .newError _ handle _ | .increment _ handle | .decrement _ handle | .look _ handle | .messageOf _ handle _
  | .extract handle _ | .burst handle _ | .adopt _ handle _ | .ofRaw _ handle _ | .retain handle _ =>
    session.Usable handle
  | .newString heap bytes _ => bytes.validateUTF8 = false → session.CanRaise heap
  | .push heap vector item =>
    session.Usable vector ∧ session.Usable item ∧
      ∀ object, session.Names vector object → object.isVector = false → session.CanRaise heap
  | .toString heap handle _ =>
    session.Usable handle ∧ ∀ object, session.Names handle object → object.isReadable = false → session.CanRaise heap
  | .throwHandle heap handle | .hostRaise heap handle => session.Usable handle ∧ session.CanRaise heap
  | .throwMessage heap _ => session.CanRaise heap
  | .hammer handle threads count =>
    session.Usable handle ∧ ∀ id, session.handleNamed handle = .ok (some id) →
      Outlasts session.watched id count threads session.world
  | _ => True

/-- The object system answers for itself, and a new error is given a string or null. -/
def Action.Plain (session : Session α) : Action → Prop
  | .newError _ mess _ =>
    ∀ id, session.handleNamed mess = .ok (some id) → session.world.isString id = true
  | .stub _ => False
  | _ => True

def Op.Heeds (session : Session α) : Op α → Prop
  | .act action => action.Heeds session
  | .attempt heap _ _ =>
    ∀ found, lookup heap session.heaps = some found → (session.world.heaps[found]?.getD {}).booted = true
  | _ => True

def Op.Plain (session : Session α) : Op α → Prop
  | .act action => action.Plain session
  | _ => True

end Program

end CountBridge
