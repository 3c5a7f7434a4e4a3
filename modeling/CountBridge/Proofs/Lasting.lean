import CountBridge.Proofs.Balance

/-! Facts that last, however a routine ends. Nothing is asked of whoever runs it:
neither that the accounts are in order, nor that handles are live. -/

namespace CountBridge

open Bridge

variable {σ α β : Type}

def lasting (fact : σ → Prop) : Course σ where
  order before after := fact before → fact after
  refl _ := id
  trans first second := second ∘ first
  quiet _ := True
  quiet' _ := True
  quiet_of_order _ _ := trivial
  quiet_of_order' _ _ := trivial

abbrev Lasts (fact : World → Prop) (routine : Bridge α) : Prop := Onward (lasting fact) routine

def World.born (world : World) (heap : HeapId) (payload : Payload) : World :=
  { world with
    store := (world.store.allocate payload).2
    heaps := world.heaps.modify heap Heap.allocate }

/-- A fact that holds on while texts are read and errors raised. Units may be taken, texts and
errors come into being, and calls be entered that neither bring nor spend a unit. The heaps that
are used are `housed`. -/
structure Unread (housed : HeapId → Prop) (fact : World → Prop) : Prop where
  event : ∀ {world : World} (event : Event), fact world → fact { world with journal := world.journal.push (.event event) }
  ask : ∀ {world : World} {call : Call} (lawful : Bool), call.spends = 0 → call.brings = 0 → fact world →
    fact { world with journal := world.journal.push (.call call lawful) }
  breach : ∀ {world : World}, fact world → fact { world with breached := true }
  share : ∀ {world : World} {id : ObjectId} {object : Object} (turnedOver : Bool), world.store.find? id = some object →
    fact world → fact { world with store := world.store.set id object.increment, turnedOver }
  word : ∀ {world : World} {heap : HeapId} {bytes : ByteArray}, housed heap → bytes.validateUTF8 = true → fact world →
    fact (world.born heap (.string bytes))
  complain : ∀ {world : World} {heap : HeapId} {mess : ObjectId}, housed heap → world.store.HasString mess → fact world →
    fact (world.born heap (.error (some mess)))

section Unread

variable {housed : HeapId → Prop} {fact : World → Prop} {heap : HeapId} {id : ObjectId}

theorem lasts_get : Lasts fact (get : Bridge World) := fun _ => id

/-- What is done on the heap that is bound is done on a housed one. -/
theorem lasts_onBound (bound : ∀ {world : World} {binding : Binding}, fact world → world.binding? = some binding → housed binding.heap)
    {next : HeapId → Bridge α} (each : ∀ heap, housed heap → Lasts fact (next heap)) : Lasts fact (Bound.heap >>= next) := by
  rw [Bound.heap, bind_assoc]
  intro world known
  cases found : world.binding? with
  | none =>
    have left : ends Bridge.binding world = (.error (.fault .unbound), world) := by
      simp only [Bridge.binding, ends_bind, ends_get, found]
      exact ends_fault_lawful rfl world
    rw [ends_bind_error left]
    exact known
  | some binding =>
    rw [ends_bind_ok (ends_binding found), pure_bind]
    exact each binding.heap (bound known found) world known

namespace Unread

variable (unread : Unread housed fact)

include unread

theorem report (event : Event) : Lasts fact (report event) := fun _ => unread.event event

theorem fault (cause : Fault) : Lasts fact (fault cause : Bridge α) := by
  intro world
  cases kind : cause.isBreach with
  | true => rw [ends_fault_breach kind]; exact unread.breach
  | false => rw [ends_fault_lawful kind]; exact id

theorem objectAt (id : ObjectId) : Lasts fact (objectAt id) := by
  refine lasts_get.bind fun world => ?_
  split
  · exact .pure _
  · exact unread.fault _

theorem binding : Lasts fact Bridge.binding := by
  refine lasts_get.bind fun world => ?_
  split
  · exact .pure _
  · exact unread.fault _

theorem increment (handle : Handle) : Lasts fact (Native.increment handle) := by
  cases handle with
  | none => exact .pure _
  | some id =>
    intro world
    cases found : world.store.find? id with
    | none =>
      rw [Native.increment, ends_bind_error (ends_objectAt_missing found)]
      exact unread.breach
    | some object =>
      rw [ends_increment found]
      exact unread.share _ found

theorem hostRaise (err : Handle) : Lasts fact (hostRaise err : Bridge α) := by
  refine lasts_get.bind fun world => ?_
  split
  · exact unread.fault _
  · exact unread.fault _
  · exact (unread.report _).bind fun _ => .throw _

theorem newText (within : housed heap) {bytes : ByteArray} (valid : bytes.validateUTF8 = true) :
    Lasts fact (Native.allocate heap (.string bytes)) := fun _ => unread.word within valid

/-- The message of a new error is the string that was made for it. -/
theorem throwMessage (within : housed heap) (message : String) : Lasts fact (Native.throwMessage heap message : Bridge α) := by
  refine lasts_get.bind fun world => ?_
  split
  · intro world known
    have string : (world.born heap (.string message.toUTF8)).store.HasString world.store.allocated :=
      ⟨_, by rw [World.born, Store.find?_allocate, if_pos rfl], rfl⟩
    exact unread.hostRaise _ _ (unread.complain within string (unread.word within (valid_toUTF8 message) known))
  · exact unread.fault _

theorem toString (within : housed heap) : Lasts fact (Native.toString heap id) := by
  refine (unread.objectAt id).bind fun ⟨count, payload⟩ => ?_
  cases payload with
  | string bytes => exact (unread.increment _).bind fun _ => .pure _
  | error mess =>
    cases mess with
    | none => exact unread.newText within (valid_toUTF8 "")
    | some mess => exact (unread.increment _).bind fun _ => .pure _
  | bytes bytes =>
    dsimp only
    split
    next valid => exact unread.newText within valid
    next => exact unread.throwMessage within _
  | vector items => exact lasts_get.bind fun _ => unread.newText within (valid_toUTF8 _)
  | plain name => exact lasts_get.bind fun _ => unread.newText within (valid_toUTF8 _)

theorem intercept (payload : Unwind) : Lasts fact (intercept payload) := by
  cases payload with
  | native err => exact (unread.report _).bind fun _ => .pure _
  | text | number | fault => exact .throw _

theorem trap {routine : Bridge α} (lasts : Lasts fact routine) : Lasts fact (trap routine) := by
  refine lasts.outcomeOf.bind fun outcome => ?_
  cases outcome with
  | ok value => exact .pure _
  | error payload => exact (unread.intercept payload).bind fun _ => .pure _

theorem before {demand : Demand} {call : Call} {action : Bridge α} (spends : call.spends = 0) (brings : call.brings = 0)
    (lasts : Lasts fact action) : Lasts fact (Bound.before demand call action) :=
  lasts_get.bind fun _ => Onward.bind (fun _ => unread.ask _ spends brings) fun _ => lasts

theorem after {demand : Demand} {call : α → Call} {action : Bridge α} (spends : ∀ answer, (call answer).spends = 0)
    (brings : ∀ answer, (call answer).brings = 0) (lasts : Lasts fact action) :
    Lasts fact (Bound.after demand call action) :=
  lasts_get.bind fun _ => lasts.bind fun answer =>
    Onward.bind (fun _ => unread.ask _ (spends answer) (brings answer)) fun _ => .pure _

theorem isString (id : ObjectId) : Lasts fact (Bound.isString id) :=
  unread.after (fun _ => rfl) (fun _ => rfl) <| (unread.objectAt id).bind fun _ => lasts_get.bind fun _ => .pure _

theorem stringBytes (id : ObjectId) : Lasts fact (Bound.stringBytes id) :=
  unread.after (fun _ => rfl) (fun _ => rfl) <| (unread.objectAt id).bind fun _ => lasts_get.bind fun _ => .pure _

theorem copyText (id : ObjectId) : Lasts fact (copyText id) := by
  refine (unread.stringBytes id).bind fun shown => ?_
  obtain ⟨bytes, size⟩ := shown
  cases bytes with
  | none => exact .pure _
  | some bytes => exact .pure _

end Unread

structure Unspent (housed : HeapId → Prop) (fact : World → Prop) : Prop extends Unread housed fact where
  spend : ∀ {world : World} {heap : HeapId} (id : ObjectId), housed heap → fact world → fact { world with
    store := (world.store.giveBack [some id]).store
    heaps := world.heaps.modify heap (·.destroy (world.store.giveBack [some id]).destroyed.length) }

theorem Unspent.decrement (unspent : Unspent housed fact) (heap : HeapId) (within : housed heap) (handle : Handle) :
    Lasts fact (Native.decrement heap handle) := by
  cases handle with
  | none => exact .pure _
  | some id =>
    intro world known
    cases found : world.store.find? id with
    | none =>
      rw [Native.decrement, ends_bind_error (ends_objectAt_missing found)]
      exact unspent.breach known
    | some object =>
      rw [ends_decrement heap found]
      split
      · exact unspent.fault _ _ (unspent.spend id within known)
      · exact unspent.spend id within known

end Unread

end CountBridge
