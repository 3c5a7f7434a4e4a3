import CountBridge.Message
import CountBridge.Proofs.Repayment
import CountBridge.Proofs.SideBySide

/-! What nothing ever undoes. An object keeps its payload as long as it lives, but
for the items that a vector takes in; a destroyed object stays so; a system
stays bound. -/

namespace CountBridge

/-- The payload that an object may come to have while it lives. -/
inductive Payload.Becomes : Payload → Payload → Prop where
  | same {payload} : Becomes payload payload
  | grown {items more} : Becomes (.vector items) (.vector (items ++ more))

theorem Payload.Becomes.trans {first second third : Payload} (early : first.Becomes second)
    (late : second.Becomes third) : first.Becomes third := by
  cases early with
  | same => exact late
  | grown =>
    cases late with
    | same => exact .grown
    | grown => rw [Array.append_assoc]; exact .grown

namespace Store

/-- Every object of the earlier store that still lives has come from itself. -/
structure Continues (before after : Store) : Prop where
  allocated : before.allocated ≤ after.allocated
  payload : ∀ id object, id < before.allocated → after.find? id = some object →
    ∃ earlier, before.find? id = some earlier ∧ earlier.payload.Becomes object.payload

variable {store before after last : Store} {id : ObjectId} {object : Object}

theorem Continues.refl (store : Store) : Continues store store :=
  ⟨le_rfl, fun _ object _ found => ⟨object, found, .same⟩⟩

theorem Continues.trans (first : Continues before after) (second : Continues after last) :
    Continues before last := by
  refine ⟨first.allocated.trans second.allocated, fun id object inside found => ?_⟩
  obtain ⟨middle, present, late⟩ := second.payload id object (inside.trans_le first.allocated) found
  obtain ⟨earlier, there, early⟩ := first.payload id middle inside present
  exact ⟨earlier, there, early.trans late⟩

theorem continues_allocate (store : Store) (payload : Payload) :
    Continues store (store.allocate payload).2 := by
  refine ⟨by simp [allocated, allocate], fun id object inside found => ?_⟩
  rw [find?_allocate_other inside] at found
  exact ⟨object, found, .same⟩

theorem continues_set {changed : Object} (found : store.find? id = some object)
    (becomes : object.payload.Becomes changed.payload) : Continues store (store.set id changed) := by
  refine ⟨by simp, fun other kept inside present => ?_⟩
  by_cases here : other = id
  · subst here
    rw [find?_set_self found] at present
    cases present
    exact ⟨object, found, becomes⟩
  · rw [find?_set_other here] at present
    exact ⟨kept, present, .same⟩

theorem continues_remove (store : Store) (id : ObjectId) : Continues store (store.remove id) := by
  refine ⟨by simp, fun other kept inside present => ?_⟩
  rw [find?_remove] at present
  split at present
  · cases present
  · exact ⟨kept, present, .same⟩

theorem continues_giveBack (store : Store) (line : List Handle) :
    Continues store (store.giveBack line).store := by
  fun_induction Store.giveBack store line with
  | case1 store => exact .refl store
  | case2 store line ih => exact ih
  | case3 store id line missing => exact .refl store
  | case4 store id line object found empty => exact continues_set found .same
  | case5 store id line object found positive sole after ih => exact (continues_remove store id).trans ih
  | case6 store id line object found positive shared ih =>
    have lowered : Continues store (store.set id object.decrement) := continues_set found .same
    exact lowered.trans ih

end Store

namespace World

structure Continues (before after : World) : Prop where
  store : before.store.Continues after.store
  origin : after.origin = before.origin
  binding : ∀ binding, before.binding? = some binding →
    ∃ queue, after.binding? = some { binding with queue }
  heaps : before.heaps.size ≤ after.heaps.size
  turnedOver : after.turnedOver = false → before.turnedOver = false
  breached : after.breached = false → before.breached = false

variable {before after last : World}

theorem Continues.refl (world : World) : Continues world world :=
  ⟨.refl _, rfl, fun binding bound => ⟨binding.queue, bound⟩, le_rfl, id, id⟩

theorem Continues.trans (first : Continues before after) (second : Continues after last) :
    Continues before last := by
  refine ⟨first.store.trans second.store, second.origin.trans first.origin, fun binding bound => ?_,
    first.heaps.trans second.heaps, first.turnedOver ∘ second.turnedOver, first.breached ∘ second.breached⟩
  obtain ⟨queue, found⟩ := first.binding binding bound
  exact second.binding { binding with queue } found

/-- Nothing but the store has changed, as far as anything lasting goes. -/
theorem Continues.of_store (store : before.store.Continues after.store) (origin : after.origin = before.origin)
    (binding : after.binding? = before.binding?) (turnedOver : after.turnedOver = before.turnedOver)
    (breached : after.breached = before.breached) (heaps : before.heaps.size ≤ after.heaps.size := by simp) :
    Continues before after :=
  ⟨store, origin, fun found bound => ⟨found.queue, binding.trans bound⟩, heaps, by rw [turnedOver]; exact id,
    by rw [breached]; exact id⟩

/-- Two runs are compared as long as no counter has turned over in either, and no
condition was broken in the first. -/
def course : Course World where
  order := Continues
  refl := Continues.refl
  trans := Continues.trans
  quiet world := world.turnedOver = false ∧ world.breached = false
  quiet' world := world.turnedOver = false
  quiet_of_order continues quiet := ⟨continues.turnedOver quiet.1, continues.breached quiet.2⟩
  quiet_of_order' continues quiet := continues.turnedOver quiet

end World

section Ends

open Bridge

variable {α : Type} {world : World} {id : ObjectId} {object : Object}

theorem ends_record (entry : Entry) (world : World) :
    ends (record entry) world = (.ok (), { world with journal := world.journal.push entry }) := rfl

theorem ends_get (world : World) : ends (get : Bridge World) world = (.ok world, world) := rfl

theorem ends_fault_breach {cause : Fault} (broken : cause.isBreach = true) (world : World) :
    ends (fault cause : Bridge α) world = (.error (.fault cause), { world with breached := true }) := by
  rw [fault, if_pos broken]
  rfl

theorem ends_fault_lawful {cause : Fault} (lawful : cause.isBreach = false) (world : World) :
    ends (fault cause : Bridge α) world = (.error (.fault cause), world) := by
  rw [fault, lawful]
  rfl

theorem ends_objectAt (found : world.store.find? id = some object) :
    ends (objectAt id) world = (.ok object, world) := by
  simp only [objectAt, ends_bind, ends_get, found, ends_pure]

theorem ends_objectAt_missing (missing : world.store.find? id = none) :
    ends (objectAt id) world =
      (.error (.fault (.misuse (.dangling id))), { world with breached := true }) := by
  simp only [objectAt, ends_bind, ends_get, missing]
  exact ends_fault_breach rfl world

theorem ends_binding {binding : Binding} (bound : world.binding? = some binding) :
    ends Bridge.binding world = (.ok binding, world) := by
  simp only [Bridge.binding, ends_bind, ends_get, bound, ends_pure]

theorem ends_allocate (heap : HeapId) (payload : Payload) (world : World) :
    ends (Native.allocate heap payload) world = (.ok world.store.allocated,
      { world with
        store := (world.store.allocate payload).2
        heaps := world.heaps.modify heap Heap.allocate }) := rfl

theorem ends_increment (found : world.store.find? id = some object) :
    ends (Native.increment (some id)) world = (.ok (),
      { world with
        store := world.store.set id object.increment
        turnedOver := if object.increment.count = 0 then true else world.turnedOver }) := by
  simp only [Native.increment]
  rw [ends_bind_ok (ends_objectAt found)]
  by_cases wrapped : object.increment.count = 0
  · simp only [wrapped, if_true]; rfl
  · simp only [wrapped, if_false]; rfl

/-- Giving a unit of a live object back, whether or not something goes wrong. -/
theorem ends_decrement (heap : HeapId) (found : world.store.find? id = some object) :
    ends (Native.decrement heap (some id)) world =
      ends (match (world.store.giveBack [some id]).misuse with
          | some cause => fault (.misuse cause)
          | none => pure object.decrement.count)
        { world with
          store := (world.store.giveBack [some id]).store
          heaps := world.heaps.modify heap (·.destroy (world.store.giveBack [some id]).destroyed.length) } := by
  simp only [Native.decrement]
  rw [ends_bind_ok (ends_objectAt found)]
  rfl

theorem ends_before (demand : Demand) (call : Call) (action : Bridge α) (world : World) :
    ends (Bound.before demand call action) world =
      ends action { world with journal := world.journal.push (.call call (world.meets demand)) } := rfl

end Ends

open Bridge

abbrev Goes (routine : Bridge α) : Prop := Onward World.course routine

variable {α β : Type}

theorem goes_modify {change : World → World} (goes : ∀ world : World, world.Continues (change world)) :
    Goes (modify change) := goes

theorem goes_record (entry : Entry) : Goes (record entry) :=
  goes_modify fun _ => .of_store (.refl _) rfl rfl rfl rfl

theorem goes_get : Goes (get : Bridge World) := World.Continues.refl

theorem goes_modifyHeap (heap : HeapId) (change : Heap → Heap) : Goes (modifyHeap heap change) :=
  goes_modify fun _ => .of_store (.refl _) rfl rfl rfl rfl

theorem goes_breach : Goes breach :=
  goes_modify fun _ => ⟨.refl _, rfl, fun binding bound => ⟨binding.queue, bound⟩, le_rfl, id, fun never => by cases never⟩

theorem goes_fault (cause : Fault) : Goes (fault cause : Bridge α) := by
  intro world
  cases kind : cause.isBreach with
  | true => rw [ends_fault_breach kind]; exact goes_breach world
  | false => rw [ends_fault_lawful kind]; exact World.Continues.refl world

theorem goes_objectAt (id : ObjectId) : Goes (objectAt id) := by
  apply goes_get.bind
  intro world
  split
  · exact .pure _
  · exact goes_fault _

theorem goes_binding : Goes Bridge.binding := by
  apply goes_get.bind
  intro world
  split
  · exact .pure _
  · exact goes_fault _

theorem goes_modifyQueue (change : Queue ObjectId → Queue ObjectId) : Goes (modifyQueue change) :=
  goes_modify fun _ => ⟨.refl _, rfl, fun binding bound => ⟨change binding.queue, by simp [bound]⟩, le_rfl, id, id⟩

theorem goes_unrecorded {action : Bridge α} (goes : Goes action) : Goes (unrecorded action) :=
  fun world => (goes world).trans (.of_store (.refl _) rfl rfl rfl rfl le_rfl)

/-- What begins by looking at an object comes to nothing if that was destroyed. -/
theorem goes_objectAt_bind {id : ObjectId} {next : Object → Bridge α}
    (goes : ∀ (world : World) object, world.store.find? id = some object →
      world.Continues (ends (next object) world).2) : Goes (objectAt id >>= next) := by
  intro world
  cases found : world.store.find? id with
  | none =>
    have onward := goes_objectAt id world
    rw [ends_objectAt_missing found] at onward
    rwa [ends_bind_error (ends_objectAt_missing found)]
  | some object =>
    rw [ends_bind_ok (ends_objectAt found)]
    exact goes world object found

namespace Native

theorem goes_allocate (heap : HeapId) (payload : Payload) : Goes (allocate heap payload) :=
  fun world => .of_store (Store.continues_allocate world.store payload) rfl rfl rfl rfl Array.size_modify.ge

theorem goes_increment (handle : Handle) : Goes (increment handle) := by
  cases handle with
  | none => exact .pure _
  | some id =>
    apply goes_objectAt_bind
    intro world object found
    have whole := ends_increment found
    rw [increment, ends_bind_ok (ends_objectAt found)] at whole
    rw [whole]
    refine ⟨Store.continues_set found .same, rfl, fun binding bound => ⟨binding.queue, bound⟩, le_rfl, ?_, fun quiet => quiet⟩
    dsimp only
    split
    · exact fun never => by cases never
    · exact fun quiet => quiet

theorem goes_decrement (heap : HeapId) (handle : Handle) : Goes (decrement heap handle) := by
  cases handle with
  | none => exact .pure _
  | some id =>
    apply goes_objectAt_bind
    intro world object found
    have whole := ends_decrement heap found
    rw [decrement, ends_bind_ok (ends_objectAt found)] at whole
    rw [whole]
    have spent : world.Continues { world with
        store := (world.store.giveBack [some id]).store
        heaps := world.heaps.modify heap (·.destroy (world.store.giveBack [some id]).destroyed.length) } :=
      .of_store (Store.continues_giveBack world.store _) rfl rfl rfl rfl
    refine spent.trans ?_
    split
    · exact goes_fault _ _
    · exact World.Continues.refl _

end Native

end CountBridge
