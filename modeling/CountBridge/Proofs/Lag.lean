import CountBridge.Proofs.Worlds

/-! One world behind another. Both come from the same routines, but the left one
gives back at once what still waits in the queue of the right one. Whatever is
done on both sides next keeps them so. -/

namespace CountBridge

def Object.Alike (first second : Object) : Prop := first.payload = second.payload

namespace Object.Alike

variable {first second : Object}

theorem refl (object : Object) : object.Alike object := rfl

theorem message (alike : first.Alike second) : first.message = second.message := by
  simp only [Object.message, show first.payload = second.payload from alike]

theorem isString (alike : first.Alike second) : first.isString = second.isString := by
  simp only [Object.isString, show first.payload = second.payload from alike]

theorem stringBytes? (alike : first.Alike second) : first.stringBytes? = second.stringBytes? := by
  simp only [Object.stringBytes?, show first.payload = second.payload from alike]

theorem className (alike : first.Alike second) : first.className = second.className := by
  simp only [Object.className, show first.payload = second.payload from alike]

theorem itemCount (alike : first.Alike second) : first.itemCount = second.itemCount := by
  simp only [Object.itemCount, show first.payload = second.payload from alike]

end Object.Alike

theorem Object.gentle_increment {object : Object} (fits : object.increment.count ≠ 0) :
    Store.Gentle Object.increment object.count.toNat := by
  have grown := toNat_increment fits
  have small := object.increment.count.toNat_lt
  refine ⟨fun other => ?_, fun other bounded _ zero => ?_, fun other bounded positive _ one => ?_⟩
  · simp only [increment, decrement]
    congr 1
    grind
  · have none : other.increment.count.toNat = 0 := congrArg UInt32.toNat zero
    simp only [increment, UInt32.toNat_add, UInt32.toNat_one] at none
    omega
  · have nonzero : other.count.toNat ≠ 0 := fun zero => positive (UInt32.toNat_inj.mp zero)
    have single : other.increment.count.toNat = 1 := congrArg UInt32.toNat one
    simp only [increment, UInt32.toNat_add, UInt32.toNat_one] at single
    omega

theorem Object.gentle_payload (payload : Payload) (limit : Nat) :
    Store.Gentle (fun object => { object with payload }) limit :=
  ⟨fun _ => rfl, fun _ _ positive => positive, fun _ _ _ shared => shared⟩

theorem Store.liveCount_allocate (store : Store) (payload : Payload) :
    (store.allocate payload).2.liveCount = store.liveCount + 1 := by
  simp [liveCount, allocate]

namespace World

/-- There is one heap only, it is booted, and its counters tell of the store. -/
def Counted (world : World) : Prop :=
  world.heaps = #[{
    live := UInt64.ofNat world.store.liveCount
    allocated := UInt64.ofNat world.store.allocated
    booted := true }]

theorem modify_singleton (heap : Heap) (change : Heap → Heap) : #[heap].modify 0 change = #[change heap] := by
  apply Array.ext_getElem?
  intro index
  rw [Array.getElem?_modify]
  split
  next here => subst here; rfl
  next other => cases index <;> simp_all

/-- What the right one still has to give back, the left one has given back. The
left one never lets anything wait. -/
structure Behind (left right : World) : Prop where
  store : right.store.Repays right.queued left.store
  counted : left.Counted
  counted' : right.Counted
  binding : ∃ config config' queue, left.binding? = some { heap := 0, config } ∧ config.policy = .immediate ∧
    right.binding? = some { heap := 0, config := config', queue } ∧ config.maxTextBytes = config'.maxTextBytes
  stubs : left.stubs = right.stubs
  origin : left.origin = right.origin

/-- Two worlds as the same routines leave them: the same one, or if `late`, one
behind the other. -/
structure Linked (late bound : Bool) (held : Multiset ObjectId) (left right : World) : Prop where
  sound : right.Sound bound held
  same : late = false → left = right
  behind : late = true → left.Behind right

variable {late bound : Bool} {held units : Multiset ObjectId} {left right left' right' : World} {id : ObjectId}
  {object kept : Object}

theorem Behind.survivor (behind : left.Behind right) (found : left.store.find? id = some kept) :
    ∃ object, right.store.find? id = some object ∧ kept.Alike object ∧
      kept.count.toNat ≤ object.count.toNat := by
  obtain ⟨object, present, same, fewer⟩ := behind.store.survivor found
  exact ⟨object, present, same.symm, fewer⟩

theorem Behind.allocated (behind : left.Behind right) : left.store.allocated = right.store.allocated :=
  behind.store.allocated

theorem Behind.sound (behind : left.Behind right) (sound : right.Sound bound held) : left.Sound bound held := by
  obtain ⟨config, config', queue, bound, -, -, -⟩ := behind.binding
  refine ⟨?_, fun binding found => ?_, fun _ => by simp [isBound, bound]⟩
  · rw [queued_of_bound bound]
    exact (sound.exact.repays behind.store).congr (zero_add held).symm
  · rw [bound] at found
    cases found
    rw [behind.counted]
    rfl

theorem Linked.sound' (linked : Linked late bound held left right) : left.Sound bound held := by
  cases late with
  | false => exact linked.same rfl ▸ linked.sound
  | true => exact (linked.behind rfl).sound linked.sound

theorem Linked.congr {other : Multiset ObjectId} (linked : Linked late bound held left right) (same : held = other) :
    Linked late bound other left right := same ▸ linked

/-- An object that lives on the left lives on the right, with the same payload. -/
theorem Linked.survivor (linked : Linked late bound held left right)
    (found : left.store.find? id = some kept) :
    ∃ object, right.store.find? id = some object ∧ kept.Alike object ∧ (late = false → kept = object) := by
  cases late with
  | false => exact ⟨kept, linked.same rfl ▸ found, rfl, fun _ => rfl⟩
  | true =>
    obtain ⟨object, present, alike, -⟩ := (linked.behind rfl).survivor found
    exact ⟨object, present, alike, fun never => by cases never⟩

theorem Linked.allocated (linked : Linked late bound held left right) :
    left.store.allocated = right.store.allocated := by
  cases late with
  | false => rw [linked.same rfl]
  | true => exact (linked.behind rfl).allocated

theorem Linked.isBound (linked : Linked late bound held left right) : left.isBound = right.isBound := by
  cases late with
  | false => rw [linked.same rfl]
  | true =>
    obtain ⟨_, _, _, found, -, present, -⟩ := (linked.behind rfl).binding
    simp [World.isBound, found, present]

theorem Linked.origin (linked : Linked late bound held left right) : left.origin = right.origin := by
  cases late with
  | false => rw [linked.same rfl]
  | true => exact (linked.behind rfl).origin

theorem Linked.stubs (linked : Linked late bound held left right) : left.stubs = right.stubs := by
  cases late with
  | false => rw [linked.same rfl]
  | true => exact (linked.behind rfl).stubs

/-- What is known of the right side may be used to know that something is bound. -/
theorem Linked.upgrade (linked : Linked late bound held left right) (known : right.isBound = true) :
    Linked late true held left right :=
  ⟨⟨linked.sound.exact, linked.sound.booted, fun _ => known⟩, linked.same, linked.behind⟩

theorem Behind.journal (behind : left.Behind right) (first second : Array Entry) :
    { left with journal := first }.Behind { right with journal := second } :=
  ⟨behind.store, behind.counted, behind.counted', behind.binding, behind.stubs, behind.origin⟩

theorem Linked.journal (linked : Linked late bound held left right) {first second : Array Entry}
    (same : late = false → first = second) :
    Linked late bound held { left with journal := first } { right with journal := second } := by
  refine ⟨linked.sound.journal second, fun never => ?_, fun behind => (linked.behind behind).journal _ _⟩
  rw [linked.same never, same never]

theorem Counted.allocate {world : World} (counted : world.Counted) (payload : Payload) :
    { world with
      store := (world.store.allocate payload).2
      heaps := world.heaps.modify 0 Heap.allocate }.Counted := by
  have heaps : world.heaps = _ := counted
  simp only [Counted, heaps, Store.liveCount_allocate, UInt64.ofNat_add]
  simp [Heap.allocate, Store.allocate, Store.allocated]

theorem Counted.set {world : World} (counted : world.Counted) (found : world.store.find? id = some object)
    (changed : Object) : { world with store := world.store.set id changed }.Counted := by
  simp only [Counted, Store.liveCount_set found, Store.allocated_set]
  exact counted

theorem Counted.repaid {before after : World} (counted : before.Counted) (repaid : Repaid 0 before after units) :
    after.Counted := by
  have fewer := repaid.store.liveCount_le
  have same : UInt64.ofNat before.store.liveCount -
      UInt64.ofNat (before.store.liveCount - after.store.liveCount) = UInt64.ofNat after.store.liveCount := by
    obtain ⟨more, split⟩ := Nat.exists_eq_add_of_le fewer
    rw [split, Nat.add_sub_cancel_left, UInt64.ofNat_add]
    grind
  have heaps : before.heaps = _ := counted
  simp only [Counted, repaid.heaps, heaps, repaid.store.allocated, modify_singleton, Heap.destroy, same]

theorem Behind.allocate (behind : left.Behind right) (payload : Payload) :
    { left with
      store := (left.store.allocate payload).2
      heaps := left.heaps.modify 0 Heap.allocate }.Behind
    { right with
      store := (right.store.allocate payload).2
      heaps := right.heaps.modify 0 Heap.allocate } := by
  exact ⟨behind.store.allocate payload, behind.counted.allocate payload, behind.counted'.allocate payload,
    behind.binding, behind.stubs, behind.origin⟩

/-- A change of a live object that leaves the number of live ones alone. -/
theorem Behind.change {change : Object → Object} (behind : left.Behind right)
    (found : left.store.find? id = some kept) (present : right.store.find? id = some object)
    (gentle : Store.Gentle change object.count.toNat) :
    { left with store := left.store.set id (change kept) }.Behind
      { right with store := right.store.set id (change object) } := by
  exact ⟨behind.store.change present found gentle, behind.counted.set found _, behind.counted'.set present _,
    behind.binding, behind.stubs, behind.origin⟩

theorem Behind.ease (behind : left.Behind right) (released : left.Released left' units)
    (eased : right.Eased right' units) : left'.Behind right' := by
  obtain ⟨config, config', queue, bound, policy, bound', limit⟩ := behind.binding
  obtain ⟨binding, found, repaid⟩ := released
  rw [bound] at found
  cases found
  obtain ⟨rest, part, shared, binding', found', repaid'⟩ := eased
  simp only [withQueue, bound', Option.map_some, Option.some.injEq] at found'
  subst found'
  have waiting : right'.queued = ↑rest.items.toList := by
    rw [queued, repaid'.binding, ← queued, queued_withQueue bound']
  have whole : right.store.Repays (part + ↑rest.items.toList) left'.store :=
    shared ▸ behind.store.add repaid.store
  have counted' : (right.withQueue rest).Counted := behind.counted'
  refine ⟨?_, behind.counted.repaid repaid, counted'.repaid repaid', ?_, ?_, ?_⟩
  · rw [waiting]
    exact repaid'.store.rest whole
  · refine ⟨config, config', rest, repaid.binding.trans bound, policy, ?_, limit⟩
    rw [repaid'.binding]
    simp [withQueue, bound']
  · rw [repaid.stubs, repaid'.stubs]
    exact behind.stubs
  · rw [repaid.origin, repaid'.origin]
    exact behind.origin

end World

end CountBridge
