import CountBridge.Proofs.Accounts
import CountBridge.Proofs.Continuity

/-! Exact accounts of a whole world, and what giving back does to them. Dropped
wrappers may wait in the queue, which then holds their units; whatever else is
held, is held by the routines that run. -/

namespace CountBridge

open Bridge

namespace World

def queued (world : World) : Multiset ObjectId :=
  world.binding?.elim 0 fun binding => ↑binding.queue.items.toList

/-- The accounts are exact, and the bound heap can raise. `bound` tells that a
system is known to be bound. -/
structure Sound (world : World) (bound : Bool) (held : Multiset ObjectId) : Prop where
  exact : world.store.Exact (world.queued + held)
  booted : ∀ binding, world.binding? = some binding → (world.heaps[binding.heap]?.getD {}).booted = true
  bound : bound = true → world.isBound = true

structure Repaid (heap : HeapId) (before after : World) (units : Multiset ObjectId) : Prop where
  store : before.store.Repays units after.store
  heaps : after.heaps = before.heaps.modify heap (·.destroy (before.store.liveCount - after.store.liveCount))
  binding : after.binding? = before.binding?
  stubs : after.stubs = before.stubs
  origin : after.origin = before.origin
  turnedOver : after.turnedOver = before.turnedOver
  breached : after.breached = before.breached

def Released (before after : World) (units : Multiset ObjectId) : Prop :=
  ∃ binding, before.binding? = some binding ∧ Repaid binding.heap before after units

def withQueue (world : World) (queue : Queue ObjectId) : World :=
  { world with binding? := world.binding?.map fun binding => { binding with queue } }

/-- Some of the units given up, or of those that waited, were given back; the rest waits. -/
def Eased (before after : World) (units : Multiset ObjectId) : Prop :=
  ∃ queue part, before.queued + units = part + ↑queue.items.toList ∧
    Released (before.withQueue queue) after part

variable {world before middle after last : World} {units more held : Multiset ObjectId} {bound : Bool}
  {heap : HeapId} {id : ObjectId}

theorem Sound.journal (sound : world.Sound bound held) (journal : Array Entry) :
    { world with journal }.Sound bound held :=
  ⟨sound.exact, sound.booted, sound.bound⟩

theorem Sound.congr {other : Multiset ObjectId} (sound : world.Sound bound held) (same : held = other) :
    world.Sound bound other := same ▸ sound

theorem Sound.live_of_held (sound : world.Sound bound held) (member : id ∈ held) :
    ∃ object, world.store.find? id = some object :=
  sound.exact.live_of_held (Multiset.mem_add.mpr (.inr member))

theorem Sound.exists_binding (sound : world.Sound true held) : ∃ binding, world.binding? = some binding :=
  Option.isSome_iff_exists.mp (sound.bound rfl)

theorem queued_of_bound {binding : Binding} (found : world.binding? = some binding) :
    world.queued = ↑binding.queue.items.toList := by
  simp [queued, found]

theorem booted_modify (heaps : Array Heap) (heap other : HeapId) (change : Heap → Heap)
    (keeps : ∀ counters, counters.booted = true → (change counters).booted = true)
    (booted : (heaps[other]?.getD {}).booted = true) :
    ((heaps.modify heap change)[other]?.getD {}).booted = true := by
  rw [Array.getElem?_modify]
  split
  · cases found : heaps[other]? with
    | none => simp [found] at booted
    | some counters => simpa [found] using keeps counters (by simpa [found] using booted)
  · exact booted

theorem booted_push (heaps : Array Heap) (other : HeapId) (booted : (heaps[other]?.getD {}).booted = true) :
    ((heaps.push {})[other]?.getD {}).booted = true := by
  rw [Array.getElem?_push]
  split
  next last => simp [last] at booted
  next => exact booted

theorem Repaid.sound (repaid : Repaid heap before after units) (sound : before.Sound bound (units + held)) :
    after.Sound bound held := by
  refine ⟨?_, fun binding found => ?_, fun known => ?_⟩
  · have exact : before.store.Exact (units + (before.queued + held)) := sound.exact.congr (add_left_comm _ _ _)
    rw [queued, repaid.binding]
    exact exact.repays repaid.store
  · rw [repaid.heaps]
    exact booted_modify _ _ _ _ (fun _ booted => booted) (sound.booted binding (repaid.binding ▸ found))
  · rw [isBound, repaid.binding]
    exact sound.bound known

theorem Repaid.journal (repaid : Repaid heap before after units) (journal : Array Entry) :
    Repaid heap before { after with journal } units :=
  ⟨repaid.store, repaid.heaps, repaid.binding, repaid.stubs, repaid.origin, repaid.turnedOver, repaid.breached⟩

theorem Repaid.nothing (heap : HeapId) (world : World) : Repaid heap world world 0 := by
  refine ⟨.done, ?_, rfl, rfl, rfl, rfl, rfl⟩
  apply Array.ext_getElem?
  intro index
  rw [Nat.sub_self, Array.getElem?_modify]
  split
  · cases world.heaps[index]? <;> simp [Heap.destroy]
  · rfl

theorem destroy_add (counters : Heap) (first second : Nat) :
    (counters.destroy first).destroy second = counters.destroy (first + second) := by
  have same : counters.live - UInt64.ofNat first - UInt64.ofNat second =
      counters.live - UInt64.ofNat (first + second) := by
    rw [UInt64.ofNat_add]
    grind
  simp only [Heap.destroy, same]

theorem Repaid.trans (first : Repaid heap before middle units) (second : Repaid heap middle after more) :
    Repaid heap before after (units + more) := by
  refine ⟨first.store.add second.store, ?_, second.binding.trans first.binding, second.stubs.trans first.stubs,
    second.origin.trans first.origin, second.turnedOver.trans first.turnedOver,
    second.breached.trans first.breached⟩
  have fewer := first.store.liveCount_le
  have fewest := second.store.liveCount_le
  rw [second.heaps, first.heaps]
  apply Array.ext_getElem?
  intro index
  simp only [Array.getElem?_modify]
  split
  · cases before.heaps[index]? with
    | none => rfl
    | some counters =>
      simp only [Option.map_some, destroy_add]
      congr 3
      omega
  · rfl

theorem Released.nothing {binding : Binding} (found : world.binding? = some binding) : Released world world 0 :=
  ⟨binding, found, .nothing _ _⟩

theorem Released.journal (released : Released before after units) (journal : Array Entry) :
    Released before { after with journal } units := by
  obtain ⟨binding, found, repaid⟩ := released
  exact ⟨binding, found, repaid.journal journal⟩

theorem Released.sound (released : Released before after units) (sound : before.Sound bound (units + held)) :
    after.Sound bound held := by
  obtain ⟨binding, found, repaid⟩ := released
  exact repaid.sound sound

theorem Released.trans (first : Released before middle units) (second : Released middle after more) :
    Released before after (units + more) := by
  obtain ⟨binding, found, repaid⟩ := first
  obtain ⟨other, present, further⟩ := second
  rw [repaid.binding, found] at present
  cases present
  exact ⟨binding, found, repaid.trans further⟩

theorem withQueue_withQueue (queue rest : Queue ObjectId) :
    (world.withQueue queue).withQueue rest = world.withQueue rest := by
  simp only [withQueue, Option.map_map]
  rfl

theorem queued_withQueue {binding : Binding} (found : world.binding? = some binding) (queue : Queue ObjectId) :
    (world.withQueue queue).queued = ↑queue.items.toList := by
  simp [queued, withQueue, found]

theorem withQueue_self {binding : Binding} (found : world.binding? = some binding) :
    world.withQueue binding.queue = world := by
  simp [withQueue, found]
  rw [← found]

theorem Released.withQueue (released : Released before after units) (queue : Queue ObjectId) :
    Released (before.withQueue queue) (after.withQueue queue) units := by
  obtain ⟨binding, found, repaid⟩ := released
  refine ⟨{ binding with queue }, by simp [World.withQueue, found], repaid.store, repaid.heaps, ?_, repaid.stubs,
    repaid.origin, repaid.turnedOver, repaid.breached⟩
  simp only [World.withQueue, repaid.binding]

theorem Eased.exists_binding (eased : Eased before after units) : ∃ binding, before.binding? = some binding := by
  obtain ⟨queue, part, -, binding, found, -⟩ := eased
  simp only [World.withQueue, Option.map_eq_some_iff] at found
  obtain ⟨earlier, present, -⟩ := found
  exact ⟨earlier, present⟩

/-- What waits and what is held otherwise may be shared out anew. -/
theorem Sound.withQueue {queue : Queue ObjectId} {binding : Binding} (sound : world.Sound bound held)
    (found : world.binding? = some binding) (shared : world.queued + held = ↑queue.items.toList + more) :
    (world.withQueue queue).Sound bound more := by
  refine ⟨?_, fun other present => ?_, fun known => ?_⟩
  · rw [queued_withQueue found, ← shared]
    exact sound.exact
  · simp only [World.withQueue, found, Option.map_some, Option.some.injEq] at present
    subst present
    exact sound.booted binding found
  · simp [World.withQueue, isBound, found]

theorem Eased.sound (eased : Eased before after units) (sound : before.Sound bound (units + held)) :
    after.Sound bound held := by
  obtain ⟨binding, found⟩ := eased.exists_binding
  obtain ⟨queue, part, shared, released⟩ := eased
  refine released.sound (sound.withQueue found ?_)
  rw [← add_assoc, shared]
  abel

theorem Eased.trans (first : Eased before middle units) (second : Eased middle last more) :
    Eased before last (units + more) := by
  obtain ⟨binding, found⟩ := first.exists_binding
  obtain ⟨queue, part, shared, released⟩ := first
  obtain ⟨rest, further, divided, released'⟩ := second
  refine ⟨rest, part + further, ?_, ?_⟩
  · have waiting : middle.queued = ↑queue.items.toList := by
      obtain ⟨other, present, repaid⟩ := released
      rw [queued, repaid.binding, ← queued, queued_withQueue found]
    rw [waiting] at divided
    rw [← add_assoc, shared, add_assoc, divided, add_assoc]
  · have early := released.withQueue rest
    rw [withQueue_withQueue] at early
    exact early.trans released'

theorem Eased.journal (eased : Eased before after units) (journal : Array Entry) :
    Eased before { after with journal } units := by
  obtain ⟨queue, part, shared, released⟩ := eased
  exact ⟨queue, part, shared, released.journal journal⟩

/-- Units given back at once leave those that wait alone. -/
theorem Released.eased (released : Released before after units) : Eased before after units := by
  obtain ⟨binding, found, repaid⟩ := released
  refine ⟨binding.queue, units, ?_, ?_⟩
  · rw [queued_of_bound found, add_comm]
  · rw [withQueue_self found]
    exact ⟨binding, found, repaid⟩

end World

variable {α : Type} {world : World} {id : ObjectId} {held : Multiset ObjectId} {bound : Bool}

theorem returns_heap (sound : world.Sound true held) :
    Returns Bound.heap world fun heap after => after = world ∧ ∃ binding, world.binding? = some binding ∧
      binding.heap = heap := by
  obtain ⟨binding, found⟩ := sound.exists_binding
  exact ⟨binding.heap, world, (ends_bind_ok (ends_binding found)).trans rfl, rfl, binding, found, rfl⟩

theorem Returns.after {demand : Demand} {call : α → Call} {action : Bridge α} {post : α → World → Prop}
    (returns : Returns action world post)
    (silent : ∀ answer last journal, post answer last → post answer { last with journal }) :
    Returns (Bound.after demand call action) world post := by
  obtain ⟨answer, last, ended, met⟩ := returns
  have entered : ends (Bound.after demand call action) world =
      (.ok answer, { last with journal := last.journal.push (.call (call answer) (world.meets demand)) }) := by
    change ends (action >>= _) world = _
    rw [ends_bind_ok ended]
    rfl
  exact ⟨answer, _, entered, silent answer last _ met⟩

/-- Giving back a unit that is held tells the count that is left, whatever else comes of it. -/
theorem ends_decrement_exact {object : Object} (heap : HeapId) (exact : world.store.Exact ({id} + held))
    (found : world.store.find? id = some object) :
    ∃ after, ends (Native.decrement heap (some id)) world = (.ok object.decrement.count, after) ∧
      World.Repaid heap world after {id} ∧ after.journal = world.journal := by
  obtain ⟨regular, -, repaid⟩ := (exact.congr (by simp) : world.store.Exact (unitsOf [some id] + held)).giveBack
  have fewer := Store.liveCount_giveBack world.store [some id]
  have destroyed : (world.store.giveBack [some id]).destroyed.length =
      world.store.liveCount - (world.store.giveBack [some id]).store.liveCount := by omega
  have ended := ends_decrement heap found
  rw [regular] at ended
  refine ⟨_, ended, ⟨by simpa using repaid, ?_, rfl, rfl, rfl, rfl, rfl⟩, rfl⟩
  simp only [destroyed]

theorem returns_decrement (heap : HeapId) (sound : world.Sound bound ({id} + held)) :
    Returns (Native.decrement heap (some id)) world fun _ after => World.Repaid heap world after {id} := by
  obtain ⟨object, found⟩ : ∃ object, world.store.find? id = some object := sound.live_of_held (by simp)
  have exact : world.store.Exact ({id} + (world.queued + held)) := sound.exact.congr (add_left_comm _ _ _)
  obtain ⟨after, ended, repaid, -⟩ := ends_decrement_exact heap exact found
  exact ⟨_, after, ended, repaid⟩

theorem returns_releaseHandle (sound : world.Sound true ({id} + held)) :
    Returns (releaseHandle id) world fun _ after => world.Released after {id} := by
  have spent : Returns (Bound.decrement id) world fun _ after => world.Released after {id} := by
    refine Returns.after ?_ fun _ _ journal released => released.journal journal
    refine (returns_heap sound).bind ?_
    rintro heap _ ⟨rfl, binding, found, rfl⟩
    exact (returns_decrement binding.heap sound).mono fun _ _ repaid => ⟨binding, found, repaid⟩
  apply spent.bind
  intro remaining after released
  exact ⟨(), _, ends_record _ after, released.journal _⟩

theorem returns_releaseAll (ids : List ObjectId) (sound : world.Sound true (↑ids + held)) :
    Returns (releaseAll ids) world fun _ after => world.Released after ↑ids := by
  induction ids generalizing world with
  | nil =>
    obtain ⟨binding, found⟩ := sound.exists_binding
    exact ⟨(), world, rfl, .nothing found⟩
  | cons id rest ih =>
    have split : (↑(id :: rest) : Multiset ObjectId) = {id} + ↑rest := by
      rw [← Multiset.cons_coe, Multiset.singleton_add]
    have whole : world.Sound true ({id} + (↑rest + held)) := sound.congr (by rw [split, add_assoc])
    apply (returns_releaseHandle whole).bind
    intro _ after released
    apply (ih (released.sound whole)).mono
    intro _ last further
    rw [split]
    exact released.trans further

theorem ends_modifyQueue {binding : Binding} (found : world.binding? = some binding)
    (change : Queue ObjectId → Queue ObjectId) :
    ends (modifyQueue change) world = (.ok (), world.withQueue (change binding.queue)) := by
  have same : world.withQueue (change binding.queue) = { world with
      binding? := world.binding?.map fun binding => { binding with queue := change binding.queue } } := by
    simp only [World.withQueue, found, Option.map_some]
  rw [same]
  rfl

theorem returns_collect (sound : world.Sound true held) :
    Returns collect world fun _ after => world.Eased after 0 ∧ after.queued = 0 := by
  obtain ⟨binding, found⟩ := sound.exists_binding
  have emptied : (world.withQueue {}).Sound true (↑binding.queue.items.toList + held) := by
    refine sound.withQueue found ?_
    simp [World.queued_of_bound found]
  have eased {after : World} (released : (world.withQueue {}).Released after ↑binding.queue.items.toList) :
      world.Eased after 0 ∧ after.queued = 0 := by
    refine ⟨⟨{}, _, by simp [World.queued_of_bound found], released⟩, ?_⟩
    obtain ⟨other, present, repaid⟩ := released
    rw [World.queued, repaid.binding, ← World.queued, World.queued_withQueue found]
    rfl
  unfold collect
  refine .step (ends_binding found) (.step (ends_modifyQueue found _) ?_)
  apply (returns_releaseAll _ emptied).bind
  intro _ after released
  split
  · exact .step (ends_record _ after) ⟨_, _, ends_pure _ _, eased (released.journal _)⟩
  · exact .step (ends_pure _ after) ⟨_, _, ends_pure _ _, eased released⟩

/-- A queued unit is one that waits. -/
theorem eased_defer {binding : Binding} (found : world.binding? = some binding) (id : ObjectId) :
    world.Eased (world.withQueue (binding.queue.defer id)) {id} := by
  have bound : (world.withQueue (binding.queue.defer id)).binding? =
      some { binding with queue := binding.queue.defer id } := by
    simp [World.withQueue, found]
  refine ⟨binding.queue.defer id, 0, ?_, .nothing bound⟩
  rw [World.queued_of_bound found]
  simp only [Queue.defer, Array.toList_push, zero_add]
  exact Multiset.coe_add _ [id]

theorem returns_deferRelease (sound : world.Sound true ({id} + held)) :
    Returns (deferRelease id) world fun _ after => world.Eased after {id} := by
  obtain ⟨binding, found⟩ := sound.exists_binding
  have eased := eased_defer found id
  have waiting := eased.sound sound
  obtain ⟨waited, present⟩ := waiting.exists_binding
  unfold deferRelease
  refine .step (ends_modifyQueue found _) (.step (ends_binding present) (.step (ends_record _ _) ?_))
  refine .step (ends_binding present) ?_
  split
  · apply (returns_collect (waiting.journal _)).bind
    intro _ after collected
    exact ⟨_, _, ends_pure _ _, (eased.journal _).trans collected.1⟩
  · exact ⟨_, _, ends_pure _ _, eased.journal _⟩

theorem returns_dispose (sound : world.Sound true ({id} + held)) :
    Returns (dispose id) world fun _ after => world.Eased after {id} := by
  obtain ⟨binding, found⟩ := sound.exists_binding
  unfold dispose
  refine .step (ends_binding found) ?_
  split
  · exact (returns_releaseHandle sound).mono fun _ _ released => released.eased
  · exact returns_deferRelease sound

end CountBridge
