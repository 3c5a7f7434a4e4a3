import CountBridge.Proofs.Confluence
import CountBridge.Proofs.Lag
import CountBridge.Proofs.Readings

/-! Objects that come and go. A routine that gives back all that it made leaves the objects as they
were, and what else then happens to the world is the same as if nothing had been made. Only the number
of objects that were ever made tells the difference. -/

namespace CountBridge

open Bridge

namespace Store

variable {first second store after last : Store} {id other : ObjectId} {object : Object} {units freed held : Multiset ObjectId}
  {payload : Payload}

def Matches (first second : Store) : Prop := ∀ id, second.find? id = first.find? id

theorem Matches.trans (early : Matches first second) (late : Matches second last) : Matches first last :=
  fun id => (late id).trans (early id)

theorem sum_range_of_le {β : Type} [AddCommMonoid β] {bound : Nat} (part : Object → β) (inside : store.allocated ≤ bound) :
    ∑ id ∈ Finset.range store.allocated, store.share part id = ∑ id ∈ Finset.range bound, store.share part id := by
  refine Finset.sum_subset (Finset.range_mono inside) fun id _ outside => share_of_missing part ?_
  by_contra found
  obtain ⟨object, found⟩ := Option.ne_none_iff_exists'.mp found
  exact outside (Finset.mem_range.mpr (lt_allocated_of_find? found))

/-- Empty places count for nothing, so it does not matter how many there are. -/
theorem Matches.sum_eq {β : Type} [AddCommMonoid β] (matching : Matches first second) (part : Object → β) :
    ∑ id ∈ Finset.range second.allocated, second.share part id = ∑ id ∈ Finset.range first.allocated, first.share part id := by
  rw [sum_range_of_le part (le_max_right first.allocated second.allocated),
    sum_range_of_le part (le_max_left first.allocated second.allocated)]
  refine Finset.sum_congr rfl fun id _ => ?_
  rw [share, share, matching id]

theorem Matches.liveCount (matching : Matches first second) : second.liveCount = first.liveCount := by
  rw [liveCount_eq_sum, liveCount_eq_sum, matching.sum_eq]

theorem Exact.matches (exact : Exact first held) (matching : Matches first second) : Exact second held where
  counted id := by
    have owned : second.owned = first.owned := by
      rw [owned_eq_sum, owned_eq_sum]
      exact matching.sum_eq _
    rw [owned, ← exact.counted, units, units, matching id]
  positive id object found := exact.positive id object ((matching id).symm.trans found)

theorem Matches.set (matching : Matches first second) (found : first.find? id = some object) (changed : Object) :
    Matches (first.set id changed) (second.set id changed) := by
  intro other
  by_cases here : other = id
  · subst here
    rw [find?_set_self found, find?_set_self ((matching other).trans found)]
  · rw [find?_set_other here, find?_set_other here, matching]

theorem Matches.remove (matching : Matches first second) (id : ObjectId) : Matches (first.remove id) (second.remove id) := by
  intro other
  rw [find?_remove, find?_remove, matching]

theorem Matches.spend (matching : Matches first second) (spent : first.spend id = some (after, freed)) :
    ∃ last, second.spend id = some (last, freed) ∧ Matches after last := by
  obtain ⟨object, found, positive, outcome⟩ := spend_cases spent
  have same : second.find? id = some object := (matching id).trans found
  rcases outcome with ⟨sole, rfl, rfl⟩ | ⟨shared, rfl, rfl⟩
  · exact ⟨_, spend_sole same sole, matching.remove id⟩
  · exact ⟨_, spend_shared same positive shared, matching.set found _⟩

/-- The same comes of giving back units. -/
theorem Matches.repays (matching : Matches first second) (repaid : Repays first units after) :
    ∃ last, Repays second units last ∧ Matches after last := by
  induction repaid generalizing second with
  | done => exact ⟨second, .done, matching⟩
  | unit spent further ih =>
    obtain ⟨middle, again, matching'⟩ := matching.spend spent
    obtain ⟨last, repaid, same⟩ := ih matching'
    exact ⟨last, .unit again repaid, same⟩

theorem find?_fresh (store : Store) : store.find? store.allocated = none := by
  by_contra found
  obtain ⟨object, found⟩ := Option.ne_none_iff_exists'.mp found
  exact absurd (lt_allocated_of_find? found) (lt_irrefl _)

theorem find?_newborn (store : Store) (payload : Payload) :
    (store.allocate payload).2.find? store.allocated = some { payload } := by
  rw [find?_allocate, if_pos rfl]

theorem spend_newborn (store : Store) (payload : Payload) :
    (store.allocate payload).2.spend store.allocated = some ((store.allocate payload).2.remove store.allocated, payload.units) :=
  spend_sole (find?_newborn store payload) rfl

theorem matches_newborn (store : Store) (payload : Payload) :
    Matches store ((store.allocate payload).2.remove store.allocated) := by
  intro other
  rw [find?_remove, find?_allocate]
  by_cases here : other = store.allocated
  · rw [if_pos here, here, find?_fresh]
  · rw [if_neg here, if_neg here]

theorem decrement_increment (object : Object) : object.increment.decrement = object := by
  simp [Object.increment, Object.decrement]

/-- A unit taken of an object, and given back. -/
theorem matches_set_set (found : store.find? id = some object) (changed : Object) :
    Matches store ((store.set id changed).set id object) := by
  intro other
  by_cases here : other = id
  · subst here
    rw [find?_set_self (find?_set_self found changed), found]
  · rw [find?_set_other here, find?_set_other here]

theorem spend_increment (found : store.find? id = some object) (positive : object.count ≠ 0) (fits : object.increment.count ≠ 0) :
    (store.set id object.increment).spend id = some ((store.set id object.increment).set id object, 0) := by
  have shared : object.increment.count ≠ 1 := by
    intro single
    have grown := Object.toNat_increment fits
    rw [single] at grown
    exact positive (UInt32.toNat_inj.mp (Nat.succ.inj grown).symm)
  have spent := spend_shared (find?_set_self found object.increment) fits shared
  rwa [decrement_increment] at spent

end Store

namespace Heap

def gained (counters : Heap) (made : Nat) : Heap :=
  { counters with live := counters.live + UInt64.ofNat made, allocated := counters.allocated + UInt64.ofNat made }

def aged (counters : Heap) (made : Nat) : Heap := { counters with allocated := counters.allocated + UInt64.ofNat made }

theorem gained_zero (counters : Heap) : counters.gained 0 = counters := by
  simp [gained]

theorem allocate_gained (counters : Heap) (made : Nat) : (counters.gained made).allocate = counters.gained (made + 1) := by
  simp [gained, allocate, UInt64.ofNat_add, add_assoc]

theorem destroy_gained (counters : Heap) (made gone : Nat) :
    (counters.gained made).destroy (made + gone) = (counters.destroy gone).aged made := by
  simp only [gained, destroy, aged, UInt64.ofNat_add, mk.injEq, and_true]
  grind

end Heap

namespace World

/-- All objects are as they were, and so is what waits. Some more came through a heap, and went. -/
structure Spared (before : World) (heap : HeapId) (made : Nat) (after : World) : Prop where
  store : before.store.Matches after.store
  allocated : after.store.allocated = before.store.allocated + made
  heaps : after.heaps = before.heaps.modify heap (·.aged made)
  binding : after.binding? = before.binding?
  stubs : after.stubs = before.stubs
  origin : after.origin = before.origin

/-- Units were lent to the caller, of objects that were there or were made for it. Giving them back leaves
all objects as they were. -/
structure Lent (before : World) (heap : HeapId) (made : Nat) (units : Multiset ObjectId) (after : World) : Prop where
  back : ∃ last, after.store.Repays units last ∧ before.store.Matches last
  sound : ∀ {bound held}, before.Sound bound held → after.Sound bound (units + held)
  counted : after.store.liveCount = before.store.liveCount + made
  allocated : after.store.allocated = before.store.allocated + made
  heaps : after.heaps = before.heaps.modify heap (·.gained made)
  binding : after.binding? = before.binding?
  stubs : after.stubs = before.stubs
  origin : after.origin = before.origin

variable {world before middle after last other : World} {heap : HeapId} {made : Nat} {units held : Multiset ObjectId}
  {id : ObjectId} {object : Object} {bound : Bool} {binding : Binding}

theorem Spared.journal (spared : before.Spared heap made after) (journal : Array Entry) :
    before.Spared heap made { after with journal } :=
  ⟨spared.store, spared.allocated, spared.heaps, spared.binding, spared.stubs, spared.origin⟩

theorem Lent.journal (lent : before.Lent heap made units after) (journal : Array Entry) :
    before.Lent heap made units { after with journal } :=
  ⟨lent.back, fun sound => (lent.sound sound).journal journal, lent.counted, lent.allocated, lent.heaps, lent.binding,
    lent.stubs, lent.origin⟩

/-- What the journal told beforehand does not matter. -/
theorem Spared.of_journal {journal : Array Entry} (spared : Spared { before with journal } heap made after) :
    before.Spared heap made after :=
  ⟨spared.store, spared.allocated, spared.heaps, spared.binding, spared.stubs, spared.origin⟩

theorem Lent.of_journal {journal : Array Entry} (lent : Lent { before with journal } heap made units after) :
    before.Lent heap made units after :=
  ⟨lent.back, fun sound => lent.sound (sound.journal journal), lent.counted, lent.allocated, lent.heaps, lent.binding,
    lent.stubs, lent.origin⟩

theorem modify_modify (heaps : Array Heap) (heap : HeapId) (first second : Heap → Heap) :
    (heaps.modify heap first).modify heap second = heaps.modify heap fun counters => second (first counters) := by
  apply Array.ext_getElem?
  intro index
  simp only [Array.getElem?_modify]
  split
  · cases heaps[index]? <;> rfl
  · rfl

theorem modify_same (heaps : Array Heap) (heap : HeapId) : heaps.modify heap (fun counters => counters) = heaps := by
  apply Array.ext_getElem?
  intro index
  rw [Array.getElem?_modify]
  split
  · cases heaps[index]? <;> rfl
  · rfl

theorem modify_aged_zero (heaps : Array Heap) (heap : HeapId) : heaps.modify heap (·.aged 0) = heaps := by
  simp [Heap.aged, modify_same]

theorem Spared.nothing (heap : HeapId) (world : World) : world.Spared heap 0 world :=
  ⟨fun _ => rfl, rfl, (modify_aged_zero world.heaps heap).symm, rfl, rfl, rfl⟩

theorem Spared.sound (spared : before.Spared heap made after) (sound : before.Sound bound held) : after.Sound bound held where
  exact := by
    have queued : after.queued = before.queued := by rw [queued, queued, spared.binding]
    rw [queued]
    exact sound.exact.matches spared.store
  booted binding found := by
    rw [spared.heaps]
    exact booted_modify _ _ _ _ (fun _ booted => booted) (sound.booted binding (spared.binding ▸ found))
  bound known := by
    rw [isBound, spared.binding]
    exact sound.bound known

theorem Lent.nothing (heap : HeapId) (world : World) : world.Lent heap 0 0 world where
  back := ⟨world.store, .done, fun _ => rfl⟩
  sound sound := sound.congr (zero_add _).symm
  counted := rfl
  allocated := rfl
  heaps := by simp only [Heap.gained_zero, modify_same]
  binding := rfl
  stubs := rfl
  origin := rfl

/-- A new object may take over what was lent, and is lent itself. -/
theorem Lent.owner {payload : Payload} (lent : before.Lent heap made payload.units middle) :
    before.Lent heap (made + 1) {middle.store.allocated} (middle.born heap payload) where
  back := by
    obtain ⟨last, repaid, matching⟩ := lent.back
    obtain ⟨last', repaid', matching'⟩ := (Store.matches_newborn middle.store payload).repays repaid
    have further : Store.Repays ((middle.store.allocate payload).2.remove middle.store.allocated) (payload.units + 0) last' := by
      rwa [add_zero]
    exact ⟨last', .unit (Store.spend_newborn _ _) further, matching.trans matching'⟩
  sound sound := World.Sound.born (lent.sound sound) heap
  counted := by rw [born, Store.liveCount_allocate, lent.counted, Nat.add_assoc]
  allocated := by
    have grown : (middle.born heap payload).store.allocated = middle.store.allocated + 1 := by
      simp [born, Store.allocate, Store.allocated]
    rw [grown, lent.allocated, Nat.add_assoc]
  heaps := by simp only [born, lent.heaps, modify_modify, Heap.allocate_gained]
  binding := lent.binding
  stubs := lent.stubs
  origin := lent.origin

/-- A new string belongs to the caller. -/
theorem lent_string (world : World) (heap : HeapId) (bytes : ByteArray) :
    world.Lent heap 1 {world.store.allocated} (world.born heap (.string bytes)) := by
  have nothing : (Payload.string bytes).units = 0 := rfl
  exact Lent.owner (nothing ▸ Lent.nothing heap world)

def reporting (world : World) (heap : HeapId) (text : String) : World :=
  (world.born heap (.string text.toUTF8)).born heap (.error (some world.store.allocated))

/-- Two objects were made: a string, and an error that owns its one unit. The one unit of the error is lent to
the caller. -/
structure Reported (before : World) (heap : HeapId) (text : String) (after : World) : Prop
    extends Lent before heap 2 {before.store.allocated + 1} after where
  message : after.store.find? before.store.allocated = some { count := 1, payload := .string text.toUTF8 }
  error : after.store.find? (before.store.allocated + 1) = some { count := 1, payload := .error (some before.store.allocated) }
  others : ∀ id < before.store.allocated, after.store.find? id = before.store.find? id

theorem reported (world : World) (heap : HeapId) (text : String) : world.Reported heap text (world.reporting heap text) := by
  let first := (world.store.allocate (.string text.toUTF8)).2
  have owned : (Payload.error (some world.store.allocated)).units = {world.store.allocated} := rfl
  have lent := lent_string world heap text.toUTF8
  have next : first.allocated = world.store.allocated + 1 := lent.allocated
  have inside : world.store.allocated < first.allocated := next ▸ Nat.lt_succ_self _
  have owner := Lent.owner (owned ▸ lent)
  refine ⟨next ▸ owner, ?_, ?_, fun id earlier => ?_⟩
  · exact (Store.find?_allocate_other inside _).trans (Store.find?_newborn _ _)
  · rw [← next]
    exact Store.find?_newborn first _
  · exact (Store.find?_allocate_other (earlier.trans inside) _).trans (Store.find?_allocate_other earlier _)

theorem Reported.journal {text : String} (reported : before.Reported heap text after) (journal : Array Entry) :
    before.Reported heap text { after with journal } :=
  ⟨reported.toLent.journal journal, reported.message, reported.error, reported.others⟩

theorem Reported.of_journal {text : String} {journal : Array Entry} (reported : Reported { before with journal } heap text after) :
    before.Reported heap text after :=
  ⟨reported.toLent.of_journal, reported.message, reported.error, reported.others⟩

theorem lent_share (found : world.store.find? id = some object) (positive : object.count ≠ 0) (fits : object.increment.count ≠ 0)
    (heap : HeapId) : world.Lent heap 0 {id} { world with store := world.store.set id object.increment } where
  back := ⟨_, .unit (Store.spend_increment found positive fits) .done, Store.matches_set_set found _⟩
  sound sound := ⟨(sound.exact.increment found fits).congr (add_left_comm _ _ _), sound.booted, sound.bound⟩
  counted := Store.liveCount_set found _
  allocated := Store.allocated_set _ _ _
  heaps := by simp only [Heap.gained_zero, modify_same]
  binding := rfl
  stubs := rfl
  origin := rfl

theorem Lent.spared (lent : before.Lent heap made units middle) (repaid : Repaid heap middle after units) :
    before.Spared heap made after where
  store := by
    obtain ⟨last, spent, matching⟩ := lent.back
    rwa [repaid.store.det spent]
  allocated := repaid.store.allocated.trans lent.allocated
  heaps := by
    obtain ⟨last, spent, matching⟩ := lent.back
    have fewer : middle.store.liveCount - after.store.liveCount = made + 0 := by
      rw [repaid.store.det spent, matching.liveCount, lent.counted, Nat.add_sub_cancel_left, Nat.add_zero]
    have kept (counters : Heap) : counters.destroy 0 = counters := by simp [Heap.destroy]
    simp only [repaid.heaps, lent.heaps, modify_modify, fewer, Heap.destroy_gained, kept]
  binding := repaid.binding.trans lent.binding
  stubs := repaid.stubs.trans lent.stubs
  origin := repaid.origin.trans lent.origin

end World

theorem ends_heap_bind {α : Type} {world : World} {binding : Binding} (found : world.binding? = some binding)
    (next : HeapId → Bridge α) : ends (Bound.heap >>= next) world = ends (next binding.heap) world := by
  rw [Bound.heap, bind_assoc, ends_bind_ok (ends_binding found), pure_bind]

/-- A unit that can be given back is, by the heap that is bound. -/
theorem ends_releaseHandle_repays {world : World} {binding : Binding} {id : ObjectId} {last : Store}
    (found : world.binding? = some binding) (repays : world.store.Repays {id} last) :
    ∃ after, ends (releaseHandle id) world = (.ok (), after) ∧ World.Repaid binding.heap world after {id} := by
  have single : world.store.Repays (unitsOf [some id]) last := by simpa using repays
  obtain ⟨regular, rest⟩ := single.giveBack
  obtain ⟨after, freed, spent, -⟩ := repays.first (Multiset.mem_singleton_self id)
  obtain ⟨object, present, -, -⟩ := Store.spend_cases spent
  have fewer := Store.liveCount_giveBack world.store [some id]
  have destroyed : (world.store.giveBack [some id]).destroyed.length = world.store.liveCount - last.liveCount := by
    rw [rest] at fewer
    omega
  let left : World := { world with
    store := last
    heaps := world.heaps.modify binding.heap (·.destroy (world.store.liveCount - last.liveCount)) }
  have repaid : World.Repaid binding.heap world left {id} := ⟨repays, rfl, rfl, rfl, rfl, rfl, rfl⟩
  have ended := ends_decrement binding.heap present
  rw [regular, rest, destroyed] at ended
  have released : ∃ journal, ends (releaseHandle id) world = (.ok (), { left with journal }) :=
    ⟨_, by rw [releaseHandle, Bound.decrement, ends_bind, ends_after, ends_heap_bind found, ended]; rfl⟩
  obtain ⟨journal, released⟩ := released
  exact ⟨_, released, repaid.journal journal⟩

theorem World.Lent.ends_releaseHandle {before middle : World} {binding : Binding} {made : Nat} {id : ObjectId}
    (lent : before.Lent binding.heap made {id} middle) (found : before.binding? = some binding) :
    ∃ after, ends (releaseHandle id) middle = (.ok (), after) ∧ before.Spared binding.heap made after := by
  obtain ⟨last, repays, -⟩ := lent.back
  obtain ⟨after, ended, repaid⟩ := ends_releaseHandle_repays (lent.binding.trans found) repays
  exact ⟨after, ended, lent.spared repaid⟩

namespace World

variable {before middle after last other : World} {heap : HeapId} {made : Nat} {units held : Multiset ObjectId}
  {id : ObjectId} {binding : Binding}

/-- What comes of giving back units is settled by what they are. -/
theorem Repaid.det (first : Repaid heap before after units) (second : Repaid heap before other units) :
    ∃ journal, other = { after with journal } := by
  have store := second.store.det first.store
  have heaps := second.heaps.trans (store ▸ first.heaps.symm)
  refine ⟨other.journal, ?_⟩
  obtain ⟨origin, _, _, binding, stubs, turnedOver, breached, journal⟩ := other
  obtain ⟨_, _, _, _, _, _, _, _⟩ := after
  cases store
  cases heaps
  cases second.binding.trans first.binding.symm
  cases second.stubs.trans first.stubs.symm
  cases second.origin.trans first.origin.symm
  cases second.turnedOver.trans first.turnedOver.symm
  cases second.breached.trans first.breached.symm
  rfl

theorem Released.det (first : Released before after units) (second : Released before other units) :
    ∃ journal, other = { after with journal } := by
  obtain ⟨binding, found, repaid⟩ := first
  obtain ⟨same, present, repaid'⟩ := second
  rw [found] at present
  cases present
  exact repaid.det repaid'

/-- If nothing waits afterwards, all that waited was given back. -/
theorem Eased.settled (eased : Eased before after units) (empty : after.queued = 0) :
    Released (before.withQueue {}) after (before.queued + units) := by
  obtain ⟨bound, present⟩ := eased.exists_binding
  obtain ⟨queue, part, shared, released⟩ := eased
  have waits : (↑queue.items.toList : Multiset ObjectId) = 0 := by
    obtain ⟨binding, found, repaid⟩ := released
    rw [queued, repaid.binding, ← queued, queued_withQueue present] at empty
    exact empty
  have none : queue = {} := by
    obtain ⟨⟨items⟩⟩ := queue
    simpa using waits
  rw [shared, waits, add_zero, ← none]
  exact released

theorem Spared.settled (spared : before.Spared binding.heap made middle) (found : before.binding? = some binding)
    (first : Released (before.withQueue {}) after units) (second : Released (middle.withQueue {}) last units) :
    after.Spared binding.heap made last := by
  have found' : middle.binding? = some binding := spared.binding.trans found
  obtain ⟨bound, present, repaid⟩ := first
  obtain ⟨bound', present', repaid'⟩ := second
  simp only [withQueue, found, Option.map_some, Option.some.injEq] at present
  simp only [withQueue, found', Option.map_some, Option.some.injEq] at present'
  subst present present'
  obtain ⟨last', again, matching⟩ := spared.store.repays repaid.store
  have same : last.store = last' := repaid'.store.det again
  have lost : middle.store.liveCount - last.store.liveCount = before.store.liveCount - after.store.liveCount := by
    rw [spared.store.liveCount, same, matching.liveCount]
  refine ⟨same ▸ matching, ?_, ?_, ?_, ?_, ?_⟩
  · exact repaid'.store.allocated.trans (spared.allocated.trans (congrArg (· + made) repaid.store.allocated.symm))
  · have charged : last.heaps = middle.heaps.modify binding.heap (·.destroy (middle.store.liveCount - last.store.liveCount)) :=
      repaid'.heaps
    have charged' : after.heaps = before.heaps.modify binding.heap (·.destroy (before.store.liveCount - after.store.liveCount)) :=
      repaid.heaps
    rw [charged, charged', lost, spared.heaps, modify_modify, modify_modify]
    rfl
  · rw [repaid'.binding, repaid.binding, withQueue, withQueue, spared.binding]
  · exact repaid'.stubs.trans (spared.stubs.trans repaid.stubs.symm)
  · exact repaid'.origin.trans (spared.origin.trans repaid.origin.symm)

/-- If what waits is collected in both worlds, then they differ only in what came and went. -/
def SparedLate (before : World) (heap : HeapId) (made : Nat) (after : World) : Prop :=
  ∃ early late first second, ends collect before = (.ok early, first) ∧ ends collect after = (.ok late, second) ∧
    first.Spared heap made second

/-- Nothing but objects that came and went. Where releases are deferred, that is seen when they are made. -/
structure Undone (before : World) (binding : Binding) (made : Nat) (after : World) : Prop where
  immediate : binding.config.policy = .immediate → before.Spared binding.heap made after
  late : before.SparedLate binding.heap made after

theorem Spared.undone (spared : before.Spared binding.heap made after) (found : before.binding? = some binding)
    (sound : before.Sound true held) : before.Undone binding made after where
  immediate _ := spared
  late := by
    obtain ⟨early, first, collected, eased, empty⟩ := returns_collect sound
    obtain ⟨late, second, collected', eased', empty'⟩ := returns_collect (spared.sound sound)
    have waiting : after.queued = before.queued := by rw [queued, queued, spared.binding]
    have settled := eased'.settled empty'
    rw [waiting] at settled
    exact ⟨early, late, first, second, collected, collected', spared.settled found (eased.settled empty) settled⟩

/-- The unit that was lent may be given back as the policy says. -/
theorem Lent.ends_dispose (lent : before.Lent binding.heap made {id} middle) (found : before.binding? = some binding)
    (sound : before.Sound true held) :
    ∃ after, ends (dispose id) middle = (.ok (), after) ∧ before.Undone binding made after := by
  have owed : middle.Sound true ({id} + held) := lent.sound sound
  have found' : middle.binding? = some binding := lent.binding.trans found
  obtain ⟨final, repays, -⟩ := lent.back
  obtain ⟨back, released, repaid⟩ := ends_releaseHandle_repays found' repays
  have spared := lent.spared repaid
  obtain ⟨_, after, disposed, eased⟩ := returns_dispose owed
  refine ⟨after, disposed, fun immediate => ?_, ?_⟩
  · have atOnce : ends (dispose id) middle = (.ok (), back) := by
      rw [dispose, ends_bind_ok (ends_binding found'), immediate]
      exact released
    rw [disposed] at atOnce
    cases atOnce
    exact spared
  · -- Giving back the unit at once and then collecting comes to the same.
    obtain ⟨early, first, collected, easedFirst, emptyFirst⟩ := returns_collect sound
    obtain ⟨_, second, -, easedSecond, emptySecond⟩ := returns_collect (spared.sound sound)
    obtain ⟨late, last, collectedLast, easedLast, emptyLast⟩ := returns_collect (eased.sound owed)
    have waiting : back.queued = before.queued := by rw [queued, queued, spared.binding]
    have waiting' : middle.queued = before.queued := by rw [queued, queued, lent.binding]
    have viaRelease := (Released.withQueue ⟨binding, found', repaid⟩ {}).trans (easedSecond.settled emptySecond)
    have viaQueue := (eased.trans easedLast).settled emptyLast
    rw [waiting, add_zero, add_comm] at viaRelease
    rw [waiting', add_zero] at viaQueue
    obtain ⟨journal, rfl⟩ := viaRelease.det viaQueue
    have settled := easedSecond.settled emptySecond
    rw [waiting] at settled
    exact ⟨early, late, first, _, collected, collectedLast, (spared.settled found (easedFirst.settled emptyFirst) settled).journal journal⟩

end World

end CountBridge
