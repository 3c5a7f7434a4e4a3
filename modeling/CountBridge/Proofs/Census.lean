import CountBridge.Proofs.Cascades
import CountBridge.Proofs.Maintaining

/-! What the counters of the heaps tell from one world to another. Any heap may give back the units of
any object, and is charged for all that this destroys, whichever heap made it. So a counter may fall
below zero and turn over, and only all of them together tell how many objects live. Nothing here asks
for exact accounts: what a misuse destroys before it is noticed is charged as well. -/

namespace CountBridge

open Bridge

/-- How many of the objects were noted under the heap. -/
def through (heap : HeapId) (entries : List (HeapId × ObjectId)) : Nat := entries.countP (·.1 = heap)

@[simp] theorem through_nil (heap : HeapId) : through heap [] = 0 := rfl

@[simp] theorem through_append (heap : HeapId) (first second : List (HeapId × ObjectId)) :
    through heap (first ++ second) = through heap first + through heap second := List.countP_append

@[simp] theorem through_map (heap other : HeapId) (ids : List ObjectId) :
    through other (ids.map (heap, ·)) = if heap = other then ids.length else 0 := by
  split <;> simp_all [through, List.countP_map, Function.comp_def]

theorem through_sole {heap : HeapId} {entries : List (HeapId × ObjectId)} (sole : ∀ entry ∈ entries, entry.1 = heap) :
    through heap entries = entries.length :=
  List.countP_eq_length.mpr fun entry member => decide_eq_true (sole entry member)

/-- What the heap counts; one that is not there counts nothing. -/
def World.counters (world : World) (heap : HeapId) : Heap := world.heaps[heap]?.getD {}

theorem counters_modify {heaps : Array Heap} {heap : HeapId} (inside : heap < heaps.size) (change : Heap → Heap) (other : HeapId) :
    (heaps.modify heap change)[other]?.getD ({} : Heap) =
      if heap = other then change (heaps[other]?.getD {}) else heaps[other]?.getD {} := by
  rw [Array.getElem?_modify]
  split
  next same =>
    subst same
    simp [inside]
  next => rfl

namespace Store

variable {store : Store} {id other : ObjectId}

theorem lt_allocated_of_isLive (lives : store.isLive id = true) : id < store.allocated := by
  obtain ⟨object, found⟩ := Option.isSome_iff_exists.mp lives
  exact lt_allocated_of_find? found

theorem isLive_allocate (store : Store) (payload : Payload) (other : ObjectId) :
    (store.allocate payload).2.isLive other = (decide (other = store.allocated) || store.isLive other) := by
  by_cases here : other = store.allocated <;> simp [isLive, find?_allocate, here]

/-- Whatever is given back is a cascade up to where a misuse stops it, and none is destroyed there. -/
theorem cascade_until (store : Store) (line : List Handle) :
    ∃ moment rest, Cascade store line (store.giveBack line).destroyed moment rest ∧
      ∀ other, (store.giveBack line).store.isLive other = moment.isLive other := by
  fun_induction Store.giveBack store line with
  | case1 store => exact ⟨_, _, .here, fun _ => rfl⟩
  | case2 store line ih =>
    obtain ⟨moment, rest, cascade, same⟩ := ih
    exact ⟨moment, rest, .null cascade, same⟩
  | case3 store id line missing => exact ⟨_, _, .here, fun _ => rfl⟩
  | case4 store id line object found empty => exact ⟨_, _, .here, isLive_set found _⟩
  | case5 store id line object found positive sole after ih =>
    obtain ⟨moment, rest, cascade, same⟩ := ih
    exact ⟨moment, rest, .destroys found sole cascade, same⟩
  | case6 store id line object found positive shared ih =>
    obtain ⟨moment, rest, cascade, same⟩ := ih
    exact ⟨moment, rest, .lowers found positive shared cascade, same⟩

theorem nodup_destroyed (store : Store) (line : List Handle) : (store.giveBack line).destroyed.Nodup := by
  obtain ⟨moment, rest, cascade, -⟩ := cascade_until store line
  exact cascade.nodup

theorem mem_destroyed (store : Store) (line : List Handle) :
    other ∈ (store.giveBack line).destroyed ↔
      store.isLive other = true ∧ (store.giveBack line).store.isLive other = false := by
  obtain ⟨moment, rest, cascade, same⟩ := cascade_until store line
  rw [same, cascade.mem_gone]

theorem isLive_of_giveBack {line : List Handle} (lives : (store.giveBack line).store.isLive other = true) :
    store.isLive other = true := by
  obtain ⟨moment, rest, cascade, same⟩ := cascade_until store line
  exact cascade.isLive_of_moment (same other ▸ lives)

end Store

namespace World

variable {before middle after : World} {births births' deaths deaths' : List (HeapId × ObjectId)} {heap : HeapId} {id : ObjectId}

def spent (world : World) (heap : HeapId) (id : ObjectId) : World :=
  { world with
    store := (world.store.giveBack [some id]).store
    heaps := world.heaps.modify heap (·.destroy (world.store.giveBack [some id]).destroyed.length) }

/-- What the lists of births and deaths have to do with what lives before and after, and with what is
counted by the heaps. -/
structure Census (before : World) (births deaths : List (HeapId × ObjectId)) (after : World) : Prop where
  allocated : after.store.allocated = before.store.allocated + births.length
  born : births.map (·.2) = List.range' before.store.allocated births.length
  once : (deaths.map (·.2)).Nodup
  gone : ∀ id, id ∈ deaths.map (·.2) ↔
    (before.store.isLive id = true ∨ id ∈ births.map (·.2)) ∧ after.store.isLive id = false
  lives : ∀ id, after.store.isLive id = true → before.store.isLive id = true ∨ id ∈ births.map (·.2)
  balance : deaths.length + after.store.liveCount = before.store.liveCount + births.length
  opened : before.heaps.size ≤ after.heaps.size
  housed : ∀ entry ∈ births ++ deaths, entry.1 < after.heaps.size
  total : ∀ heap, (after.counters heap).allocated = (before.counters heap).allocated + UInt64.ofNat (through heap births)
  live : ∀ heap, (after.counters heap).live =
    (before.counters heap).live + UInt64.ofNat (through heap births) - UInt64.ofNat (through heap deaths)
  tallied : Tallied before.heaps before.store → Tallied after.heaps after.store

theorem Census.mem_born (census : before.Census births deaths after) :
    id ∈ births.map (·.2) ↔ before.store.allocated ≤ id ∧ id < after.store.allocated := by
  rw [census.born, List.mem_range'_1, census.allocated]

/-- Neither births nor deaths. -/
theorem Census.still (allocated : after.store.allocated = before.store.allocated)
    (lives : ∀ id, after.store.isLive id = before.store.isLive id) (count : after.store.liveCount = before.store.liveCount)
    (size : before.heaps.size ≤ after.heaps.size)
    (total : ∀ heap, (after.counters heap).allocated = (before.counters heap).allocated)
    (live : ∀ heap, (after.counters heap).live = (before.counters heap).live)
    (tallied : Tallied before.heaps before.store → Tallied after.heaps after.store) : before.Census [] [] after where
  allocated := allocated
  born := rfl
  once := .nil
  gone id := by simp [lives]
  lives id alive := .inl (lives id ▸ alive)
  balance := by simp [count]
  opened := size
  housed := nofun
  total heap := by simp [total]
  live heap := by simp [live]
  tallied := tallied

theorem census_born (inside : heap < before.heaps.size) (payload : Payload) :
    before.Census [(heap, before.store.allocated)] [] (before.born heap payload) where
  allocated := by simp [World.born, Store.allocate, Store.allocated]
  born := rfl
  once := .nil
  gone id := by by_cases here : id = before.store.allocated <;> simp [World.born, Store.isLive_allocate, here]
  lives id alive := by simpa [World.born, Store.isLive_allocate, or_comm] using alive
  balance := by simp [World.born, Store.liveCount_allocate]
  opened := Array.size_modify.ge
  housed entry member := by
    obtain rfl := List.mem_singleton.mp member
    exact inside.trans_eq Array.size_modify.symm
  total other := by
    simp only [counters, World.born, counters_modify inside, through]
    by_cases same : heap = other <;> simp [same, Heap.allocate]
  live other := by
    simp only [counters, World.born, counters_modify inside, through]
    by_cases same : heap = other <;> simp [same, Heap.allocate]
  tallied tallied := tallied.allocate inside payload

theorem census_spent (inside : heap < before.heaps.size) (id : ObjectId) :
    before.Census [] ((before.store.giveBack [some id]).destroyed.map (heap, ·)) (before.spent heap id) where
  allocated := Store.allocated_giveBack ..
  born := rfl
  once := by simpa using Store.nodup_destroyed before.store [some id]
  gone other := by simpa [spent] using Store.mem_destroyed before.store [some id]
  lives other alive := .inl (Store.isLive_of_giveBack alive)
  balance := by
    have counted := Store.liveCount_giveBack before.store [some id]
    simp only [List.length_map, spent, List.length_nil]
    omega
  opened := Array.size_modify.ge
  housed entry member := by
    obtain ⟨other, -, rfl⟩ := List.mem_map.mp member
    exact inside.trans_eq Array.size_modify.symm
  total other := by
    simp only [counters, spent, counters_modify inside, through_nil]
    split <;> simp [Heap.destroy]
  live other := by
    simp only [counters, spent, counters_modify inside, through_map]
    split <;> simp [Heap.destroy]
  tallied tallied := tallied.destroy inside (Store.liveCount_giveBack ..)

theorem census_booted (world : World) (heap : HeapId) :
    world.Census [] [] { world with heaps := world.heaps.modify heap fun counters => { counters with booted := true } } := by
  have kept (other : HeapId) :
      let counters := (world.heaps.modify heap fun counters => { counters with booted := true })[other]?.getD ({} : Heap)
      counters.allocated = (world.counters other).allocated ∧ counters.live = (world.counters other).live := by
    rw [Array.getElem?_modify, counters]
    split
    · cases world.heaps[other]? <;> exact ⟨rfl, rfl⟩
    · exact ⟨rfl, rfl⟩
  exact .still rfl (fun _ => rfl) rfl Array.size_modify.ge (fun other => (kept other).1) (fun other => (kept other).2)
    fun tallied => tallied.boot heap

theorem census_opened (store : after.store = before.store) (heaps : after.heaps = before.heaps.push {}) :
    before.Census [] [] after := by
  have kept (other : HeapId) : after.counters other = before.counters other := by
    rw [counters, heaps, Array.getElem?_push, counters]
    split
    next last => simp [last]
    next => rfl
  refine .still (by rw [store]) (fun _ => by rw [store]) (by rw [store]) ?_ (fun other => by rw [kept]) (fun other => by rw [kept]) ?_
  · simp [heaps]
  · rw [store, heaps]
    exact .push

theorem census_changed {object changed : Object} (found : before.store.find? id = some object)
    (store : after.store = before.store.set id changed) (heaps : after.heaps = before.heaps) : before.Census [] [] after := by
  refine .still ?_ (fun other => ?_) ?_ (by rw [heaps]) (fun heap => ?_) (fun heap => ?_) fun tallied => ?_
  · rw [store, Store.allocated_set]
  · rw [store, Store.isLive_set found]
  · rw [store, Store.liveCount_set found]
  · rw [counters, heaps, counters]
  · rw [counters, heaps, counters]
  · rw [store, heaps]
    exact tallied.set found changed

theorem census_aside (store : after.store = before.store) (heaps : after.heaps = before.heaps) : before.Census [] [] after := by
  refine .still (by rw [store]) (fun _ => by rw [store]) (by rw [store]) (by rw [heaps]) (fun heap => ?_) (fun heap => ?_)
    fun tallied => ?_
  · rw [counters, heaps, counters]
  · rw [counters, heaps, counters]
  · rwa [store, heaps]

theorem Census.lt_allocated (census : before.Census births deaths after)
    (known : before.store.isLive id = true ∨ id ∈ births.map (·.2)) : id < after.store.allocated := by
  rcases known with lives | born
  · exact (Store.lt_allocated_of_isLive lives).trans_le (census.allocated ▸ Nat.le_add_right ..)
  · exact (census.mem_born.mp born).2

/-- An object that was there before is not born again. -/
theorem Census.old (census : before.Census births deaths after) (inside : id < before.store.allocated)
    (known : before.store.isLive id = true ∨ id ∈ births.map (·.2)) : before.store.isLive id = true :=
  known.resolve_right fun born => absurd inside (census.mem_born.mp born).1.not_gt

/-- The lists of what happens first and then are put together. An object that is gone does not come
back, so none dies twice. -/
theorem Census.trans (first : before.Census births deaths middle) (second : middle.Census births' deaths' after) :
    before.Census (births ++ births') (deaths ++ deaths') after where
  allocated := by rw [second.allocated, first.allocated, List.length_append, Nat.add_assoc]
  born := by
    rw [List.map_append, first.born, second.born, first.allocated, List.length_append]
    exact List.range'_append_1
  once := by
    rw [List.map_append]
    refine List.nodup_append'.mpr ⟨first.once, second.once, fun id died again => ?_⟩
    obtain ⟨known, dead⟩ := (first.gone id).mp died
    have lives := second.old (first.lt_allocated known) ((second.gone id).mp again).1
    rw [dead] at lives
    cases lives
  gone id := by
    rw [List.map_append, List.map_append, List.mem_append, List.mem_append, first.gone, second.gone]
    constructor
    · rintro (⟨known, dead⟩ | ⟨lives | born, dead⟩)
      · refine ⟨known.imp_right .inl, Bool.eq_false_of_not_eq_true fun alive => ?_⟩
        have lives := second.old (first.lt_allocated known) (second.lives id alive)
        rw [dead] at lives
        cases lives
      · exact ⟨(first.lives id lives).imp_right .inl, dead⟩
      · exact ⟨.inr (.inr born), dead⟩
    · rintro ⟨known, dead⟩
      cases middle.store.isLive id with
      | true => exact .inr ⟨.inl rfl, dead⟩
      | false =>
        rcases known with lives | born | born
        · exact .inl ⟨.inl lives, rfl⟩
        · exact .inl ⟨.inr born, rfl⟩
        · exact .inr ⟨.inr born, dead⟩
  lives id alive := by
    rw [List.map_append, List.mem_append]
    rcases second.lives id alive with lives | born
    · exact (first.lives id lives).imp_right .inl
    · exact .inr (.inr born)
  balance := by
    have fewer := first.balance
    have later := second.balance
    simp only [List.length_append]
    omega
  opened := first.opened.trans second.opened
  housed entry member := by
    have parted : entry ∈ births ++ deaths ∨ entry ∈ births' ++ deaths' := by
      simp only [List.mem_append] at member ⊢
      tauto
    rcases parted with early | late
    · exact (first.housed entry early).trans_le second.opened
    · exact second.housed entry late
  total heap := by rw [second.total, first.total, through_append, UInt64.ofNat_add, UInt64.add_assoc]
  live heap := by
    rw [second.live, first.live, through_append, through_append, UInt64.ofNat_add, UInt64.ofNat_add]
    grind
  tallied tallied := second.tallied (first.tallied tallied)

/-- The lists tell of all objects that ever were, and the counters of the heaps agree with them. -/
structure Accounted (births deaths : List (HeapId × ObjectId)) (world : World) : Prop where
  born : births.map (·.2) = List.range world.store.allocated
  once : (deaths.map (·.2)).Nodup
  gone : ∀ id, id ∈ deaths.map (·.2) ↔ id < world.store.allocated ∧ world.store.isLive id = false
  housed : ∀ entry ∈ births ++ deaths, entry.1 < world.heaps.size
  total : ∀ heap, (world.counters heap).allocated = UInt64.ofNat (through heap births)
  exact : world.store.allocated < UInt64.size → ∀ heap, (world.counters heap).total = through heap births
  live : ∀ heap, (world.counters heap).live = (world.counters heap).allocated - UInt64.ofNat (through heap deaths)
  sum : (world.heaps.toList.map (·.live.toNat)).sum % UInt64.size = world.store.liveCount % UInt64.size
  sole : world.heaps.size = 1 → through 0 births = through 0 deaths + world.store.liveCount ∧
    (world.counters 0).live = UInt64.ofNat world.store.liveCount ∧
    (world.store.liveCount < UInt64.size → (world.counters 0).live.toNat = world.store.liveCount)

/-- A single heap has all births and deaths to itself. -/
theorem Census.through_single (census : before.Census births deaths after) (single : after.heaps.size = 1) :
    through 0 births = births.length ∧ through 0 deaths = deaths.length := by
  have only (entry : HeapId × ObjectId) (member : entry ∈ births ++ deaths) : entry.1 = 0 :=
    Nat.lt_one_iff.mp (single ▸ census.housed entry member)
  exact ⟨through_sole fun entry member => only entry (List.mem_append_left _ member),
    through_sole fun entry member => only entry (List.mem_append_right _ member)⟩

theorem Census.accounted (census : before.Census births deaths after) (empty : before.store = {}) (fresh : before.heaps = #[{}]) :
    after.Accounted births deaths := by
  have nothing : before.store.allocated = 0 := by rw [empty]; rfl
  have none : before.store.liveCount = 0 := by rw [empty]; rfl
  have unborn (id : ObjectId) : before.store.isLive id = false := by rw [empty]; rfl
  have unused (heap : HeapId) : before.counters heap = {} := by
    rw [counters, fresh]
    cases heap <;> rfl
  have grown : after.store.allocated = births.length := by rw [census.allocated, nothing, Nat.zero_add]
  have total (heap : HeapId) : (after.counters heap).allocated = UInt64.ofNat (through heap births) := by
    rw [census.total, unused, UInt64.zero_add]
  have live (heap : HeapId) : (after.counters heap).live =
      (after.counters heap).allocated - UInt64.ofNat (through heap deaths) := by
    rw [census.live, unused, total, UInt64.zero_add]
  refine ⟨?_, census.once, fun id => ?_, census.housed, total, fun few heap => ?_, live, ?_, fun single => ?_⟩
  · rw [census.born, nothing, grown, List.range_eq_range']
  · rw [census.gone, census.mem_born, unborn, nothing]
    simp
  · have fits : through heap births < UInt64.size := (List.countP_le_length.trans_eq grown.symm).trans_lt few
    rw [Heap.total, total, UInt64.toNat_ofNat', Nat.mod_eq_of_lt fits]
  · exact census.tallied (by rw [empty, fresh]; rfl)
  · obtain ⟨born, died⟩ := census.through_single single
    have balance := census.balance
    have counted : through 0 births = through 0 deaths + after.store.liveCount := by omega
    have same : (after.counters 0).live = UInt64.ofNat after.store.liveCount := by
      rw [live, total, counted, UInt64.ofNat_add]
      grind
    exact ⟨counted, same, fun fits => by rw [same, UInt64.toNat_ofNat', Nat.mod_eq_of_lt fits]⟩

/-- As many objects came and went as the census tells, all of them through the one heap. -/
structure Descends (start : World) (heap? : Option HeapId) (world : World) : Prop where
  census : ∃ births deaths, start.Census births deaths world ∧ ∀ entry ∈ births ++ deaths, heap? = some entry.1
  size : world.heaps.size = start.heaps.size

/-- Besides, no other heap is bound. -/
structure Confined (start : World) (heap? : Option HeapId) (world : World) : Prop extends Descends start heap? world where
  bound : ∀ binding, world.binding? = some binding → heap? = some binding.heap

section Descends

variable {start : World} {heap? : Option HeapId}

theorem Descends.refl (start : World) (heap? : Option HeapId) : start.Descends heap? start :=
  ⟨⟨_, _, census_aside rfl rfl, nofun⟩, rfl⟩

theorem Descends.later (descends : start.Descends heap? before) (census : before.Census births deaths after)
    (sole : ∀ entry ∈ births ++ deaths, heap? = some entry.1) (size : after.heaps.size = before.heaps.size) :
    start.Descends heap? after where
  census := by
    obtain ⟨born, died, earlier, one⟩ := descends.census
    refine ⟨_, _, earlier.trans census, fun entry member => ?_⟩
    have parted : entry ∈ born ++ died ∨ entry ∈ births ++ deaths := by
      simp only [List.mem_append] at member ⊢
      tauto
    exact parted.elim (one entry) (sole entry)
  size := size.trans descends.size

theorem Descends.quiet (descends : start.Descends heap? before) (census : before.Census [] [] after)
    (size : after.heaps.size = before.heaps.size) : start.Descends heap? after := descends.later census nofun size

theorem Descends.aside (descends : start.Descends heap? before) (store : after.store = before.store)
    (heaps : after.heaps = before.heaps) : start.Descends heap? after :=
  descends.quiet (census_aside store heaps) (by rw [heaps])

theorem Descends.born (descends : start.Descends heap? before) (inside : heap < start.heaps.size) (within : heap? = some heap)
    (payload : Payload) : start.Descends heap? (before.born heap payload) := by
  refine descends.later (census_born (descends.size ▸ inside) payload) (fun entry member => ?_) Array.size_modify
  obtain rfl := List.mem_singleton.mp member
  exact within

variable (inside : ∀ heap, heap? = some heap → heap < start.heaps.size)

include inside

/-- Whatever the object system does on the heap is charged to that. -/
theorem sturdy_descends : World.Sturdy false (heap? = some ·) (start.Descends heap?) where
  event _ descends := descends.aside rfl rfl
  ask _ _ _ descends := descends.aside rfl rfl
  breach descends := descends.aside rfl rfl
  share _ found descends := descends.quiet (census_changed found rfl rfl) rfl
  word within _ descends := descends.born (inside _ within) within _
  complain within _ descends := descends.born (inside _ within) within _
  spend id within descends := by
    refine descends.later (census_spent (descends.size ▸ inside _ within) id) (fun entry member => ?_) Array.size_modify
    obtain ⟨other, -, rfl⟩ := List.mem_map.mp member
    exact within
  allocate within _ descends := descends.born (inside _ within) within _
  grow _ found descends := descends.quiet (census_changed found rfl rfl) rfl
  boot heap descends := descends.quiet (census_booted _ heap) Array.size_modify
  bind _ _ descends := descends.aside rfl rfl

/-- So is whatever the bridge does while no other heap is bound. -/
theorem steady_confined : World.Steady false (heap? = some ·) (start.Confined heap?) where
  event event confined := ⟨(sturdy_descends inside).event event confined.toDescends, confined.bound⟩
  ask lawful spends brings confined := ⟨(sturdy_descends inside).ask lawful spends brings confined.toDescends, confined.bound⟩
  breach confined := ⟨(sturdy_descends inside).breach confined.toDescends, confined.bound⟩
  share turnedOver found confined := ⟨(sturdy_descends inside).share turnedOver found confined.toDescends, confined.bound⟩
  word within valid confined := ⟨(sturdy_descends inside).word within valid confined.toDescends, confined.bound⟩
  complain within string confined := ⟨(sturdy_descends inside).complain within string confined.toDescends, confined.bound⟩
  spend id within confined := ⟨(sturdy_descends inside).spend id within confined.toDescends, confined.bound⟩
  allocate within accepted confined := ⟨(sturdy_descends inside).allocate within accepted confined.toDescends, confined.bound⟩
  grow item found confined := ⟨(sturdy_descends inside).grow item found confined.toDescends, confined.bound⟩
  boot heap confined := ⟨(sturdy_descends inside).boot heap confined.toDescends, confined.bound⟩
  bind config within confined := by
    refine ⟨confined.aside rfl rfl, fun binding found => ?_⟩
    cases found
    exact within
  bound confined found := confined.bound _ found
  aside confined store heaps bound := ⟨confined.toDescends.aside store heaps, bound⟩

end Descends

end World

end CountBridge
