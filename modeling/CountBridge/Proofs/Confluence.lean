import Mathlib.Algebra.Order.BigOperators.Group.Finset
import Mathlib.Algebra.BigOperators.Ring.Finset
import CountBridge.Proofs.Worlds

/-! Giving back units in any order. Which objects that destroys is told without any order:
those of the least set that an object belongs to as soon as all of its units are given
back, or are owned within the set. -/

namespace CountBridge

namespace Store

def share [Zero β] (part : Object → β) (store : Store) (id : ObjectId) : β := (store.find? id).elim 0 part

def ownedBy (store : Store) (set : Finset ObjectId) : Multiset ObjectId := ∑ id ∈ set, store.share (·.payload.units) id

def died (before after : Store) : Finset ObjectId :=
  (Finset.range before.allocated).filter fun id => before.isLive id = true ∧ after.isLive id = false

/-- An object belongs to the set if all of its units are given back, or owned within the set. -/
def Closed (store : Store) (line : Multiset ObjectId) (set : Finset ObjectId) : Prop :=
  ∀ id object, store.find? id = some object → object.count.toNat ≤ line.count id + (store.ownedBy set).count id → id ∈ set

variable {β : Type} [AddCommMonoid β] {store after last : Store} {line held : Multiset ObjectId} {id : ObjectId} {object : Object}

theorem share_of_found (part : Object → β) (found : store.find? id = some object) : store.share part id = part object := by
  rw [share, found, Option.elim_some]

theorem share_of_missing (part : Object → β) (missing : store.find? id = none) : store.share part id = 0 := by
  rw [share, missing, Option.elim_none]

theorem sum_places (part : Object → β) (places : List (Option Object)) :
    (places.map fun place => place.elim 0 part).sum = ∑ id ∈ Finset.range places.length, (places[id]?.join).elim 0 part := by
  induction places using List.reverseRecOn with
  | nil => rfl
  | append_singleton places place ih =>
    have earlier : ∑ id ∈ Finset.range places.length, ((places ++ [place])[id]?.join).elim 0 part =
        ∑ id ∈ Finset.range places.length, (places[id]?.join).elim 0 part := by
      refine Finset.sum_congr rfl fun id inside => ?_
      rw [List.getElem?_append_left (Finset.mem_range.mp inside)]
    rw [List.map_append, List.sum_append, ih, List.length_append, List.length_singleton, Finset.sum_range_succ, earlier]
    simp

theorem sum_store (part : Object → β) (store : Store) :
    (store.places.toList.map fun place => place.elim 0 part).sum = ∑ id ∈ Finset.range store.allocated, store.share part id := by
  simp only [sum_places, Array.length_toList, Array.getElem?_toList]
  rfl

theorem owned_eq_sum (store : Store) : store.owned = store.ownedBy (Finset.range store.allocated) :=
  sum_store (·.payload.units) store

theorem liveCount_eq_sum (store : Store) : store.liveCount = ∑ id ∈ Finset.range store.allocated, store.share (fun _ => 1) id := by
  rw [← sum_store, liveCount, ← Array.countP_toList]
  induction store.places.toList with
  | nil => rfl
  | cons place rest ih => cases place <;> simp [ih, Nat.add_comm]

theorem mem_died : id ∈ store.died last ↔ (∃ object, store.find? id = some object) ∧ last.find? id = none := by
  rw [died, Finset.mem_filter, Finset.mem_range, isLive, isLive, Option.isSome_iff_exists, Option.isSome_eq_false_iff,
    Option.isNone_iff_eq_none]
  exact ⟨fun known => known.2, fun known => ⟨lt_allocated_of_find? known.1.choose_spec, known⟩⟩

/-- Nothing is left of what was destroyed, and the others are what they were but for their counts. -/
theorem Repays.share_eq (repaid : Repays store line last) (part : Object → β)
    (alike : ∀ first second : Object, first.payload = second.payload → part first = part second) (id : ObjectId) :
    store.share part id = last.share part id + if id ∈ store.died last then store.share part id else 0 := by
  cases present : last.find? id with
  | some survivor =>
    obtain ⟨earlier, found, same, -⟩ := repaid.survivor present
    have survives : id ∉ store.died last := fun member => by rw [(mem_died.mp member).2] at present; cases present
    rw [if_neg survives, add_zero, share_of_found _ found, share_of_found _ present, alike earlier survivor same]
  | none =>
    rw [share_of_missing _ present, zero_add]
    split
    next => rfl
    next others =>
      cases found : store.find? id with
      | none => exact share_of_missing _ found
      | some object => exact absurd (mem_died.mpr ⟨⟨object, found⟩, present⟩) others

theorem Repays.sum_eq (repaid : Repays store line last) (part : Object → β)
    (alike : ∀ first second : Object, first.payload = second.payload → part first = part second) :
    ∑ id ∈ Finset.range store.allocated, store.share part id =
      ∑ id ∈ Finset.range last.allocated, last.share part id + ∑ id ∈ store.died last, store.share part id := by
  have inside : store.died last ⊆ Finset.range store.allocated := Finset.filter_subset _ _
  calc ∑ id ∈ Finset.range store.allocated, store.share part id
      = ∑ id ∈ Finset.range store.allocated,
          (last.share part id + if id ∈ store.died last then store.share part id else 0) :=
        Finset.sum_congr rfl fun id _ => repaid.share_eq part alike id
    _ = ∑ id ∈ Finset.range last.allocated, last.share part id + ∑ id ∈ store.died last, store.share part id := by
        rw [Finset.sum_add_distrib, Finset.sum_ite_mem, Finset.inter_eq_right.mpr inside, repaid.allocated]

theorem Repays.owned_eq (repaid : Repays store line last) : store.owned = last.owned + store.ownedBy (store.died last) := by
  rw [owned_eq_sum, owned_eq_sum]
  exact repaid.sum_eq (·.payload.units) fun _ _ same => by rw [same]

theorem Repays.liveCount_eq (repaid : Repays store line last) :
    last.liveCount + (store.died last).card = store.liveCount := by
  have single : (store.died last).card = ∑ id ∈ store.died last, store.share (fun _ => 1) id := by
    rw [Finset.card_eq_sum_ones]
    refine Finset.sum_congr rfl fun id member => ?_
    obtain ⟨⟨object, found⟩, -⟩ := mem_died.mp member
    rw [share_of_found _ found]
  rw [liveCount_eq_sum store, liveCount_eq_sum last, repaid.sum_eq (fun _ => 1) fun _ _ _ => rfl, single]

/-- Each unit that is gone was given back, or was owned by what was destroyed. -/
theorem Repays.units_eq (repaid : Repays store line last) (exact : Exact store (line + held)) (id : ObjectId) :
    store.units id = last.units id + line.count id + (store.ownedBy (store.died last)).count id := by
  rw [exact.counted, (exact.repays repaid).counted, repaid.owned_eq]
  simp only [Multiset.count_add]
  omega

theorem Repays.closed_died (repaid : Repays store line last) (exact : Exact store (line + held)) :
    store.Closed line (store.died last) := by
  intro id object found gone
  refine mem_died.mpr ⟨⟨object, found⟩, ?_⟩
  have kept := repaid.units_eq exact id
  rw [units_of_found found] at kept
  cases present : last.find? id with
  | none => rfl
  | some survivor =>
    rw [units_of_found present] at kept
    have none : survivor.count.toNat = 0 := by omega
    exact absurd (UInt32.toNat_inj.mp none) ((exact.repays repaid).positive id survivor present)

theorem ownedBy_remove {set : Finset ObjectId} (found : store.find? id = some object) (member : id ∈ set) :
    (store.remove id).ownedBy set + object.payload.units = store.ownedBy set := by
  have here : (store.remove id).share (·.payload.units) id = 0 := share_of_missing _ (by rw [find?_remove, if_pos rfl])
  have others : ∑ other ∈ set.erase id, (store.remove id).share (·.payload.units) other =
      ∑ other ∈ set.erase id, store.share (·.payload.units) other := by
    refine Finset.sum_congr rfl fun other member => ?_
    rw [share, find?_remove_other (Finset.ne_of_mem_erase member), share]
  rw [ownedBy, ownedBy, ← Finset.add_sum_erase _ _ member, ← Finset.add_sum_erase _ _ member, here, others,
    share_of_found _ found, zero_add, add_comm]

theorem ownedBy_set_count (found : store.find? id = some object) (count : UInt32) (set : Finset ObjectId) :
    (store.set id { object with count }).ownedBy set = store.ownedBy set := by
  refine Finset.sum_congr rfl fun other _ => ?_
  by_cases here : other = id
  · subst here
    rw [share_of_found _ (find?_set_self found _), share_of_found _ found]
  · rw [share, find?_set_other here, share]

/-- The next object in line belongs to a closed set if the unit is its last. -/
theorem Closed.sole {rest : Multiset ObjectId} {set : Finset ObjectId} (closed : store.Closed (id ::ₘ rest) set)
    (found : store.find? id = some object) (sole : object.count = 1) : id ∈ set := by
  refine closed id object found ?_
  rw [sole, UInt32.toNat_one, Multiset.count_cons_self]
  omega

theorem Closed.spend {rest freed : Multiset ObjectId} {set : Finset ObjectId} (closed : store.Closed (id ::ₘ rest) set)
    (spent : store.spend id = some (after, freed)) : after.Closed (freed + rest) set := by
  obtain ⟨object, found, positive, ⟨sole, rfl, rfl⟩ | ⟨-, rfl, rfl⟩⟩ := spend_cases spent
  · intro other kept present gone
    have member := closed.sole found sole
    by_cases here : other = id
    · rwa [here]
    · refine closed other kept ((find?_remove_other here).symm.trans present) ?_
      have whole := congrArg (Multiset.count other) (ownedBy_remove found member)
      rw [Multiset.count_add] at whole gone
      rw [Multiset.count_cons_of_ne here]
      omega
  · intro other kept present gone
    rw [zero_add, Object.decrement, ownedBy_set_count found] at gone
    by_cases here : other = id
    · subst here
      rw [find?_set_self found] at present
      cases present
      have lowered := Object.toNat_decrement positive
      refine closed other object found ?_
      rw [Multiset.count_cons_self]
      omega
    · rw [find?_set_other here] at present
      refine closed other kept present ?_
      rwa [Multiset.count_cons_of_ne here]

/-- By induction on the units given back: the rest keeps to any set that the whole kept to. -/
theorem Repays.died_subset {set : Finset ObjectId} (repaid : Repays store line last) (closed : store.Closed line set) :
    store.died last ⊆ set := by
  induction repaid with
  | done =>
    intro id member
    obtain ⟨⟨object, found⟩, gone⟩ := mem_died.mp member
    rw [found] at gone
    cases gone
  | @unit store after last next freed rest spent further ih =>
    intro id member
    obtain ⟨⟨object, found⟩, gone⟩ := mem_died.mp member
    cases kept : after.find? id with
    | some object => exact ih (closed.spend spent) (mem_died.mpr ⟨⟨object, kept⟩, gone⟩)
    | none =>
      obtain rfl : id = next := by
        by_contra different
        rw [find?_spend_other spent different, found] at kept
        cases kept
      obtain ⟨target, present, -, ⟨sole, -⟩ | ⟨-, rfl, -⟩⟩ := spend_cases spent
      · exact closed.sole present sole
      · rw [find?_set_self present] at kept
        cases kept

theorem Repays.isLeast_died (repaid : Repays store line last) (exact : Exact store (line + held)) :
    IsLeast {set | store.Closed line set} (store.died last) :=
  ⟨repaid.closed_died exact, fun _ closed => repaid.died_subset closed⟩

/-- What a part of a closed set brings about belongs to the set too. -/
theorem Closed.next {part set : Finset ObjectId} (closed : store.Closed line set) (inside : part ⊆ set) (id : ObjectId)
    (found : store.find? id = some object) (gone : object.count.toNat ≤ line.count id + (store.ownedBy part).count id) :
    id ∈ set := by
  have more : store.ownedBy part ≤ store.ownedBy set := Finset.sum_le_sum_of_subset inside
  have counts := Multiset.count_le_of_le id more
  exact closed id object found (by omega)

/-- The count that one unit less leaves is the one that is left, even if more was destroyed on the way. -/
theorem Repays.answer (repaid : Repays store {id} last) (found : store.find? id = some object) :
    object.decrement.count.toNat = last.units id ∧ (object.decrement.count = 0 ↔ id ∈ store.died last) := by
  obtain ⟨after, freed, spent, further⟩ := repaid.first (Multiset.mem_singleton_self id)
  have onward : Repays after freed last := by simpa using further
  obtain ⟨target, present, positive, ⟨sole, rfl, rfl⟩ | ⟨shared, rfl, rfl⟩⟩ := spend_cases spent
  · rw [found] at present
    cases present
    have gone : last.find? id = none := by
      cases kept : last.find? id with
      | none => rfl
      | some survivor =>
        obtain ⟨earlier, there, -⟩ := onward.survivor kept
        rw [find?_remove, if_pos rfl] at there
        cases there
    have zero : object.decrement.count = 0 := by rw [Object.decrement, sole]; rfl
    rw [units_of_missing gone, zero]
    exact ⟨rfl, fun _ => mem_died.mpr ⟨⟨object, found⟩, gone⟩, fun _ => rfl⟩
  · rw [found] at present
    cases present
    obtain rfl := onward.of_nothing rfl
    have kept := find?_set_self found object.decrement
    have lowered := Object.toNat_decrement positive
    rw [units_of_found kept]
    refine ⟨rfl, fun zero => absurd ?_ shared, fun member => ?_⟩
    · refine UInt32.toNat_inj.mp ?_
      rw [zero] at lowered
      exact lowered.symm
    · rw [(mem_died.mp member).2] at kept
      cases kept

end Store

namespace World

/-- Units were given back through a heap, and the journal tells nothing of it. -/
structure Spent (heap : HeapId) (before after : World) (units : Multiset ObjectId) : Prop extends
    Repaid heap before after units where
  journal : after.journal = before.journal

variable {world before middle after last : World} {heap : HeapId} {units more held : Multiset ObjectId}

theorem Spent.nothing (heap : HeapId) (world : World) : Spent heap world world 0 := ⟨.nothing heap world, rfl⟩

theorem Spent.trans (first : Spent heap before middle units) (second : Spent heap middle after more) :
    Spent heap before after (units + more) :=
  ⟨first.toRepaid.trans second.toRepaid, second.journal.trans first.journal⟩

/-- The store that is left settles the world that is left. -/
theorem Spent.eq (spent : Spent heap before after units) : after = { before with
    store := after.store
    heaps := before.heaps.modify heap (·.destroy (before.store.liveCount - after.store.liveCount)) } := by
  obtain ⟨⟨-, heaps, binding, stubs, origin, turnedOver, breached⟩, journal⟩ := spent
  cases after
  rw [World.mk.injEq]
  exact ⟨origin, rfl, heaps, binding, stubs, turnedOver, breached, journal⟩

theorem Spent.unique (first : Spent heap before after units) (second : Spent heap before last units) : after = last := by
  rw [first.eq, second.eq, first.store.det second.store]

end World

variable {world : World} {handle : Handle} {line : List Handle} {held : Multiset ObjectId}

/-- One call, whatever it destroys on the way. -/
theorem decrement_spent (heap : HeapId) (exact : world.store.Exact (unitOf handle + held)) :
    ∃ count after, ends (Native.decrement heap handle) world = (.ok count, after) ∧
      world.Spent heap after (unitOf handle) ∧
      ∀ id ∈ handle, count.toNat = after.store.units id ∧ (count = 0 ↔ id ∈ world.store.died after.store) := by
  cases handle with
  | none => exact ⟨0, world, rfl, .nothing heap world, fun id same => nomatch same⟩
  | some id =>
    obtain ⟨object, found⟩ : ∃ object, world.store.find? id = some object := exact.live_of_held (by simp)
    obtain ⟨after, ended, repaid, journal⟩ := ends_decrement_exact heap exact found
    refine ⟨_, after, ended, ⟨repaid, journal⟩, fun other same => ?_⟩
    cases same
    exact repaid.store.answer found

/-- By induction on the line: the units of the rest are still held after the first call. -/
theorem decrements_spent (heap : HeapId) (exact : world.store.Exact (unitsOf line + held)) :
    ∃ counts last, ends (line.mapM (Native.decrement heap)) world = (.ok counts, last) ∧
      world.Spent heap last (unitsOf line) := by
  induction line generalizing world with
  | nil => exact ⟨[], world, rfl, .nothing heap world⟩
  | cons handle rest ih =>
    have owned : world.store.Exact (unitOf handle + (unitsOf rest + held)) :=
      exact.congr (by rw [unitsOf_cons, add_assoc])
    obtain ⟨count, after, called, spent, -⟩ := decrement_spent heap owned
    obtain ⟨counts, last, others, further⟩ := ih (owned.repays spent.store)
    refine ⟨count :: counts, last, ?_, ?_⟩
    · rw [List.mapM_cons, ends_bind_ok called, ends_bind_ok others]
      rfl
    · rw [unitsOf_cons]
      exact spent.trans further

theorem unitsOf_perm {order : List Handle} (perm : order.Perm line) : unitsOf order = unitsOf line :=
  Multiset.coe_eq_coe.mpr (perm.filterMap id)

/-- All that giving back a line of units through a heap does, told without the order in which it is done. -/
structure World.Frees (heap : HeapId) (before : World) (line : List Handle) (last : World) : Prop where
  /-- Every order of the line leaves this very world. -/
  orders : ∀ order : List Handle, order.Perm line →
    ∃ counts, ends (order.mapM (Native.decrement heap)) before = (.ok counts, last)
  /-- In every order, each call tells the count it leaves, and zero if it is the call that destroys. -/
  answers : ∀ (earlier : List Handle) (handle : Handle) (later : List Handle), (earlier ++ handle :: later).Perm line →
    ∃ counts middle count after, ends (earlier.mapM (Native.decrement heap)) before = (.ok counts, middle) ∧
      ends (Native.decrement heap handle) middle = (.ok count, after) ∧
      (handle = none → count = 0 ∧ after = middle) ∧
      ∀ id ∈ handle, count.toNat = after.store.units id ∧ (count = 0 ↔ id ∈ middle.store.died after.store)
  least : IsLeast {set | before.store.Closed (unitsOf line) set} (before.store.died last.store)
  survivors : ∀ id object, before.store.find? id = some object → id ∉ before.store.died last.store →
    ∃ count : UInt32, last.store.find? id = some { object with count } ∧
      count.toNat + (unitsOf line).count id + (before.store.ownedBy (before.store.died last.store)).count id =
        object.count.toNat
  absent : ∀ id, before.store.find? id = none → last.store.find? id = none
  allocated : last.store.allocated = before.store.allocated
  rest : last = { before with
    store := last.store
    heaps := before.heaps.modify heap fun counters =>
      { counters with live := counters.live - UInt64.ofNat (before.store.died last.store).card } }

theorem decrement_answers (heap : HeapId) {earlier later : List Handle}
    (exact : world.store.Exact (unitsOf (earlier ++ handle :: later) + held)) :
    ∃ counts middle count after, ends (earlier.mapM (Native.decrement heap)) world = (.ok counts, middle) ∧
      ends (Native.decrement heap handle) middle = (.ok count, after) ∧
      (handle = none → count = 0 ∧ after = middle) ∧
      ∀ id ∈ handle, count.toNat = after.store.units id ∧ (count = 0 ↔ id ∈ middle.store.died after.store) := by
  have owned : world.store.Exact (unitsOf earlier + (unitOf handle + (unitsOf later + held))) :=
    exact.congr (by simp only [unitsOf_append, unitsOf_cons, add_assoc])
  obtain ⟨counts, middle, ended, spent⟩ := decrements_spent heap owned
  obtain ⟨count, after, called, -, answer⟩ := decrement_spent heap (owned.repays spent.store)
  refine ⟨counts, middle, count, after, ended, called, fun null => ?_, answer⟩
  subst null
  cases called
  exact ⟨rfl, rfl⟩

/-- Who holds the units of the line may give them back in any order, to the same effect. -/
theorem decrements_confluent (heap : HeapId) (exact : world.store.Exact (unitsOf line + held)) :
    ∃ last, world.Frees heap line last := by
  obtain ⟨counts, last, ended, spent⟩ := decrements_spent heap exact
  have repaid := spent.store
  refine ⟨last, ?orders, ?answers, repaid.isLeast_died exact, ?survivors, ?absent, repaid.allocated, ?rest⟩
  case orders =>
    intro order perm
    have same := unitsOf_perm perm
    obtain ⟨others, other, ended, spent'⟩ := decrements_spent heap (exact.congr (congrArg (· + held) same.symm))
    rw [same] at spent'
    exact ⟨others, spent'.unique spent ▸ ended⟩
  case answers =>
    intro earlier handle later perm
    exact decrement_answers heap (exact.congr (congrArg (· + held) (unitsOf_perm perm).symm))
  case survivors =>
    intro id object found survives
    cases kept : last.store.find? id with
    | none => exact absurd (Store.mem_died.mpr ⟨⟨object, found⟩, kept⟩) survives
    | some survivor =>
      obtain ⟨earlier, present, same, -⟩ := repaid.survivor kept
      rw [found] at present
      cases present
      have units := repaid.units_eq exact id
      rw [Store.units_of_found found, Store.units_of_found kept] at units
      refine ⟨survivor.count, ?_, units.symm⟩
      rw [same]
  case absent =>
    intro id missing
    cases kept : last.store.find? id with
    | none => rfl
    | some survivor =>
      obtain ⟨earlier, present, -⟩ := repaid.survivor kept
      rw [missing] at present
      cases present
  case rest =>
    have card := repaid.liveCount_eq
    have destroyed : world.store.liveCount - last.store.liveCount = (world.store.died last.store).card := by omega
    have whole := spent.eq
    rwa [destroyed] at whole

/-- A message of two errors, a vector that holds one of them twice, and a vector that holds itself. -/
def Store.knotted : Store where
  places := #[some { count := 2, payload := .string "m".toUTF8 }, some { payload := .error (some 0) },
    some { count := 3, payload := .error (some 0) }, some { payload := .vector #[some 2, some 2] },
    some { count := 2, payload := .vector #[some 4] }]

theorem Store.exact_knotted : knotted.Exact (unitsOf [some 1, none, some 3, some 2, some 4] + 0) :=
  .of_places (by decide) (by decide) (by decide)

/-- All is freed but the vector that holds itself. -/
theorem decrements_confluent_knotted :
    Store.knotted.Exact (unitsOf [some 1, none, some 3, some 2, some 4] + 0) ∧
      ∃ last, World.Frees 0 { store := .knotted, heaps := #[{ live := 5, allocated := 5 }] }
          [some 1, none, some 3, some 2, some 4] last ∧
        Store.knotted.died last.store = {0, 1, 2, 3} := by
  obtain ⟨last, frees⟩ : ∃ last, World.Frees 0 { store := .knotted, heaps := #[{ live := 5, allocated := 5 }] }
      [some 1, none, some 3, some 2, some 4] last := decrements_confluent 0 Store.exact_knotted
  obtain ⟨freed, least⟩ := frees.least
  refine ⟨Store.exact_knotted, last, frees, Finset.Subset.antisymm (least ?closed) ?freed⟩
  case closed =>
    intro id object found gone
    have inside := Store.lt_allocated_of_find? found
    change id < 5 at inside
    obtain rfl | fewer := Nat.eq_or_lt_of_le (Nat.le_of_lt_succ inside)
    · cases found
      exact absurd gone (by decide)
    · exact (by decide : ∀ id < 4, id ∈ ({0, 1, 2, 3} : Finset ObjectId)) id fewer
  case freed =>
    have loose := freed.next (Finset.empty_subset _) 1 rfl (by decide)
    have vector := freed.next (Finset.empty_subset _) 3 rfl (by decide)
    have twice := freed.next (Finset.singleton_subset_iff.mpr vector) 2 rfl (by decide)
    have errors := Finset.insert_subset loose (Finset.singleton_subset_iff.mpr twice)
    have shared := freed.next errors 0 rfl (by decide)
    simp [Finset.insert_subset_iff, *]

end CountBridge
