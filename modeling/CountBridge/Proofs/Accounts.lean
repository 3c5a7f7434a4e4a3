import CountBridge.Proofs.Repayment
import Mathlib.Algebra.BigOperators.Group.List.Basic

/-! Exact accounts of a store. Every unit that a count tells of belongs to
somebody: to another object, or to whoever holds it outside the store. -/

namespace CountBridge.Store

/-- The units of an object that its count tells of. -/
def units (store : Store) (id : ObjectId) : Nat := (store.find? id).elim 0 (·.count.toNat)

def owned (store : Store) : Multiset ObjectId :=
  (store.places.toList.map fun place => place.elim 0 (·.payload.units)).sum

/-- Counts tell exactly the units owned inside and held outside, and a live
object has at least one. -/
structure Exact (store : Store) (held : Multiset ObjectId) : Prop where
  counted : ∀ id, store.units id = (store.owned + held).count id
  positive : ∀ id object, store.find? id = some object → object.count ≠ 0

variable {store : Store} {id : ObjectId} {object : Object} {held : Multiset ObjectId}

theorem units_of_found (found : store.find? id = some object) : store.units id = object.count.toNat := by
  simp [units, found]

theorem units_of_missing (missing : store.find? id = none) : store.units id = 0 := by
  simp [units, missing]

theorem owned_allocate (store : Store) (payload : Payload) :
    (store.allocate payload).2.owned = store.owned + payload.units := by
  simp [owned, allocate]

private theorem sum_set {places : Array (Option Object)} {id : ObjectId} {object : Object}
    (here : places[id]? = some (some object)) (place : Option Object) :
    ((places.setIfInBounds id place).toList.map fun place => place.elim 0 (·.payload.units)).sum +
        object.payload.units =
      (places.toList.map fun place => place.elim 0 (·.payload.units)).sum +
        place.elim 0 (·.payload.units) := by
  obtain ⟨inside, same⟩ := Array.getElem?_eq_some_iff.mp here
  have inside' : id < places.toList.length := by simpa using inside
  have split : places.toList = places.toList.take id ++ some object :: places.toList.drop (id + 1) := by
    rw [← same, ← Array.getElem_toList, ← List.drop_eq_getElem_cons inside', List.take_append_drop]
  rw [Array.toList_setIfInBounds, List.set_eq_take_append_cons_drop, if_pos inside']
  conv_rhs => rw [split]
  simp only [List.map_append, List.map_cons, List.sum_append, List.sum_cons, Option.elim]
  abel

private theorem place_of_found (found : store.find? id = some object) :
    store.places[id]? = some (some object) := by
  simpa [find?, Option.join_eq_some_iff] using found

theorem owned_set (found : store.find? id = some object) (changed : Object) :
    (store.set id changed).owned + object.payload.units = store.owned + changed.payload.units :=
  sum_set (place_of_found found) (some changed)

theorem owned_remove (found : store.find? id = some object) :
    (store.remove id).owned + object.payload.units = store.owned := by
  have whole := sum_set (place_of_found found) none
  rwa [Option.elim_none, add_zero] at whole

/-- A count that alone is changed changes nothing about who owns what. -/
theorem owned_set_count (found : store.find? id = some object) (count : UInt32) :
    (store.set id { object with count }).owned = store.owned :=
  add_right_cancel (owned_set found { object with count })

namespace Exact

theorem congr {other : Multiset ObjectId} (exact : Exact store held) (same : held = other) :
    Exact store other := same ▸ exact

theorem live_of_mem (exact : Exact store held) (member : id ∈ store.owned + held) :
    ∃ object, store.find? id = some object := by
  cases found : store.find? id with
  | some object => exact ⟨object, rfl⟩
  | none =>
    have counted := exact.counted id
    rw [units_of_missing found] at counted
    exact absurd member (Multiset.count_eq_zero.mp counted.symm)

theorem live_of_held (exact : Exact store held) (member : id ∈ held) :
    ∃ object, store.find? id = some object :=
  exact.live_of_mem (Multiset.mem_add.mpr (.inr member))

theorem empty : Exact {} 0 := by
  refine ⟨fun id => ?_, fun id object found => ?_⟩
  · simp [units, find?, owned]
  · simp [find?] at found

/-- Accounts can be checked place by place, if they tell of no place beyond those. -/
theorem of_places (counted : ∀ id < store.allocated, store.units id = (store.owned + held).count id)
    (positive : ∀ id < store.allocated, (store.find? id).all (·.count ≠ 0) = true)
    (inside : ∀ id ∈ store.owned + held, id < store.allocated) : Exact store held := by
  refine ⟨fun id => ?_, fun id object found => ?_⟩
  · rcases Nat.lt_or_ge id store.allocated with within | beyond
    · exact counted id within
    · have missing : store.find? id = none := by
        by_contra present
        obtain ⟨object, found⟩ := Option.ne_none_iff_exists'.mp present
        exact Nat.not_lt.mpr beyond (lt_allocated_of_find? found)
      have absent : id ∉ store.owned + held := fun member => Nat.not_lt.mpr beyond (inside id member)
      rw [units_of_missing missing, Multiset.count_eq_zero_of_notMem absent]
  · have here := positive id (lt_allocated_of_find? found)
    rw [found] at here
    simpa using here

theorem allocate {payload : Payload} (exact : Exact store (payload.units + held)) :
    Exact (store.allocate payload).2 ({store.allocated} + held) := by
  have absent : store.find? store.allocated = none := by simp [find?, allocated]
  refine ⟨fun id => ?_, fun id object found => ?_⟩
  · have counted := exact.counted id
    rw [owned_allocate]
    by_cases fresh : id = store.allocated
    · subst fresh
      rw [units_of_missing absent] at counted
      simp only [units, find?_allocate, if_pos, Option.elim, UInt32.toNat_one, Multiset.count_add,
        Multiset.count_singleton_self] at counted ⊢
      omega
    · simp only [units, find?_allocate, if_neg fresh, Multiset.count_add,
        Multiset.count_singleton] at counted ⊢
      omega
  · rw [find?_allocate] at found
    split at found
    · cases found; simp
    · exact exact.positive id object found

theorem increment (exact : Exact store held) (found : store.find? id = some object)
    (fits : object.increment.count ≠ 0) : Exact (store.set id object.increment) ({id} + held) := by
  have grown := Object.toNat_increment fits
  have same : (store.set id object.increment).owned = store.owned := owned_set_count found _
  refine ⟨fun other => ?_, fun other changed present => ?_⟩
  · have counted := exact.counted other
    rw [same]
    by_cases here : other = id
    · subst here
      rw [units_of_found found] at counted
      rw [units_of_found (find?_set_self found _), grown]
      simp only [Multiset.count_add, Multiset.count_singleton_self] at counted ⊢
      omega
    · simp only [units, find?_set_other here, Multiset.count_add, Multiset.count_singleton,
        if_neg here] at counted ⊢
      omega
  · by_cases here : other = id
    · subst here
      rw [find?_set_self found] at present
      cases present
      exact fits
    · rw [find?_set_other here] at present
      exact exact.positive other changed present

/-- An object may take over units that were held outside. -/
theorem takeOver {payload : Payload} {more : Multiset ObjectId} (exact : Exact store (more + held))
    (found : store.find? id = some object) (owns : payload.units = object.payload.units + more) :
    Exact (store.set id { object with payload }) held := by
  have whole := owned_set found { object with payload }
  refine ⟨fun other => ?_, fun other changed present => ?_⟩
  · have counted := exact.counted other
    have same : (store.set id { object with payload }).units other = store.units other := by
      by_cases here : other = id
      · subst here
        rw [units_of_found found, units_of_found (find?_set_self found _)]
      · simp only [units, find?_set_other here]
    have grown := congrArg (Multiset.count other) whole
    simp only [owns, Multiset.count_add] at grown
    rw [same, counted]
    simp only [Multiset.count_add]
    omega
  · by_cases here : other = id
    · subst here
      rw [find?_set_self found] at present
      cases present
      exact exact.positive other object found
    · rw [find?_set_other here] at present
      exact exact.positive other changed present

/-- A unit that somebody holds can be given back. -/
theorem spend (exact : Exact store ({id} + held)) :
    ∃ after freed, store.spend id = some (after, freed) ∧ Exact after (freed + held) := by
  obtain ⟨object, found⟩ : ∃ object, store.find? id = some object := exact.live_of_held (by simp)
  have positive := exact.positive id object found
  have lowered := Object.toNat_decrement positive
  by_cases sole : object.count = 1
  · refine ⟨_, _, spend_sole found sole, fun other => ?_, fun other kept present => ?_⟩
    · have counted := exact.counted other
      have whole := congrArg (Multiset.count other) (owned_remove found)
      simp only [units, find?_remove, Multiset.count_add, Multiset.count_singleton] at counted whole ⊢
      by_cases here : other = id
      · subst here
        simp only [found, Option.elim, sole, UInt32.toNat_one, if_pos] at counted ⊢
        omega
      · simp only [if_neg here] at counted ⊢
        omega
    · rw [find?_remove] at present
      split at present
      · cases present
      · exact exact.positive other kept present
  · have same : (store.set id object.decrement).owned = store.owned := owned_set_count found _
    refine ⟨_, _, spend_shared found positive sole, fun other => ?_, fun other kept present => ?_⟩
    · have counted := exact.counted other
      rw [same]
      by_cases here : other = id
      · subst here
        rw [units_of_found found] at counted
        rw [units_of_found (find?_set_self found _)]
        simp only [Multiset.count_add, Multiset.count_singleton_self, zero_add] at counted ⊢
        omega
      · simp only [units, find?_set_other here, Multiset.count_add, Multiset.count_singleton,
          if_neg here, zero_add] at counted ⊢
        omega
    · by_cases here : other = id
      · subst here
        rw [find?_set_self found] at present
        cases present
        intro zero
        have none : object.decrement.count.toNat = 0 := congrArg UInt32.toNat zero
        exact sole (UInt32.toNat_inj.mp (by rw [UInt32.toNat_one]; omega))
      · rw [find?_set_other here] at present
        exact exact.positive other kept present

theorem repays {line : Multiset ObjectId} {last : Store} (exact : Exact store (line + held))
    (repaid : Repays store line last) : Exact last held := by
  induction repaid with
  | done => exact exact.congr (zero_add held)
  | unit spent further ih =>
    obtain ⟨after, freed, again, left⟩ := spend (exact.congr (by rw [Multiset.cons_add, Multiset.singleton_add]))
    rw [spent] at again
    cases again
    exact ih (left.congr (add_assoc _ _ _).symm)

/-- Units that somebody holds can all be given back, in the order of the line. -/
theorem giveBack {line : List Handle} (exact : Exact store (unitsOf line + held)) :
    (store.giveBack line).misuse = none ∧ Exact (store.giveBack line).store held ∧
      Repays store (unitsOf line) (store.giveBack line).store := by
  fun_induction Store.giveBack store line with
  | case1 store => exact ⟨rfl, by simpa using exact, .done⟩
  | case2 store line ih => simpa using ih (by simpa using exact)
  | case3 store id line missing =>
    obtain ⟨object, found⟩ : ∃ object, store.find? id = some object := exact.live_of_held (by simp)
    rw [missing] at found
    cases found
  | case4 store id line object found empty => exact absurd empty (exact.positive id object found)
  | case5 store id line object found positive sole after ih =>
    obtain ⟨rest, freed, spent, further⟩ := spend (exact.congr (by simp only [unitsOf_cons, unitOf_some]; rw [add_assoc]))
    rw [spend_sole found sole] at spent
    cases spent
    obtain ⟨regular, left, repaid⟩ := ih (further.congr (by simp only [unitsOf_append, Payload.units]; rw [add_assoc]))
    refine ⟨regular, left, ?_⟩
    rw [unitsOf_cons, unitOf_some, Multiset.singleton_add]
    refine .unit (spend_sole found sole) ?_
    simpa [Payload.units] using repaid
  | case6 store id line object found positive shared ih =>
    obtain ⟨rest, freed, spent, further⟩ := spend (exact.congr (by simp only [unitsOf_cons, unitOf_some]; rw [add_assoc]))
    rw [spend_shared found positive shared] at spent
    cases spent
    obtain ⟨regular, left, repaid⟩ := ih (further.congr (zero_add _))
    refine ⟨regular, left, ?_⟩
    rw [unitsOf_cons, unitOf_some, Multiset.singleton_add]
    refine .unit (spend_shared found positive shared) ?_
    simpa using repaid

end Exact

end CountBridge.Store
