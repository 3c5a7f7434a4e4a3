import CountBridge.Store.GiveBack
import Mathlib.Data.List.ReduceOption
import Mathlib.Algebra.Order.Group.Multiset
import Mathlib.Tactic.Abel

/-! Giving units back, without the order in which it is done. A unit given back
either lowers a count or destroys an object and sets the units free that the
object owned, so any unit in line may be the next one. -/

namespace CountBridge

def unitOf (handle : Handle) : Multiset ObjectId := handle.elim 0 ({·})

def unitsOf (handles : List Handle) : Multiset ObjectId := ↑handles.reduceOption

@[simp] theorem unitOf_none : unitOf none = 0 := rfl

@[simp] theorem unitOf_some (id : ObjectId) : unitOf (some id) = {id} := rfl

@[simp] theorem unitsOf_nil : unitsOf [] = 0 := rfl

@[simp] theorem unitsOf_cons (handle : Handle) (rest : List Handle) :
    unitsOf (handle :: rest) = unitOf handle + unitsOf rest := by
  cases handle with
  | none => simp [unitsOf, List.reduceOption_cons_of_none]
  | some id => simp [unitsOf, List.reduceOption_cons_of_some, Multiset.singleton_add]

@[simp] theorem unitsOf_append (first rest : List Handle) :
    unitsOf (first ++ rest) = unitsOf first + unitsOf rest := by
  simp [unitsOf, List.reduceOption_append]

theorem unitsOf_head (id : ObjectId) (rest : List Handle) : id ∈ unitsOf (some id :: rest) := by simp

def Payload.units (payload : Payload) : Multiset ObjectId := unitsOf payload.slots

namespace Object

theorem toNat_decrement {object : Object} (positive : object.count ≠ 0) :
    object.decrement.count.toNat + 1 = object.count.toNat := by
  have nonzero : object.count.toNat ≠ 0 := fun zero => positive (UInt32.toNat_inj.mp zero)
  have bound := object.count.toNat_lt
  simp only [decrement, UInt32.toNat_sub, UInt32.toNat_one]
  omega

theorem toNat_increment {object : Object} (fits : object.increment.count ≠ 0) :
    object.increment.count.toNat = object.count.toNat + 1 := by
  have nonzero : object.increment.count.toNat ≠ 0 := fun zero => fits (UInt32.toNat_inj.mp zero)
  have bound := object.count.toNat_lt
  simp only [increment, UInt32.toNat_add, UInt32.toNat_one] at nonzero ⊢
  omega

end Object

namespace Store

/-- One unit given back: the store that is left, and the units set free. -/
def spend (store : Store) (id : ObjectId) : Option (Store × Multiset ObjectId) :=
  match store.find? id with
  | none => none
  | some object =>
    if object.count = 0 then none
    else if object.count = 1 then some (store.remove id, object.payload.units)
    else some (store.set id object.decrement, 0)

/-- Units given back one after another in some order, until none is left. -/
inductive Repays : Store → Multiset ObjectId → Store → Prop where
  | done {store} : Repays store 0 store
  | unit {store after last : Store} {id freed rest}
      (spent : store.spend id = some (after, freed)) (further : Repays after (freed + rest) last) :
      Repays store (id ::ₘ rest) last

variable {store after last : Store} {id other : ObjectId} {object : Object}
  {freed held line : Multiset ObjectId}

/-- What one unit given back can do. -/
theorem spend_cases (spent : store.spend id = some (after, freed)) :
    ∃ object, store.find? id = some object ∧ object.count ≠ 0 ∧
      (object.count = 1 ∧ after = store.remove id ∧ freed = object.payload.units ∨
        object.count ≠ 1 ∧ after = store.set id object.decrement ∧ freed = 0) := by
  unfold spend at spent
  split at spent
  · cases spent
  next object found =>
    split at spent
    · cases spent
    next positive =>
      split at spent
      next sole => cases spent; exact ⟨object, found, positive, .inl ⟨sole, rfl, rfl⟩⟩
      next shared => cases spent; exact ⟨object, found, positive, .inr ⟨shared, rfl, rfl⟩⟩

theorem spend_sole (found : store.find? id = some object) (sole : object.count = 1) :
    store.spend id = some (store.remove id, object.payload.units) := by
  simp [spend, found, sole]

theorem spend_shared (found : store.find? id = some object) (positive : object.count ≠ 0)
    (shared : object.count ≠ 1) : store.spend id = some (store.set id object.decrement, 0) := by
  simp [spend, found, positive, shared]

theorem find?_set_self (found : store.find? id = some object) (changed : Object) :
    (store.set id changed).find? id = some changed := by
  rw [find?_set (lt_allocated_of_find? found), if_pos rfl]

theorem find?_set_other (different : other ≠ id) (changed : Object) :
    (store.set id changed).find? other = store.find? other := by
  simp only [find?, set, Array.getElem?_setIfInBounds, if_neg (Ne.symm different)]

theorem find?_remove_other (different : other ≠ id) :
    (store.remove id).find? other = store.find? other := by
  rw [find?_remove, if_neg different]

theorem find?_spend_other (spent : store.spend id = some (after, freed)) (different : other ≠ id) :
    after.find? other = store.find? other := by
  obtain ⟨object, found, -, ⟨-, rfl, -⟩ | ⟨-, rfl, -⟩⟩ := spend_cases spent
  · exact find?_remove_other different
  · exact find?_set_other different _

theorem set_comm (different : id ≠ other) (first second : Object) :
    (store.set id first).set other second = (store.set other second).set id first := by
  simp only [set, Array.setIfInBounds_comm _ _ different]

theorem set_remove_comm (different : id ≠ other) (changed : Object) :
    (store.set id changed).remove other = (store.remove other).set id changed := by
  simp only [set, remove, Array.setIfInBounds_comm _ _ different]

theorem remove_comm (different : id ≠ other) :
    (store.remove id).remove other = (store.remove other).remove id := by
  simp only [remove, Array.setIfInBounds_comm _ _ different]

/-- Units of different objects may be given back in either order. -/
theorem spend_comm {final : Store} {owed : Multiset ObjectId} (different : id ≠ other)
    (first : store.spend id = some (after, freed)) (second : after.spend other = some (final, owed)) :
    ∃ between, store.spend other = some (between, owed) ∧ between.spend id = some (final, freed) := by
  obtain ⟨object, found, positive, outcome⟩ := spend_cases first
  obtain ⟨sharer, present, nonzero, result⟩ := spend_cases second
  rw [find?_spend_other first different.symm] at present
  rcases result with ⟨sole, rfl, rfl⟩ | ⟨shared, rfl, rfl⟩
  · refine ⟨_, spend_sole present sole, ?_⟩
    have kept : (store.remove other).find? id = some object := (find?_remove_other different).trans found
    rcases outcome with ⟨single, rfl, rfl⟩ | ⟨several, rfl, rfl⟩
    · rw [spend_sole kept single, remove_comm different]
    · rw [spend_shared kept positive several, set_remove_comm different]
  · refine ⟨_, spend_shared present nonzero shared, ?_⟩
    have kept : (store.set other sharer.decrement).find? id = some object :=
      (find?_set_other different _).trans found
    rcases outcome with ⟨single, rfl, rfl⟩ | ⟨several, rfl, rfl⟩
    · rw [spend_sole kept single, set_remove_comm different.symm]
    · rw [spend_shared kept positive several, set_comm different]

theorem Repays.first (repaid : Repays store line last) (member : id ∈ line) :
    ∃ after freed, store.spend id = some (after, freed) ∧
      Repays after (freed + line.erase id) last := by
  induction repaid with
  | done => simp at member
  | @unit store after last next freed rest spent further ih =>
    by_cases same : id = next
    · subst same
      exact ⟨after, freed, spent, by simpa using further⟩
    · have later : id ∈ rest := (Multiset.mem_cons.mp member).resolve_left same
      obtain ⟨final, owed, second, onward⟩ := ih (Multiset.mem_add.mpr (.inr later))
      obtain ⟨between, early, late⟩ := spend_comm (Ne.symm same) spent second
      refine ⟨between, owed, early, ?_⟩
      rw [Multiset.erase_cons_tail _ (Ne.symm same), Multiset.add_cons]
      refine .unit late ?_
      rw [Multiset.erase_add_right_pos _ later, add_left_comm] at onward
      exact onward

theorem Repays.of_nothing (repaid : Repays store line last) (empty : line = 0) : last = store := by
  cases repaid with
  | done => rfl
  | unit spent further => simp at empty

/-- The order of giving back does not matter to what is left. -/
theorem Repays.det {other : Store} (first : Repays store line last) (second : Repays store line other) :
    last = other := by
  induction first with
  | done => exact (second.of_nothing rfl).symm
  | unit spent further ih =>
    obtain ⟨after, freed, again, onward⟩ := second.first (Multiset.mem_cons_self _ _)
    rw [spent] at again
    cases again
    exact ih (by simpa using onward)

/-- Giving back in two goes is giving back in one. -/
theorem Repays.add {middle : Store} {more : Multiset ObjectId} (first : Repays store line middle)
    (second : Repays middle more last) : Repays store (line + more) last := by
  induction first with
  | done => simpa using second
  | unit spent further ih =>
    rw [Multiset.cons_add]
    refine .unit spent ?_
    rw [← add_assoc]
    exact ih second

/-- What is still to be given back when a part has been. -/
theorem Repays.rest {part rest : Multiset ObjectId} {middle : Store} (given : Repays store part middle)
    (whole : Repays store (part + rest) last) : Repays middle rest last := by
  induction given with
  | done => simpa using whole
  | @unit store after middle id freed others spent further ih =>
    obtain ⟨next, owed, again, onward⟩ := whole.first (Multiset.mem_add.mpr (.inl (Multiset.mem_cons_self id others)))
    rw [spent] at again
    cases again
    rw [Multiset.cons_add, Multiset.erase_cons_head, ← add_assoc] at onward
    exact ih onward

/-- What survives is what it was, but for its count. -/
theorem Repays.survivor (repaid : Repays store line last) (found : last.find? id = some object) :
    ∃ earlier, store.find? id = some earlier ∧ earlier.payload = object.payload ∧
      object.count.toNat ≤ earlier.count.toNat := by
  induction repaid with
  | done => exact ⟨object, found, rfl, le_refl _⟩
  | @unit store after last next freed rest spent further ih =>
    obtain ⟨earlier, present, same, bounded⟩ := ih found
    obtain ⟨target, held, positive, ⟨-, rfl, -⟩ | ⟨-, rfl, -⟩⟩ := spend_cases spent
    · rw [find?_remove] at present
      split at present
      · cases present
      · exact ⟨earlier, present, same, bounded⟩
    · by_cases here : id = next
      · subst here
        rw [find?_set_self held] at present
        cases present
        exact ⟨target, held, same, bounded.trans (by have := Object.toNat_decrement positive; omega)⟩
      · rw [find?_set_other here] at present
        exact ⟨earlier, present, same, bounded⟩

theorem allocated_spend (spent : store.spend id = some (after, freed)) :
    after.allocated = store.allocated := by
  obtain ⟨object, found, -, ⟨-, rfl, -⟩ | ⟨-, rfl, -⟩⟩ := spend_cases spent <;> simp

theorem Repays.allocated (repaid : Repays store line last) : last.allocated = store.allocated := by
  induction repaid with
  | done => rfl
  | unit spent further ih => exact ih.trans (allocated_spend spent)

theorem Repays.liveCount_le (repaid : Repays store line last) : last.liveCount ≤ store.liveCount := by
  induction repaid with
  | done => exact le_rfl
  | unit spent further ih =>
    obtain ⟨object, found, -, ⟨-, rfl, -⟩ | ⟨-, rfl, -⟩⟩ := spend_cases spent
    · have fewer := liveCount_remove found
      omega
    · rwa [liveCount_set found] at ih

theorem set_allocate (inside : id < store.allocated) (payload : Payload) (changed : Object) :
    (store.allocate payload).2.set id changed = ((store.set id changed).allocate payload).2 := by
  simp only [Store.allocated] at inside
  simp only [allocate, set, Array.setIfInBounds, Array.size_push, inside, Nat.lt_succ_of_lt, ↓reduceDIte,
    Array.set_push]

theorem remove_allocate (inside : id < store.allocated) (payload : Payload) :
    (store.allocate payload).2.remove id = ((store.remove id).allocate payload).2 := by
  simp only [Store.allocated] at inside
  simp only [allocate, remove, Array.setIfInBounds, Array.size_push, inside, Nat.lt_succ_of_lt, ↓reduceDIte,
    Array.set_push]

theorem find?_allocate_other (inside : id < store.allocated) (payload : Payload) :
    (store.allocate payload).2.find? id = store.find? id := by
  rw [find?_allocate, if_neg (Nat.ne_of_lt inside)]

theorem spend_allocate (payload : Payload) (spent : store.spend id = some (after, freed)) :
    (store.allocate payload).2.spend id = some ((after.allocate payload).2, freed) := by
  obtain ⟨object, found, positive, outcome⟩ := spend_cases spent
  have inside := lt_allocated_of_find? found
  have kept := (find?_allocate_other inside payload).trans found
  rcases outcome with ⟨sole, rfl, rfl⟩ | ⟨shared, rfl, rfl⟩
  · rw [spend_sole kept sole, remove_allocate inside]
  · rw [spend_shared kept positive shared, set_allocate inside]

/-- An object born meanwhile is not touched. -/
theorem Repays.allocate (payload : Payload) (repaid : Repays store line last) :
    Repays (store.allocate payload).2 line (last.allocate payload).2 := by
  induction repaid with
  | done => exact .done
  | unit spent further ih => exact .unit (spend_allocate payload spent) ih

/-- A change of an object that goes together with lowering its count. -/
structure Gentle (change : Object → Object) (limit : Nat) : Prop where
  decrement : ∀ object, change object.decrement = (change object).decrement
  positive : ∀ object, object.count.toNat ≤ limit → object.count ≠ 0 → (change object).count ≠ 0
  shared : ∀ object, object.count.toNat ≤ limit → object.count ≠ 0 → object.count ≠ 1 →
    (change object).count ≠ 1

/-- A survivor may be changed before the units are given back or afterwards. -/
theorem Repays.change {change : Object → Object} {survivor : Object} (repaid : Repays store line last)
    (found : store.find? id = some object) (survives : last.find? id = some survivor)
    (gentle : Gentle change object.count.toNat) :
    Repays (store.set id (change object)) line (last.set id (change survivor)) := by
  induction repaid generalizing object with
  | done =>
    rw [found] at survives
    cases survives
    exact .done
  | @unit store after last next freed rest spent further ih =>
    obtain ⟨target, held, positive, outcome⟩ := spend_cases spent
    by_cases here : next = id
    · subst here
      rw [found] at held
      cases held
      rcases outcome with ⟨sole, rfl, rfl⟩ | ⟨several, rfl, rfl⟩
      · obtain ⟨earlier, present, -⟩ := further.survivor survives
        simp [find?_remove] at present
      · have lowered := Object.toNat_decrement positive
        have again := ih (find?_set_self found _) survives
          ⟨gentle.decrement, fun object bound => gentle.positive object (by omega),
            fun object bound => gentle.shared object (by omega)⟩
        refine .unit (spend_shared (find?_set_self found _) (gentle.positive _ le_rfl positive)
          (gentle.shared _ le_rfl positive several)) ?_
        rw [gentle.decrement] at again
        simpa only [set, Array.setIfInBounds_setIfInBounds] using again
    · have kept : (store.set id (change object)).find? next = some target := (find?_set_other here _).trans held
      have apart := (find?_spend_other spent (Ne.symm here)).trans found
      have again := ih apart survives gentle
      rcases outcome with ⟨sole, rfl, rfl⟩ | ⟨several, rfl, rfl⟩
      · refine .unit (spend_sole kept sole) ?_
        rwa [set_remove_comm (Ne.symm here)]
      · refine .unit (spend_shared kept positive several) ?_
        rwa [set_comm (Ne.symm here)]

/-- Whatever can be given back in some order, the line gives back. -/
theorem Repays.giveBack {line : List Handle} (repaid : Repays store (unitsOf line) last) :
    (store.giveBack line).misuse = none ∧ (store.giveBack line).store = last := by
  fun_induction Store.giveBack store line with
  | case1 store => exact ⟨rfl, (repaid.of_nothing rfl).symm⟩
  | case2 store line ih => exact ih (by simpa using repaid)
  | case3 store id line missing =>
    obtain ⟨after, freed, spent, -⟩ := repaid.first (unitsOf_head id line)
    obtain ⟨object, found, -⟩ := spend_cases spent
    rw [missing] at found
    cases found
  | case4 store id line object found empty =>
    obtain ⟨after, freed, spent, -⟩ := repaid.first (unitsOf_head id line)
    obtain ⟨other, present, positive, -⟩ := spend_cases spent
    rw [found] at present
    cases present
    exact absurd empty positive
  | case5 store id line object found positive sole after ih =>
    obtain ⟨rest, freed, spent, further⟩ := repaid.first (unitsOf_head id line)
    rw [spend_sole found sole] at spent
    cases spent
    exact ih (by simpa [Payload.units] using further)
  | case6 store id line object found positive shared ih =>
    obtain ⟨rest, freed, spent, further⟩ := repaid.first (unitsOf_head id line)
    rw [spend_shared found positive shared] at spent
    cases spent
    exact ih (by simpa using further)

/-- Every object is destroyed at most once. -/
theorem liveCount_giveBack (store : Store) (line : List Handle) :
    (store.giveBack line).store.liveCount + (store.giveBack line).destroyed.length = store.liveCount := by
  fun_induction Store.giveBack store line with
  | case1 | case3 => rfl
  | case2 store line ih => exact ih
  | case4 store id line object found => simp [liveCount_set found]
  | case5 store id line object found positive sole after ih =>
    have fewer := liveCount_remove found
    simp only [after, List.length_cons] at ih ⊢
    omega
  | case6 store id line object found positive shared ih => rw [ih, liveCount_set found]

end Store

end CountBridge
