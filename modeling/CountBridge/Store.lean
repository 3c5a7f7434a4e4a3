import CountBridge.Object

/-!
All objects ever allocated, by their place in the order of allocation. An object
that was destroyed leaves its place empty for good, so a handle never comes to
mean another object.
-/

namespace CountBridge

structure Store where
  places : Array (Option Object) := #[]

namespace Store

def allocated (store : Store) : Nat := store.places.size

def find? (store : Store) (id : ObjectId) : Option Object := store.places[id]?.join

def isLive (store : Store) (id : ObjectId) : Bool := (store.find? id).isSome

def liveCount (store : Store) : Nat := store.places.countP (·.isSome)

/-- A new object takes the next place. -/
def allocate (store : Store) (payload : Payload) : ObjectId × Store :=
  (store.allocated, ⟨store.places.push (some { payload })⟩)

def set (store : Store) (id : ObjectId) (object : Object) : Store :=
  ⟨store.places.setIfInBounds id (some object)⟩

def remove (store : Store) (id : ObjectId) : Store :=
  ⟨store.places.setIfInBounds id none⟩

theorem lt_allocated_of_find? {store : Store} {id : ObjectId} {object : Object}
    (found : store.find? id = some object) : id < store.allocated := by
  simp only [find?, Option.join_eq_some_iff] at found
  exact (Array.getElem?_eq_some_iff.mp found).1

theorem find?_set {store : Store} {id : ObjectId} (inside : id < store.allocated)
    (object : Object) (other : ObjectId) :
    (store.set id object).find? other = if other = id then some object else store.find? other := by
  simp only [find?, set, Array.getElem?_setIfInBounds]
  grind [allocated]

theorem find?_remove (store : Store) (id other : ObjectId) :
    (store.remove id).find? other = if other = id then none else store.find? other := by
  simp only [find?, remove, Array.getElem?_setIfInBounds]
  grind [allocated]

theorem find?_allocate (store : Store) (payload : Payload) (other : ObjectId) :
    (store.allocate payload).2.find? other =
      if other = store.allocated then some { payload } else store.find? other := by
  simp only [find?, allocate, allocated, Array.getElem?_push]
  grind

@[simp] theorem allocated_set (store : Store) (id : ObjectId) (object : Object) :
    (store.set id object).allocated = store.allocated := by
  simp [allocated, set]

@[simp] theorem allocated_remove (store : Store) (id : ObjectId) :
    (store.remove id).allocated = store.allocated := by
  simp [allocated, remove]

theorem liveCount_set {store : Store} {id : ObjectId} {found : Object}
    (live : store.find? id = some found) (object : Object) :
    (store.set id object).liveCount = store.liveCount := by
  have inside := lt_allocated_of_find? live
  simp only [find?, Option.join_eq_some_iff, allocated] at live inside
  have here : store.places[id] = some found := by
    simpa [Array.getElem?_eq_getElem inside] using live
  have positive : 0 < store.places.countP (·.isSome) :=
    Array.countP_pos_iff.mpr ⟨_, Array.getElem_mem inside, by simp [here]⟩
  simp only [liveCount, set, Array.setIfInBounds, inside, ↓reduceDIte, Array.countP_set, here]
  simp only [Option.isSome_some, ↓reduceIte]
  omega

theorem liveCount_remove {store : Store} {id : ObjectId} {found : Object}
    (live : store.find? id = some found) :
    (store.remove id).liveCount + 1 = store.liveCount := by
  have inside := lt_allocated_of_find? live
  simp only [find?, Option.join_eq_some_iff, allocated] at live inside
  have here : store.places[id] = some found := by
    simpa [Array.getElem?_eq_getElem inside] using live
  have positive : 0 < store.places.countP (·.isSome) :=
    Array.countP_pos_iff.mpr ⟨_, Array.getElem_mem inside, by simp [here]⟩
  simp only [liveCount, remove, Array.setIfInBounds, inside, ↓reduceDIte, Array.countP_set, here]
  simp
  omega

end Store

end CountBridge
