import CountBridge.Text.Outline

/-!
The queue of units that dropped wrappers still have to give back. Units leave in
the order in which they came, always all at once.
-/

namespace CountBridge

structure Queue (α : Type) where
  items : Array α := #[]
deriving DecidableEq, Repr

namespace Queue

variable {α : Type}

def pending (queue : Queue α) : Nat := queue.items.size

def hasPending (queue : Queue α) : Bool := 0 < queue.pending

def defer (queue : Queue α) (item : α) : Queue α := ⟨queue.items.push item⟩

def takeAll (queue : Queue α) : Array α × Queue α := (queue.items, {})

def outline (queue : Queue α) : Text.Outline :=
  .record "DeferredReleaseQueue" [("pending", .number queue.pending)] true

@[simp] theorem items_defer (queue : Queue α) (item : α) :
    (queue.defer item).items = queue.items.push item := rfl

@[simp] theorem pending_defer (queue : Queue α) (item : α) :
    (queue.defer item).pending = queue.pending + 1 := Array.size_push ..

@[simp] theorem pending_takeAll (queue : Queue α) : queue.takeAll.2.pending = 0 := rfl

end Queue

end CountBridge
