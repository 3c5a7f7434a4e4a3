import CountBridge.Store

/-!
Giving units back. A unit that is not the last lowers the count; the last one
destroys its object, which then gives back the units it owned before the next
one in line. The line ends because every destruction empties a place.
-/

namespace CountBridge

/-- A unit given back that nobody could own. -/
inductive Misuse where
  | underflow (id : ObjectId)
  | dangling (id : ObjectId)
deriving DecidableEq, Repr

/-- What giving back left behind: the store, the objects destroyed on the way in
their order, and the misuse that stopped it, if any. -/
structure Aftermath where
  store : Store
  destroyed : List ObjectId := []
  misuse : Option Misuse := none

namespace Store

/-- Gives back one unit of each handle in line; null handles have none. -/
def giveBack (store : Store) : List Handle → Aftermath
  | [] => { store }
  | none :: line => store.giveBack line
  | some id :: line =>
    match _ : store.find? id with
    | none => { store, misuse := some (.dangling id) }
    | some object =>
      if object.count = 0 then
        { store := store.set id object.decrement, misuse := some (.underflow id) }
      else if object.count = 1 then
        let after := (store.remove id).giveBack (object.payload.slots ++ line)
        { after with destroyed := id :: after.destroyed }
      else (store.set id object.decrement).giveBack line
termination_by line => (store.liveCount, line.length)
decreasing_by
  · exact Prod.Lex.right _ (by simp)
  · have := liveCount_remove ‹_›
    exact Prod.Lex.left _ _ (by omega)
  · rw [liveCount_set ‹_›]
    exact Prod.Lex.right _ (by simp)

end Store

end CountBridge
