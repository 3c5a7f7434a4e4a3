import CountBridge.Proofs.Contract
import CountBridge.Proofs.DeferredRelease
import Mathlib.Data.Fintype.Order
import Mathlib.Data.Set.Finite.Lemmas
import Mathlib.Logic.Relation
import Mathlib.Order.WellFounded

/-! Leaks. Once all units outside are given back, whatever still lives has an owner that
lives too. There are finitely many objects, so an owner of an owner and so on comes
round: what leaks lies on a cycle of owners or hangs from one. -/

namespace CountBridge

namespace Store

variable {store : Store} {id : ObjectId}

def Owns (store : Store) (owner id : ObjectId) : Prop :=
  ∃ object, store.find? owner = some object ∧ some id ∈ object.payload.slots

/-- Going from owner to owner leads back to the object. -/
def OnCycle (store : Store) (id : ObjectId) : Prop := Relation.TransGen store.Owns id id

def FromCycle (store : Store) (id : ObjectId) : Prop := ∃ root, store.OnCycle root ∧ Relation.ReflTransGen store.Owns root id

theorem mem_unitsOf {handles : List Handle} : id ∈ unitsOf handles ↔ some id ∈ handles := by
  rw [unitsOf, Multiset.mem_coe, List.reduceOption_mem_iff]

theorem exists_place_of_mem_owned (member : id ∈ store.owned) :
    ∃ place ∈ store.places.toList, id ∈ place.elim 0 (·.payload.units) := by
  rw [owned] at member
  generalize store.places.toList = places at member ⊢
  induction places with
  | nil => exact absurd member (Multiset.notMem_zero id)
  | cons place rest ih =>
    rw [List.map_cons, List.sum_cons, Multiset.mem_add] at member
    rcases member with here | later
    · exact ⟨place, List.mem_cons_self, here⟩
    · obtain ⟨other, there, has⟩ := ih later
      exact ⟨other, List.mem_cons_of_mem _ there, has⟩

theorem owns_of_mem_owned (member : id ∈ store.owned) : ∃ owner, store.Owns owner id := by
  obtain ⟨place, there, has⟩ := exists_place_of_mem_owned member
  cases place with
  | none => exact absurd has (Multiset.notMem_zero id)
  | some object =>
    obtain ⟨owner, inside, here⟩ := List.mem_iff_getElem.mp there
    refine ⟨owner, object, ?_, mem_unitsOf.mp has⟩
    rw [find?, Option.join_eq_some_iff, ← Array.getElem?_toList, List.getElem?_eq_getElem inside, here]

/-- Where nothing is held outside, all that lives is owned. -/
theorem Exact.exists_owner (exact : store.Exact 0) {object : Object} (found : store.find? id = some object) :
    ∃ owner, store.Owns owner id := by
  have counted := exact.counted id
  rw [units_of_found found, add_zero] at counted
  have positive : object.count.toNat ≠ 0 := fun zero => exact.positive id object found (UInt32.toNat_inj.mp zero)
  exact owns_of_mem_owned (Multiset.count_pos.mp (by omega))

/-- The object lives, but neither lies on a cycle of owners nor hangs from one. -/
def Loose (store : Store) (id : ObjectId) : Prop := store.isLive id = true ∧ ¬ store.FromCycle id

theorem Exact.exists_loose_owner (exact : store.Exact 0) (loose : store.Loose id) : ∃ owner, store.Owns owner id ∧ store.Loose owner := by
  obtain ⟨object, found⟩ := Option.isSome_iff_exists.mp loose.1
  obtain ⟨owner, owns⟩ := exact.exists_owner found
  refine ⟨owner, owns, ?_, fun ⟨root, round, hangs⟩ => loose.2 ⟨root, round, hangs.tail owns⟩⟩
  obtain ⟨holder, present, -⟩ := owns
  exact Option.isSome_iff_exists.mpr ⟨holder, present⟩

theorem finite_loose (store : Store) : Finite { id // store.Loose id } := by
  refine Set.Finite.to_subtype ((Set.finite_lt_nat store.allocated).subset ?_)
  rintro id ⟨live, -⟩
  obtain ⟨object, found⟩ := Option.isSome_iff_exists.mp live
  exact lt_allocated_of_find? found

/-- Loose objects are on no cycle, and there are finitely many of them. -/
theorem grounded_loose (store : Store) :
    WellFounded fun first second : { id // store.Loose id } => Relation.TransGen store.Owns first second := by
  have finite := store.finite_loose
  have : IsTrans { id // store.Loose id } fun first second => Relation.TransGen store.Owns first second :=
    ⟨fun _ _ _ begun further => begun.trans further⟩
  have : Std.Irrefl fun first second : { id // store.Loose id } => Relation.TransGen store.Owns first second :=
    ⟨fun some round => some.2.2 ⟨some, round, .refl⟩⟩
  exact Finite.wellFounded_of_trans_of_irrefl _

/-- Owners of owners come round, for there are finitely many objects. -/
theorem Exact.from_cycle (exact : store.Exact 0) (live : store.isLive id = true) : store.FromCycle id := by
  by_contra straight
  -- A loose object that has no loose one above it still has a loose owner.
  obtain ⟨⟨least, loose⟩, -, minimal⟩ := store.grounded_loose.has_min Set.univ ⟨⟨id, live, straight⟩, trivial⟩
  obtain ⟨owner, owns, loose'⟩ := exact.exists_loose_owner loose
  exact minimal ⟨owner, loose'⟩ trivial (.single owns)

end Store

namespace Program

variable {α : Type} {strict : Bool} {op : Op α} {s t start : Session α} {program rest : List (Op α)}

theorem Along.append {run : Op α → Run α Unit} (along : Along run program s op t) (rest : List (Op α)) :
    Along run (program ++ rest) s op t := by
  induction along with
  | here => exact .here
  | later ended further ih => exact .later ended ih

/-- Nothing waits after a collection. -/
theorem queued_of_collected (tidy : Tidy strict s) (ended : ends (runTop (.act .collect)) s = (.ok (), t)) :
    t.world.queued = 0 := by
  obtain ⟨bound, -, balanced⟩ := tidy
  suffices performed : ∃ answer after, ends (perform .collect) s = (.ok answer, { s with world := after }) ∧ after.queued = 0 by
    obtain ⟨answer, after, performed, empty⟩ := performed
    rw [runTop, ends_bind, ends_outcomeOf, runOp, ends_recorded_ok performed] at ended
    cases ended
    exact empty
  rw [perform, ends_withBinding]
  cases found : s.world.binding? with
  | none => exact ⟨.failed .notBootstrapped, s.world, rfl, by rw [World.queued, found]; rfl⟩
  | some binding =>
    have isBound : s.world.isBound = true := by rw [World.isBound, found]; rfl
    obtain ⟨count, after, collected, -, empty⟩ := returns_collect (balanced.upgrade isBound).world.sound
    have lifted : ends (lift collect : Run α Nat) s = (.ok count, { s with world := after }) := by rw [ends_lift, collected]
    refine ⟨.collected count, after, ?_, empty⟩
    dsimp only
    exact ends_bind_ok lifted

/-- A program that ends with a collection comes to its end, with nothing in hand and nothing waiting. -/
theorem ready_of_collected {origin : Nat} {watched : Bool}
    (heeded : Heeded false (program ++ [.act .collect]) (Session.start α origin watched))
    (ran : (ends (runEach (program ++ [.act .collect])) (Session.start α origin watched)).2 = t)
    (fits : t.world.turnedOver = false) : Ready false t ∧ t.world.queued = 0 := by
  have quiet : Session.course.quiet' (ends (runEach (program ++ [.act .collect])) (Session.start α origin watched)).2 := by
    rw [ran]
    exact fits
  rw [runEach_append] at ran quiet
  have calm := Session.course.quiet_of_order' (Onward.order_bind (fun _ => onward_runEach _) (runEach program) _) quiet
  obtain ⟨value, u, ended, still⟩ :=
    (conducts_each heeded program (fun _ _ along => .top (along.append _)) (ready_start origin nofun) calm).returns
  rw [ends_bind_ok ended] at ran quiet
  have last : (ends (runEach [.act .collect]) u).2 = (ends (runTop (.act .collect)) u).2 := by
    rw [runEach, ends_bind]
    rcases ends (runTop (.act .collect)) u with ⟨payload | value, after⟩ <;> rfl
  rw [last] at ran quiet
  have begun : Begun (program ++ [.act .collect]) (Session.start α origin watched) [] (.act .collect) u :=
    .top (Along.of_runEach ended)
  obtain ⟨value, after, collected, ready⟩ := (conducts_top heeded begun still quiet).returns
  rw [collected] at ran
  subst ran
  exact ⟨ready, queued_of_collected still.1 collected⟩

theorem unitsIn_of_released {wrappers : Multiset Wrapper} (released : ∀ wrapper ∈ wrappers, wrapper.handle = none) :
    unitsIn wrappers = 0 := by
  rw [unitsIn, Multiset.bind_congr fun wrapper member => congrArg unitOf (released wrapper member)]
  exact Multiset.bind_zero wrappers

/-- The counter of the only heap is that of the live objects, but for whole turns. -/
theorem live_of_tallied {counters : Heap} {store : Store} (tallied : Tallied #[counters] store) (none : store.liveCount = 0) :
    counters.live = 0 := by
  rw [Tallied, none] at tallied
  have small := counters.live.toNat_lt
  simp only [UInt64.size, List.map_cons, List.map_nil, List.sum_cons, List.sum_nil] at tallied small
  apply UInt64.toNat_inj.mp
  rw [UInt64.toNat_zero]
  omega

theorem liveCount_of_none {store : Store} (none : ∀ id object, store.find? id ≠ some object) : store.liveCount = 0 := by
  rw [Store.liveCount, Array.countP_eq_zero]
  intro place member
  obtain ⟨id, inside, here⟩ := Array.mem_iff_getElem.mp member
  cases place with
  | none => simp
  | some object => exact absurd (by simp [Store.find?, inside, here]) (none id object)

/-- Where a program has dropped or released all its wrappers and given back all its own units, and
has collected, whatever still lives lies on a cycle of owners or hangs from one. If no object
owns itself, nothing lives, and the counter of the only heap says so. -/
theorem leaks_hang_from_cycles {origin : Nat} {watched : Bool}
    (heeded : Heeded false (program ++ [.act .collect]) (Session.start α origin watched))
    (ran : (ends (runEach (program ++ [.act .collect])) (Session.start α origin watched)).2 = t)
    (fits : t.world.turnedOver = false) (released : ∀ wrapper ∈ contents t.frames, wrapper.handle = none)
    (returned : t.units = []) :
    (∀ id, t.world.store.isLive id = true → t.world.store.FromCycle id) ∧
      ((∀ id, ¬ t.world.store.OnCycle id) →
        t.world.store.liveCount = 0 ∧ ∀ counters, t.world.heaps = #[counters] → counters.live = 0) := by
  obtain ⟨⟨⟨bound, -, balanced⟩, -⟩, empty⟩ := ready_of_collected heeded ran fits
  have exact : t.world.store.Exact 0 := by
    refine balanced.world.sound.exact.congr ?_
    rw [empty, Session.holdings, returned, unitsIn_of_released released]
    rfl
  refine ⟨fun id live => exact.from_cycle live, fun straight => ?_⟩
  have gone : t.world.store.liveCount = 0 := by
    refine liveCount_of_none fun id object found => ?_
    obtain ⟨root, round, -⟩ := exact.from_cycle (Option.isSome_iff_exists.mpr ⟨object, found⟩)
    exact straight root round
  refine ⟨gone, fun counters only => ?_⟩
  have tallied := balanced.world.tallied
  rw [only] at tallied
  exact live_of_tallied tallied gone

/-- An error is raised, trapped and dropped; a vector is pushed into itself and given back. -/
def selfOwning : List (Op Unit) :=
  [.act (.bootstrap mainHeap {} hookVersion), .act (.makeError "boom" (some "e")), .trap [.act (.raise "e")] () (some "f"),
    .act (.dropWrapper "f"), .act (.newVector mainHeap (some "v")), .act (.increment mainHeap "v"), .act (.push mainHeap "v" "v"),
    .act (.decrement mainHeap "v")]

theorem heeded_selfOwning :
    Heeded false (selfOwning ++ [.act .collect]) (Session.start Unit Address.spacing false) := by
  refine heeded_after_safe rfl (heeded_after_safe rfl (heeded_after_safe (by decide) (heeded_after_safe rfl (heeded_after_safe rfl
    (heeded_after_act ?_ nofun (heeded_after_act ⟨?_, ?_, ?_⟩ nofun (heeded_after_act ?_ nofun (heeded_of_safe rfl _))))))))
  · exact Session.usable_of_named (some 2) (by cbv)
  · exact Session.usable_of_named (some 2) (by cbv)
  · exact Session.usable_of_named (some 2) (by cbv)
  · exact fun _ _ _ => Session.canRaise_of_found 0 (by cbv) ⟨by cbv, by cbv⟩
  · exact Session.usable_of_named (some 2) (by cbv)

/-- The vector is all that leaks. -/
theorem leaks_hang_from_cycles_vector :
    ∃ t, (ends (runEach (selfOwning ++ [.act .collect])) (Session.start Unit Address.spacing false)).2 = t ∧
      t.world.store.isLive 2 = true ∧ t.world.store.liveCount = 1 ∧ t.world.store.FromCycle 2 := by
  have ended : let t := (ends (runEach (selfOwning ++ [.act .collect])) (Session.start Unit Address.spacing false)).2
      (t.world.turnedOver, t.frames, t.units, t.world.store.isLive 2, t.world.store.liveCount) = (false, [{}], [], true, 1) := by
    cbv
  simp only [Prod.mk.injEq] at ended
  obtain ⟨fits, closed, returned, live, count⟩ := ended
  have hangs := leaks_hang_from_cycles heeded_selfOwning rfl fits (by simp [closed, Frame.contents]) returned
  exact ⟨_, rfl, live, count, hangs.1 2 live⟩

end Program

end CountBridge
