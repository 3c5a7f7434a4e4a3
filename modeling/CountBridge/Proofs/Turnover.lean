import Mathlib.Data.Multiset.Filter
import Mathlib.Data.List.Infix
import CountBridge.Proofs.Census
import CountBridge.Proofs.Deferral
import CountBridge.Proofs.Holders
import CountBridge.Proofs.ReadOnly

/-! How far a count can be relied on. Whoever has a wrapper may clone it again and again, and keep, forget
or hand out what comes of that, so there is no end to the units of an object. Its count is a 32-bit word:
wrappers hold their object and part with it in peace exactly as long as no unit is taken that the word cannot
tell any more. -/

namespace CountBridge

open Bridge World

/-- What may be done with a wrapper of some object: all that is safe and moves units, and collecting in between. -/
inductive Handling where
  | clone
  | release
  | drop
  | handOut
  | forget
  | collect
deriving DecidableEq

structure Stock where
  wrappers : Nat
  loose : Nat

namespace Stock

def after (stock : Stock) : Handling → Stock
  | .clone => { stock with wrappers := stock.wrappers + 1 }
  | .release | .drop => { stock with wrappers := stock.wrappers - 1 }
  | .handOut | .forget => ⟨stock.wrappers - 1, stock.loose + 1⟩
  | .collect => stock

def afterAll (stock : Stock) (handlings : List Handling) : Stock := handlings.foldl after stock

def units (stock : Stock) (id : ObjectId) : Multiset ObjectId := .replicate (stock.wrappers + stock.loose) id

end Stock

namespace Handling

def usesWrapper : Handling → Bool
  | .collect => false
  | .clone | .release | .drop | .handOut | .forget => true

/-- All wrappers of an object are handled alike. A wrapper whose unit was handed out is dropped; one that was
released may still be there, but it holds nothing. -/
def carryOut (wrapper : Wrapper) : Handling → Bridge Unit
  | .clone => do let _ ← wrapper.clone
  | .release => do let _ ← wrapper.release
  | .drop => wrapper.drop
  | .handOut => wrapper.released.drop
  | .forget => pure ()
  | .collect => do let _ ← CountBridge.collect

def carryOutAll (wrapper : Wrapper) : List Handling → Bridge Unit
  | [] => pure ()
  | next :: rest => do
    next.carryOut wrapper
    carryOutAll wrapper rest

end Handling

def Stock.Allows (stock : Stock) (handlings : List Handling) : Prop :=
  ∀ early next, early ++ [next] <+: handlings → next.usesWrapper = true → 0 < (stock.afterAll early).wrappers

/-- How many units of an object there are: objects own some, some wait in the queue, and some are in stock. -/
def World.out (world : World) (id : ObjectId) (stock : Stock) : Nat :=
  (world.store.owned + world.queued + stock.units id).count id

/-- No clone is made when the count is at its limit. -/
def World.NeverFull (world : World) (wrapper : Wrapper) (id : ObjectId) (stock : Stock) (handlings : List Handling) : Prop :=
  ∀ early, early ++ [.clone] <+: handlings →
    (ends (Handling.carryOutAll wrapper early) world).2.out id (stock.afterAll early) + 1 < 2 ^ 32

/-- What is to be expected of a routine that leaves the stock behind: it returns, an object that some wrapper
holds lives, and its count is not down to zero or one while there are more units than that. -/
structure Reliable (id : ObjectId) (stock : Stock) (ended : Except Unwind Unit × World) : Prop where
  returns : ended.1 = .ok ()
  lives : 0 < stock.wrappers → ended.2.store.isLive id = true
  tells : ∀ object, ended.2.store.find? id = some object → object.count.toNat ≤ 1 →
    ended.2.out id stock ≤ object.count.toNat

section Stocks

variable {stock : Stock} {id : ObjectId}

@[simp] theorem Stock.afterAll_append (early late : List Handling) :
    stock.afterAll (early ++ late) = (stock.afterAll early).afterAll late := List.foldl_append

@[simp] theorem Stock.afterAll_singleton (next : Handling) : stock.afterAll [next] = stock.after next := rfl

@[simp] theorem Stock.afterAll_clones (count : Nat) :
    stock.afterAll (.replicate count .clone) = { stock with wrappers := stock.wrappers + count } := by
  induction count generalizing stock with
  | zero => rfl
  | succ count ih =>
    rw [List.replicate_succ, ← List.singleton_append, afterAll_append, ih, afterAll_singleton, after]
    simp only [Nat.add_assoc, Nat.add_comm 1]

theorem Stock.units_clone : (stock.after .clone).units id = {id} + stock.units id := by
  rw [Multiset.singleton_add, units, units, ← Multiset.replicate_succ, after, Nat.add_right_comm]

/-- A wrapper that goes takes one unit with it. -/
theorem Stock.units_of_wrapper (held : 0 < stock.wrappers) :
    stock.units id = {id} + units ⟨stock.wrappers - 1, stock.loose⟩ id := by
  rw [Multiset.singleton_add, units, units, ← Multiset.replicate_succ]
  congr 1
  dsimp only
  omega

theorem Stock.units_loosened (held : 0 < stock.wrappers) :
    units ⟨stock.wrappers - 1, stock.loose + 1⟩ id = stock.units id := by
  rw [units, units]
  congr 1
  dsimp only
  omega

theorem Stock.Allows.before {early late : List Handling} (allows : stock.Allows (early ++ late)) : stock.Allows early :=
  fun earlier next within => allows earlier next (within.trans (List.prefix_append early late))

theorem Stock.allows_nil : stock.Allows [] := by
  intro early next within
  simp at within

theorem Stock.allows_cons {next : Handling} {rest : List Handling} (enough : next.usesWrapper = true → 0 < stock.wrappers)
    (allows : (stock.after next).Allows rest) : stock.Allows (next :: rest) := by
  intro early final within uses
  cases early with
  | nil =>
    obtain ⟨rfl, -⟩ := List.cons_prefix_cons.mp within
    exact enough uses
  | cons first early =>
    obtain ⟨rfl, further⟩ := List.cons_prefix_cons.mp within
    exact allows early final further uses

theorem World.NeverFull.before {world : World} {wrapper : Wrapper} {early late : List Handling}
    (roomy : world.NeverFull wrapper id stock (early ++ late)) : world.NeverFull wrapper id stock early :=
  fun earlier within => roomy earlier (within.trans (List.prefix_append early late))

theorem Handling.carryOutAll_append (wrapper : Wrapper) (early late : List Handling) :
    carryOutAll wrapper (early ++ late) = (do carryOutAll wrapper early; carryOutAll wrapper late) := by
  induction early with
  | nil => rw [List.nil_append, carryOutAll, pure_bind]
  | cons next rest ih => rw [List.cons_append, carryOutAll, carryOutAll, bind_assoc, ih]

theorem Handling.carryOutAll_singleton (wrapper : Wrapper) (next : Handling) :
    carryOutAll wrapper [next] = next.carryOut wrapper := by
  rw [carryOutAll, carryOutAll, bind_pure_unit]

theorem Handling.ends_carryOutAll_then {wrapper : Wrapper} {early : List Handling} {world middle : World}
    (ran : ends (carryOutAll wrapper early) world = (.ok (), middle)) (late : List Handling) :
    ends (carryOutAll wrapper (early ++ late)) world = ends (carryOutAll wrapper late) middle := by
  rw [carryOutAll_append, ends_bind_ok ran]

end Stocks

section Room

variable {world : World} {wrapper : Wrapper} {id : ObjectId} {object : Object} {stock : Stock}
  {others : Multiset ObjectId} {handlings : List Handling}

/-- Whatever the others hold, the count is the number of units. -/
theorem World.Sound.count_eq_out (sound : world.Sound true (stock.units id + others)) (apart : id ∉ others)
    (found : world.store.find? id = some object) : object.count.toNat = world.out id stock := by
  have counted := sound.exact.counted id
  rw [Store.units_of_found found] at counted
  rw [counted, World.out, ← add_assoc, ← add_assoc, Multiset.count_add _ _ others, Multiset.count_eq_zero_of_notMem apart,
    add_zero]

theorem World.Sound.live_of_wrapper (sound : world.Sound true (stock.units id + others)) (held : 0 < stock.wrappers) :
    ∃ object, world.store.find? id = some object := by
  refine sound.live_of_held (Multiset.mem_add.mpr (.inl ?_))
  exact Multiset.mem_replicate.mpr ⟨by omega, rfl⟩

theorem World.Sound.reliable (sound : world.Sound true (stock.units id + others)) (apart : id ∉ others) :
    Reliable id stock (.ok (), world) where
  returns := rfl
  lives held := Option.isSome_iff_exists.mpr (sound.live_of_wrapper held)
  tells _ found _ := (sound.count_eq_out apart found).ge

theorem ends_boundIncrement (found : world.store.find? id = some object) :
    ∃ journal, ends (Bound.increment id) world = (.ok (), { world with
      store := world.store.set id object.increment
      turnedOver := if object.increment.count = 0 then true else world.turnedOver
      journal }) := by
  have asked : { world with journal := world.journal.push (.call (.increment id) (world.meets (.live id))) }.store.find? id =
      some object := found
  exact ⟨_, (ends_before _ _ _ world).trans (ends_increment asked)⟩

theorem ends_clone (points : wrapper.handle = some id) (found : world.store.find? id = some object) :
    ∃ journal, ends (Handling.clone.carryOut wrapper) world = (.ok (), { world with
      store := world.store.set id object.increment
      turnedOver := if object.increment.count = 0 then true else world.turnedOver
      journal }) := by
  obtain ⟨journal, taken⟩ := ends_boundIncrement found
  refine ⟨journal, ?_⟩
  rw [Handling.carryOut, Wrapper.clone, points]
  dsimp only
  rw [bind_assoc, ends_bind_ok taken]
  rfl

/-- One step keeps the accounts exact, if a clone has room. -/
theorem returns_carryOut (points : wrapper.handle = some id) (apart : id ∉ others)
    (sound : world.Sound true (stock.units id + others)) (next : Handling)
    (allowed : next.usesWrapper = true → 0 < stock.wrappers) (roomy : next = .clone → world.out id stock + 1 < 2 ^ 32) :
    Returns (next.carryOut wrapper) world fun _ after => after.Sound true ((stock.after next).units id + others) := by
  have parted (held : 0 < stock.wrappers) :
      world.Sound true ({id} + (Stock.units ⟨stock.wrappers - 1, stock.loose⟩ id + others)) :=
    sound.congr (by rw [Stock.units_of_wrapper held, add_assoc])
  cases next with
  | clone =>
    obtain ⟨object, found⟩ := sound.live_of_wrapper (allowed rfl)
    have counted := sound.count_eq_out apart found
    have room := roomy rfl
    have fits : object.increment.count ≠ 0 := by
      intro full
      have turned := congrArg UInt32.toNat full
      rw [Object.increment, UInt32.toNat_add, UInt32.toNat_one, UInt32.toNat_zero] at turned
      omega
    obtain ⟨journal, ended⟩ := ends_clone points found
    refine ⟨(), _, ended, ?_, sound.booted, sound.bound⟩
    rw [Stock.units_clone]
    exact (sound.exact.increment found fits).congr (by rw [add_left_comm, add_assoc]; rfl)
  | release =>
    rw [Handling.carryOut, Wrapper.release, points]
    dsimp only
    rw [bind_assoc]
    apply (returns_releaseHandle (parted (allowed rfl))).bind
    intro _ after released
    exact ⟨(), after, rfl, released.sound (parted (allowed rfl))⟩
  | drop =>
    rw [Handling.carryOut, Wrapper.drop, points]
    exact (returns_dispose (parted (allowed rfl))).mono fun _ _ eased => eased.sound (parted (allowed rfl))
  | handOut | forget =>
    refine ⟨(), world, rfl, ?_⟩
    rw [Stock.after, Stock.units_loosened (allowed rfl)]
    exact sound
  | collect =>
    apply (returns_collect sound).bind
    intro _ after collected
    exact ⟨(), after, rfl, collected.1.sound (sound.congr (zero_add _).symm)⟩

/-- So does a run in which every clone has room. -/
theorem returns_carryOutAll (points : wrapper.handle = some id) (apart : id ∉ others)
    (sound : world.Sound true (stock.units id + others)) (allows : stock.Allows handlings)
    (roomy : world.NeverFull wrapper id stock handlings) :
    Returns (Handling.carryOutAll wrapper handlings) world fun _ after =>
      after.Sound true ((stock.afterAll handlings).units id + others) := by
  induction handlings using List.reverseRecOn with
  | nil => exact ⟨(), world, rfl, sound⟩
  | append_singleton early next ih =>
    obtain ⟨_, middle, ran, standing⟩ := ih allows.before roomy.before
    have room (cloning : next = .clone) : middle.out id (stock.afterAll early) + 1 < 2 ^ 32 := by
      have limit := roomy early (cloning ▸ List.prefix_rfl)
      rwa [ran] at limit
    obtain ⟨_, after, ended, sound⟩ := returns_carryOut points apart standing next (allows early next List.prefix_rfl) room
    refine ⟨(), after, ?_, by simpa using sound⟩
    rw [Handling.ends_carryOutAll_then ran, Handling.carryOutAll_singleton, ended]

/-- A clone adds one to the number of units, whatever the count comes to. -/
theorem World.out_clone (found : world.store.find? id = some object) (stock : Stock) (turnedOver : Bool) (journal : Array Entry) :
    World.out { world with store := world.store.set id object.increment, turnedOver, journal } id (stock.after .clone) =
      world.out id stock + 1 := by
  have same : (world.store.set id object.increment).owned = world.store.owned := Store.owned_set_count found _
  rw [World.out, World.out, same, Stock.units_clone, add_left_comm, Multiset.count_add, Multiset.count_singleton_self,
    add_comm 1]
  rfl

/-- The clone that has no room leaves a count of zero, whatever the number of units. -/
theorem not_reliable_of_full (points : wrapper.handle = some id) (apart : id ∉ others)
    (sound : world.Sound true (stock.units id + others)) (held : 0 < stock.wrappers) (full : 2 ^ 32 ≤ world.out id stock + 1) :
    ¬ Reliable id (stock.after .clone) (ends (Handling.clone.carryOut wrapper) world) := by
  obtain ⟨object, found⟩ := sound.live_of_wrapper held
  have counted := sound.count_eq_out apart found
  have limit := object.count.toNat_lt
  obtain ⟨journal, ended⟩ := ends_clone points found
  intro reliable
  rw [ended] at reliable
  have empty : object.increment.count.toNat = 0 := by
    rw [Object.increment, UInt32.toNat_add, UInt32.toNat_one]
    omega
  have fewer := reliable.tells _ (Store.find?_set_self found _) (by omega)
  rw [empty, World.out_clone found] at fewer
  omega

/-- Wrappers can be relied on up to the clone that has no room, and no further. -/
theorem reliable_iff_neverFull (points : wrapper.handle = some id) (apart : id ∉ others)
    (sound : world.Sound true (stock.units id + others)) (allows : stock.Allows handlings) :
    (∀ early, early <+: handlings → Reliable id (stock.afterAll early) (ends (Handling.carryOutAll wrapper early) world)) ↔
      world.NeverFull wrapper id stock handlings := by
  constructor
  · intro reliable early within
    -- Up to the first clone without room, the accounts are exact.
    induction length : early.length using Nat.strong_induction_on generalizing early with
    | _ count ih =>
      subst length
      by_contra full
      obtain ⟨late, rfl⟩ := (List.prefix_append early [.clone]).trans within
      have roomy : world.NeverFull wrapper id stock early := by
        intro earlier inside
        have shorter : earlier.length < early.length := by simpa using inside.length_le
        exact ih _ shorter earlier (inside.trans (List.prefix_append early late)) rfl
      obtain ⟨_, middle, ran, standing⟩ := returns_carryOutAll points apart sound allows.before roomy
      rw [ran] at full
      have overdone := reliable _ within
      rw [Handling.ends_carryOutAll_then ran, Handling.carryOutAll_singleton, Stock.afterAll_append,
        Stock.afterAll_singleton] at overdone
      exact not_reliable_of_full points apart standing (allows early .clone within rfl) (not_lt.mp full) overdone
  · rintro roomy early ⟨late, rfl⟩
    obtain ⟨_, after, ran, standing⟩ := returns_carryOutAll points apart sound allows.before roomy.before
    rw [ran]
    exact standing.reliable apart

end Room

theorem World.Continues.dead {before after : World} {id : ObjectId} (continues : before.Continues after)
    (inside : id < before.store.allocated) (dead : before.store.isLive id = false) : after.store.isLive id = false := by
  by_contra lives
  obtain ⟨object, found⟩ := Option.isSome_iff_exists.mp (eq_true_of_ne_false lives)
  obtain ⟨earlier, present, -⟩ := continues.store.payload id object inside found
  rw [Store.isLive, present] at dead
  cases dead

/-- Where the count is one, a single unit given back destroys the object, whatever else that leads to. -/
theorem Store.dead_of_sole {store : Store} {id : ObjectId} {object : Object} (found : store.find? id = some object)
    (sole : object.count = 1) : (store.giveBack [some id]).store.isLive id = false := by
  rw [giveBack]
  split
  next missing =>
    rw [found] at missing
    cases missing
  next same =>
    rw [found] at same
    cases same
    rw [if_neg (by simp [sole]), if_pos sole]
    by_contra lives
    have before := isLive_of_giveBack (eq_true_of_ne_false lives)
    simp [isLive_remove] at before

/-- One way to give back the unit of a wrapper at once: to release it, or to drop it, and to collect
if that is put off and nothing else waits. -/
inductive Binding.PartsAtOnce (binding : Binding) : List Handling → Prop
  | release : PartsAtOnce binding [.release]
  | drop (policy : binding.config.policy = .immediate) : PartsAtOnce binding [.drop]
  | collect (policy : binding.config.policy = .deferred) (idle : binding.queue.items = #[]) :
      PartsAtOnce binding [.drop, .collect]

/-- So many clones of a wrapper bring the count to zero, though all of them are held. To part with one then
unwinds; after one clone more it destroys the object under the others. -/
structure World.Overruns (world : World) (wrapper : Wrapper) (id : ObjectId) (stock : Stock) (clones : Nat)
    (parting : List Handling) : Prop where
  allows : stock.Allows (.replicate (clones + 1) .clone ++ parting)
  underflows : (ends (Handling.carryOutAll wrapper (.replicate clones .clone ++ parting)) world).1 =
    .error (.fault (.misuse (.underflow id)))
  destroys : (ends (Handling.carryOutAll wrapper (.replicate (clones + 1) .clone ++ parting)) world).2.store.isLive id = false
  held : clones < (stock.afterAll (.replicate (clones + 1) .clone ++ parting)).wrappers

structure World.Taken (before : World) (id : ObjectId) (units : Nat) (after : World) : Prop where
  binding : after.binding? = before.binding?
  count : ∀ object, before.store.find? id = some object →
    ∃ last, after.store.find? id = some last ∧ last.count = object.count + UInt32.ofNat units

namespace World.Taken

variable {before middle after : World} {id : ObjectId} {units more : Nat}

theorem refl (world : World) : world.Taken id 0 world :=
  ⟨rfl, fun object found => ⟨object, found, (UInt32.add_zero _).symm⟩⟩

theorem trans (first : before.Taken id units middle) (second : middle.Taken id more after) :
    before.Taken id (units + more) after := by
  refine ⟨second.binding.trans first.binding, fun object found => ?_⟩
  obtain ⟨between, present, counted⟩ := first.count object found
  obtain ⟨last, there, recounted⟩ := second.count between present
  exact ⟨last, there, by rw [recounted, counted, UInt32.ofNat_add, UInt32.add_assoc]⟩

theorem isLive (taken : before.Taken id units after) (lives : before.store.isLive id = true) :
    after.store.isLive id = true := by
  obtain ⟨object, found⟩ := Option.isSome_iff_exists.mp lives
  obtain ⟨last, present, -⟩ := taken.count object found
  exact Option.isSome_iff_exists.mpr ⟨last, present⟩

theorem journal (taken : before.Taken id units after) (journal : Array Entry) :
    before.Taken id units { after with journal } := ⟨taken.binding, taken.count⟩

end World.Taken

section Overrun

variable {world : World} {wrapper : Wrapper} {id : ObjectId} {object : Object} {stock : Stock} {binding : Binding}
  {parting : List Handling}

theorem continues_releaseHandle (bound : world.binding? = some binding) (found : world.store.find? id = some object) :
    (world.spent binding.heap id).Continues (ends (releaseHandle id) world).2 := by
  have given : (world.spent binding.heap id).Continues (ends (Native.decrement binding.heap (some id)) world).2 := by
    rw [ends_decrement binding.heap found]
    split
    · exact goes_fault _ _
    · exact .refl _
  rw [← ends_heap_bind bound fun heap => Native.decrement heap (some id)] at given
  have entered : (world.spent binding.heap id).Continues (ends (Bound.decrement id) world).2 :=
    given.trans (Onward.order_bind (fun _ => (goes_record _).bind fun _ => .pure _) _ world)
  exact entered.trans (Onward.order_bind (fun _ => goes_record _) _ world)

theorem dead_releaseHandle (bound : world.binding? = some binding) (found : world.store.find? id = some object)
    (sole : object.count = 1) : (ends (releaseHandle id) world).2.store.isLive id = false :=
  (continues_releaseHandle bound found).dead
    ((Store.lt_allocated_of_find? found).trans_le (Store.continues_giveBack world.store [some id]).allocated)
    (Store.dead_of_sole found sole)

/-- Where one handle waits, collecting begins with giving back its unit. -/
theorem ends_collect_sole (bound : world.binding? = some binding) (sole : binding.queue.items = #[id]) (next : Bridge Unit) :
    ends (do let _ ← collect; next) world = ends (do releaseHandle id; report (.processed 1); next) (world.withQueue {}) := by
  rw [collect, bind_assoc, ends_bind_ok (ends_binding bound)]
  dsimp only
  rw [bind_assoc, ends_bind_ok (ends_modifyQueue bound _)]
  simp only [Queue.takeAll, sole, releaseAll, bind_assoc, pure_bind, List.size_toArray, List.length_singleton, Nat.zero_lt_one,
    if_true]

/-- Whatever the policy, it comes down to a unit that is given back at once, with something to follow. -/
theorem ends_parting (points : wrapper.handle = some id) (bound : world.binding? = some binding)
    (parts : binding.PartsAtOnce parting) :
    ∃ middle later, middle.store = world.store ∧ middle.isBound = true ∧ Goes later ∧
      ends (Handling.carryOutAll wrapper parting) world = ends (do releaseHandle id; later) middle := by
  have known : world.isBound = true := by rw [isBound, bound, Option.isSome_some]
  have dropping : wrapper.drop = dispose id := by rw [Wrapper.drop, points]
  cases parts with
  | release =>
    refine ⟨world, pure (), rfl, known, .pure _, ?_⟩
    rw [Handling.carryOutAll_singleton, Handling.carryOut, Wrapper.release, points]
    dsimp only
    rw [bind_assoc]
    rfl
  | drop policy =>
    refine ⟨world, pure (), rfl, known, .pure _, ?_⟩
    rw [Handling.carryOutAll_singleton, Handling.carryOut, dropping, dispose, ends_bind_ok (ends_binding bound), policy,
      bind_pure_unit]
  | collect policy idle =>
    have waiting := binding_deferring bound id
    have sole : (binding.queue.defer id).items = #[id] := by rw [Queue.items_defer, idle]; rfl
    let emptied := (world.deferring binding id).withQueue {}
    have still : emptied.isBound = true := by simp [emptied, isBound, World.withQueue, waiting]
    have goes : Goes (do let _ ← collect : Bridge Unit) := goes_collect.bind fun _ => .pure _
    have begun : ends (Handling.carryOutAll wrapper [.drop, .collect]) world =
        ends (do dispose id; let _ ← collect) world := by
      rw [← dropping, ← List.singleton_append, Handling.carryOutAll_append, Handling.carryOutAll_singleton,
        Handling.carryOutAll_singleton]
      rfl
    rw [begun, ends_bind, dispose, ends_bind_ok (ends_binding bound), policy]
    dsimp only
    rw [ends_deferRelease bound, ← ends_bind]
    by_cases many : binding.config.flushThreshold.toNat ≤ (binding.queue.defer id).pending
    · refine ⟨emptied, do report (.processed 1); let _ ← collect, rfl, still, (goes_record _).bind fun _ => goes, ?_⟩
      rw [if_pos many, bind_assoc]
      simp only [pure_bind]
      exact ends_collect_sole waiting sole _
    · refine ⟨emptied, do report (.processed 1), rfl, still, goes_record _, ?_⟩
      rw [if_neg many, pure_bind]
      exact (ends_collect_sole waiting sole (pure ())).trans (by rw [bind_pure_unit])

theorem underflows_parting (points : wrapper.handle = some id) (bound : world.binding? = some binding)
    (parts : binding.PartsAtOnce parting) (found : world.store.find? id = some object) (empty : object.count = 0) :
    (ends (Handling.carryOutAll wrapper parting) world).1 = .error (.fault (.misuse (.underflow id))) := by
  obtain ⟨middle, later, same, known, -, ended⟩ := ends_parting points bound parts
  obtain ⟨waiting, present⟩ := Option.isSome_iff_exists.mp known
  rw [ended, ends_bind_error (ends_releaseHandle_underflow present (same ▸ found) empty)]

theorem dead_parting (points : wrapper.handle = some id) (bound : world.binding? = some binding)
    (parts : binding.PartsAtOnce parting) (found : world.store.find? id = some object) (sole : object.count = 1) :
    (ends (Handling.carryOutAll wrapper parting) world).2.store.isLive id = false := by
  obtain ⟨middle, later, same, known, goes, ended⟩ := ends_parting points bound parts
  obtain ⟨waiting, present⟩ := Option.isSome_iff_exists.mp known
  have there : middle.store.find? id = some object := same ▸ found
  have continues : (ends (releaseHandle id) middle).2.Continues (ends (do releaseHandle id; later) middle).2 :=
    Onward.order_bind (fun _ => goes) _ middle
  have inside : id < (ends (releaseHandle id) middle).2.store.allocated :=
    (Store.lt_allocated_of_find? there).trans_le (goes_releaseHandle id middle).store.allocated
  rw [ended]
  exact continues.dead inside (dead_releaseHandle present there sole)

theorem taken_increment (lives : world.store.isLive id = true) :
    Returns (Bound.increment id) world fun _ after => world.Taken id 1 after := by
  obtain ⟨object, found⟩ := Option.isSome_iff_exists.mp lives
  obtain ⟨journal, ended⟩ := ends_boundIncrement found
  refine ⟨(), _, ended, rfl, fun other present => ?_⟩
  rw [found] at present
  cases present
  exact ⟨object.increment, Store.find?_set_self found _, rfl⟩

/-- Clones add up in the count, as far as that can tell. -/
theorem taken_clones (points : wrapper.handle = some id) (lives : world.store.isLive id = true) (clones : Nat) :
    Returns (Handling.carryOutAll wrapper (.replicate clones .clone)) world fun _ after => world.Taken id clones after := by
  induction clones generalizing world with
  | zero => exact ⟨(), world, rfl, .refl world⟩
  | succ clones ih =>
    rw [List.replicate_succ, Handling.carryOutAll, Handling.carryOut, Wrapper.clone, points, Nat.add_comm]
    simp only [bind_assoc, pure_bind]
    apply (taken_increment lives).bind
    intro _ middle taken
    exact (ih (taken.isLive lives)).mono fun _ _ further => taken.trans further

theorem Stock.allows_overrun (parts : binding.PartsAtOnce parting) (held : 0 < stock.wrappers) (clones : Nat) :
    stock.Allows (.replicate clones .clone ++ parting) := by
  induction clones generalizing stock with
  | zero =>
    cases parts with
    | release | drop => exact allows_cons (fun _ => held) allows_nil
    | collect => exact allows_cons (fun _ => held) (allows_cons nofun allows_nil)
  | succ clones ih =>
    rw [List.replicate_succ, List.cons_append]
    exact allows_cons (fun _ => held) (ih (Nat.succ_pos _))

theorem count_turned {count : UInt32} {more : Nat} (full : count.toNat + more = 2 ^ 32) : count + UInt32.ofNat more = 0 := by
  apply UInt32.toNat_inj.mp
  rw [UInt32.toNat_add, UInt32.toNat_ofNat', UInt32.toNat_zero]
  omega

/-- There is no wrapper that cannot be cloned too often. -/
theorem overruns (points : wrapper.handle = some id) (bound : world.binding? = some binding)
    (parts : binding.PartsAtOnce parting) (found : world.store.find? id = some object) (held : 0 < stock.wrappers) :
    world.Overruns wrapper id stock (2 ^ 32 - object.count.toNat) parting := by
  have limit := object.count.toNat_lt
  have turned : object.count + UInt32.ofNat (2 ^ 32 - object.count.toNat) = 0 := count_turned (by omega)
  have lives : world.store.isLive id = true := Option.isSome_iff_exists.mpr ⟨object, found⟩
  refine ⟨Stock.allows_overrun parts held _, ?_, ?_, ?_⟩
  · obtain ⟨_, middle, ran, taken⟩ := taken_clones points lives (2 ^ 32 - object.count.toNat)
    obtain ⟨last, present, counted⟩ := taken.count object found
    rw [Handling.ends_carryOutAll_then ran]
    exact underflows_parting points (taken.binding.trans bound) parts present (counted.trans turned)
  · obtain ⟨_, middle, ran, taken⟩ := taken_clones points lives (2 ^ 32 - object.count.toNat + 1)
    obtain ⟨last, present, counted⟩ := taken.count object found
    rw [Handling.ends_carryOutAll_then ran]
    refine dead_parting points (taken.binding.trans bound) parts present (counted.trans ?_)
    rw [UInt32.ofNat_add, ← UInt32.add_assoc, turned]
    rfl
  · rw [Stock.afterAll_append, Stock.afterAll_clones]
    cases parts <;> simp only [Stock.afterAll, List.foldl, Stock.after] <;> omega

end Overrun

namespace Program

section Burst

variable {α : Type} {world : World} {id : ObjectId} {object : Object} {binding : Binding}

theorem ends_repetition (watched : Bool) (action : Bridge α) (world : World) :
    ∃ journal, ends (repetition watched action) world = ((ends action world).1, { (ends action world).2 with journal }) := by
  cases watched with
  | true => exact ⟨_, rfl⟩
  | false => exact ⟨_, ends_unrecorded action world⟩

theorem taken_repeatedly (watched : Bool) (lives : world.store.isLive id = true) (count : Nat) :
    Returns (repeatedly watched count do let _ ← Wrapper.retain .object (some id)) world fun _ after =>
      world.Taken id count after := by
  induction count generalizing world with
  | zero => exact ⟨(), world, rfl, .refl world⟩
  | succ count ih =>
    obtain ⟨_, middle, ended, taken⟩ := taken_increment lives
    have retained : ends (do let _ ← Wrapper.retain .object (some id)) world = (.ok (), middle) := by
      simp only [Wrapper.retain, bind_assoc, pure_bind]
      exact (ends_bind_ok ended).trans rfl
    obtain ⟨journal, repeated⟩ := ends_repetition watched (do let _ ← Wrapper.retain .object (some id)) world
    rw [retained] at repeated
    obtain ⟨_, after, rest, further⟩ := ih ((taken.journal journal).isLive lives)
    refine ⟨(), after, ?_, Nat.add_comm count 1 ▸ (taken.journal journal).trans further⟩
    rw [repeatedly, ends_bind_ok repeated, rest]

/-- The units that fill up the count make the first drop unwind. -/
theorem burst_underflows (watched : Bool) (bound : world.binding? = some binding) (policy : binding.config.policy = .immediate)
    (found : world.store.find? id = some object) {count : Nat} (full : object.count.toNat + count = 2 ^ 32) :
    (ends (burst watched id count) world).1 = .error (.fault (.misuse (.underflow id))) := by
  have lives : world.store.isLive id = true := Option.isSome_iff_exists.mpr ⟨object, found⟩
  obtain ⟨_, middle, ran, taken⟩ := taken_repeatedly watched lives count
  obtain ⟨last, present, counted⟩ := taken.count object found
  have points : (⟨.object, some id⟩ : Wrapper).handle = some id := rfl
  have parted := underflows_parting points (taken.binding.trans bound) (.drop policy) present
    (counted.trans (count_turned full))
  rw [Handling.carryOutAll_singleton, Handling.carryOut] at parted
  obtain ⟨journal, dropped⟩ := ends_repetition watched (Wrapper.drop ⟨.object, some id⟩) middle
  rw [parted] at dropped
  have several : count ≠ 0 := by
    have limit := object.count.toNat_lt
    omega
  obtain ⟨fewer, rfl⟩ := Nat.exists_eq_succ_of_ne_zero several
  have asked : ends (countOf id) middle = (.ok (((middle.store.find? id).map (·.count.toNat)).getD 0), middle) := rfl
  have left : ends (repeatedly watched (fewer + 1) (Wrapper.drop ⟨.object, some id⟩)) middle = _ := ends_bind_error dropped
  rw [burst, ends_bind_ok ran, ends_bind_ok asked, ends_bind_error left]

end Burst

variable {α : Type} {id : ObjectId} {wrapper : Wrapper}

/-- What a session, with the wrappers on their way in it, has in stock of an object. The units that belong
to the program itself are in no wrapper. -/
def Session.stock (session : Session α) (hand : List Wrapper) (id : ObjectId) : Stock where
  wrappers := (contents session.frames + ↑hand).countP (·.handle = some id)
  loose := session.units.count id

variable {program : List (Op α)} {session : Session α} {hand : List Wrapper}

/-- What is held of other objects, besides the stock of this one. -/
theorem Session.holdings_eq (session : Session α) (hand : List Wrapper) (id : ObjectId) :
    session.holdings + unitsIn ↑hand =
      (session.stock hand id).units id + (session.holdings + unitsIn ↑hand).filter (· ≠ id) := by
  have mine : (session.holdings + unitsIn ↑hand).filter (· = id) = (session.stock hand id).units id := by
    rw [Multiset.filter_eq', Session.holdings, Multiset.count_add, Multiset.count_add, count_unitsIn, count_unitsIn,
      Multiset.coe_count, Stock.units, Session.stock, Multiset.countP_add]
    congr 1
    dsimp only
    omega
  rw [← mine, Multiset.filter_add_not]

/-- The units that are out are in the hands of those that hold the object. -/
theorem Session.out_eq_holders (session : Session α) (hand : List Wrapper) (id : ObjectId) :
    session.world.out id (session.stock hand id) = session.holders hand id := by
  rw [World.out, Multiset.count_add, Multiset.count_add, Store.count_owned, Stock.units, Multiset.count_replicate_self,
    Session.stock, Session.holders]
  dsimp only
  omega

/-- In every state on the way, a wrapper of a live object may be handled in any way: it is relied on with reason
as long as no clone is made when 2^32 - 1 units are out, and not beyond. And every wrapper can be cloned so often
that this comes to an end. -/
theorem Reached.reliable_until_full (origin : Nat) (watched : Bool)
    (reached : Reached program (Session.start α origin watched) session hand) (fits : session.world.turnedOver = false)
    (lawful : session.world.breached = false) (member : wrapper ∈ contents session.frames + ↑hand)
    (points : wrapper.handle = some id) :
    let stock := session.stock hand id
    session.world.out id stock = session.holders hand id ∧
    (∀ handlings, stock.Allows handlings →
      ((∀ early, early <+: handlings →
          Reliable id (stock.afterAll early) (ends (Handling.carryOutAll wrapper early) session.world)) ↔
        session.world.NeverFull wrapper id stock handlings)) ∧
    ∃ binding object, session.world.binding? = some binding ∧ session.world.store.find? id = some object ∧
      ∀ parting, binding.PartsAtOnce parting →
        session.world.Overruns wrapper id stock (2 ^ 32 - object.count.toNat) parting := by
  intro stock
  obtain ⟨bound, sound, known⟩ := reached.standing (fair_start origin watched) ⟨fits, lawful⟩
  obtain rfl : bound = true := known wrapper member (by rw [points]; exact nofun)
  have standing := sound.congr (session.holdings_eq hand id)
  have apart : id ∉ (session.holdings + unitsIn ↑hand).filter (· ≠ id) := by simp
  have held : 0 < stock.wrappers := Multiset.countP_pos.mpr ⟨wrapper, member, points⟩
  obtain ⟨binding, present⟩ := standing.exists_binding
  obtain ⟨object, found⟩ := standing.live_of_wrapper held
  exact ⟨session.out_eq_holders hand id, fun handlings allows => reliable_iff_neverFull points apart standing allows,
    binding, object, present, found, fun parting parts => overruns points present parts found held⟩

def shared : List (Op Unit) :=
  [.act (.bootstrap mainHeap {} hookVersion), .act (.newPlain mainHeap "A" (some "o")), .act (.retain "o" (some "w"))]

/-- The wrapper can be cloned once and both be parted with in peace, but it can also be cloned 2^32 - 2 times
before one is dropped, and then that unwinds. -/
theorem Reached.reliable_until_full_shared :
    ∃ session, Reached (shared ++ [.act .collect]) (Session.start Unit Address.spacing false) session [] ∧
      (∀ early, early <+: [.clone, .handOut, .release] →
        Reliable 0 (Stock.afterAll ⟨1, 1⟩ early) (ends (Handling.carryOutAll ⟨.object, some 0⟩ early) session.world)) ∧
      session.world.Overruns ⟨.object, some 0⟩ 0 ⟨1, 1⟩ (2 ^ 32 - 2) [.drop] := by
  rcases running : ends (runEach shared) (Session.start Unit Address.spacing false) with ⟨outcome, session⟩
  have ran : let ended := ends (runEach shared) (Session.start Unit Address.spacing false)
      (ended.1, ended.2.world.turnedOver, ended.2.world.breached, ended.2.frames, ended.2.units, ended.2.world.binding?,
        ended.2.world.store) =
        (.ok (), false, false, [⟨none, [("w", ⟨.object, some 0⟩)]⟩], [0], some ⟨0, {}, {}⟩,
          ⟨#[some ⟨2, .plain "A"⟩]⟩) := by cbv
  simp only [running, Prod.mk.injEq] at ran
  obtain ⟨rfl, fits, lawful, frames, units, bound, store⟩ := ran
  have reached : Reached (shared ++ [.act .collect]) (Session.start Unit Address.spacing false) session [] :=
    .begins (.top (.of_runEach running))
  have stock : session.stock [] 0 = ⟨1, 1⟩ := by rw [Session.stock, frames, units]; rfl
  have member : ⟨.object, some 0⟩ ∈ contents session.frames + ↑([] : List Wrapper) := by simp [frames, Frame.contents]
  obtain ⟨-, reliable, binding, object, present, found, overruns⟩ :=
    Reached.reliable_until_full Address.spacing false reached fits lawful member rfl
  rw [stock] at reliable overruns
  rw [bound] at present
  cases present
  rw [store] at found
  cases found
  refine ⟨session, reached, (reliable _ ?_).mpr ?_, overruns [.drop] (.drop rfl)⟩
  · have last : Stock.Allows ⟨1, 2⟩ [.release] := Stock.allows_cons (fun _ => Nat.one_pos) Stock.allows_nil
    exact Stock.allows_cons (fun _ => Nat.one_pos) (Stock.allows_cons (fun _ => Nat.two_pos) last)
  · have two : session.world.out 0 ⟨1, 1⟩ = 2 := by rw [World.out, queued, store, bound]; rfl
    -- The only clone is the first thing that is done.
    intro early within
    obtain rfl : early = [] := by
      cases early with
      | nil => rfl
      | cons first early =>
        obtain ⟨rfl, further⟩ := List.cons_prefix_cons.mp within
        have among := further.subset (List.mem_append_right early (List.mem_singleton_self Handling.clone))
        simp at among
    have room : session.world.out 0 ⟨1, 1⟩ + 1 < 2 ^ 32 := by rw [two]; decide
    exact room

end Program

end CountBridge
