import CountBridge.Proofs.Faults
import CountBridge.Proofs.Upholding

/-! Worlds in balance. The accounts are exact, no condition was broken, and the
counters of the heaps agree with what lives; where the calls of the bridge are
watched, a ledger of them shows what the bridge owns. The operations of the object
system keep it so. -/

namespace CountBridge

open Bridge

namespace Store

variable {store before after : Store} {id : ObjectId} {held : Multiset ObjectId}

def HasString (store : Store) (id : ObjectId) : Prop :=
  ∃ object, store.find? id = some object ∧ object.isString = true

def Worded (store : Store) : Prop :=
  ∀ id object mess, store.find? id = some object → object.message = some mess → store.HasString mess

theorem isString_of_becomes {first last : Object} (becomes : first.payload.Becomes last.payload) :
    last.isString = first.isString := by
  obtain ⟨count, payload⟩ := first
  obtain ⟨count', payload'⟩ := last
  cases becomes <;> rfl

/-- A string that still lives is still one. -/
theorem HasString.continues (string : before.HasString id) (continues : before.Continues after) {object : Object}
    (found : after.find? id = some object) : after.HasString id := by
  obtain ⟨earlier, present, is⟩ := string
  obtain ⟨same, there, becomes⟩ := continues.payload id object (lt_allocated_of_find? present) found
  rw [present] at there
  cases there
  exact ⟨object, found, (isString_of_becomes becomes).trans is⟩

theorem Worded.continues (worded : before.Worded) (continues : before.Continues after)
    (same : after.allocated = before.allocated) (exact : after.Exact held) : after.Worded := by
  intro id object mess found message
  obtain ⟨earlier, present, becomes⟩ := continues.payload id object (same ▸ lt_allocated_of_find? found) found
  obtain ⟨other, there⟩ := exact.live_message found message
  rw [Object.message_of_becomes becomes] at message
  exact (worded id earlier mess present message).continues continues there

theorem HasString.allocate (string : store.HasString id) (payload : Payload) : (store.allocate payload).2.HasString id := by
  obtain ⟨object, found, is⟩ := string
  exact ⟨object, (find?_allocate_other (lt_allocated_of_find? found) payload).trans found, is⟩

theorem Worded.allocate {payload : Payload} (worded : store.Worded)
    (string : ∀ mess, payload = .error (some mess) → store.HasString mess) : (store.allocate payload).2.Worded := by
  intro id object mess found message
  apply HasString.allocate
  rw [find?_allocate] at found
  split at found
  · cases found
    cases payload with
    | error handle => cases message; exact string mess rfl
    | plain | string | bytes | vector => cases message
  · exact worded id object mess found message

theorem allocated_giveBack (store : Store) (line : List Handle) :
    (store.giveBack line).store.allocated = store.allocated := by
  fun_induction Store.giveBack store line with
  | case1 => rfl
  | case2 store line ih => exact ih
  | case3 => rfl
  | case4 store id line object found empty => exact allocated_set ..
  | case5 store id line object found positive sole after ih => exact ih.trans (allocated_remove ..)
  | case6 store id line object found positive shared ih => exact ih.trans (allocated_set ..)

end Store

/-- The live counters of all heaps add up to what lives, but for whole turns of the counters. -/
def Tallied (heaps : Array Heap) (store : Store) : Prop :=
  (heaps.toList.map (·.live.toNat)).sum % UInt64.size = store.liveCount % UInt64.size

section Tallied

variable {heaps : Array Heap} {store : Store} {heap : HeapId}

theorem sum_modify (inside : heap < heaps.size) (change : Heap → Heap) :
    ((heaps.modify heap change).toList.map (·.live.toNat)).sum + heaps[heap].live.toNat =
      (heaps.toList.map (·.live.toNat)).sum + (change heaps[heap]).live.toNat := by
  have inside' : heap < heaps.toList.length := by simpa using inside
  have split : heaps.toList = heaps.toList.take heap ++ heaps[heap] :: heaps.toList.drop (heap + 1) := by
    rw [← Array.getElem_toList, ← List.drop_eq_getElem_cons inside', List.take_append_drop]
  rw [Array.toList_modify, List.modify_eq_take_cons_drop inside']
  conv_rhs => rw [split]
  simp only [List.map_append, List.map_cons, List.sum_append, List.sum_cons, Array.getElem_toList]
  omega

theorem Tallied.allocate (tallied : Tallied heaps store) (inside : heap < heaps.size) (payload : Payload) :
    Tallied (heaps.modify heap Heap.allocate) (store.allocate payload).2 := by
  have sum := sum_modify inside Heap.allocate
  simp only [Heap.allocate, UInt64.toNat_add, UInt64.toNat_one] at sum
  unfold Tallied at tallied ⊢
  rw [Store.liveCount_allocate]
  simp only [UInt64.size] at tallied ⊢
  omega

theorem Tallied.destroy {last : Store} {count : Nat} (tallied : Tallied heaps store) (inside : heap < heaps.size)
    (fewer : last.liveCount + count = store.liveCount) : Tallied (heaps.modify heap (·.destroy count)) last := by
  have sum := sum_modify inside (·.destroy count)
  have lowered : (heaps[heap].destroy count).live.toNat =
      (UInt64.size - count % UInt64.size + heaps[heap].live.toNat) % UInt64.size := by
    simp only [Heap.destroy, UInt64.toNat_sub, UInt64.toNat_ofNat']
  rw [lowered] at sum
  unfold Tallied at tallied ⊢
  simp only [UInt64.size] at tallied sum ⊢
  omega

theorem Tallied.set {id : ObjectId} {found : Object} (tallied : Tallied heaps store) (live : store.find? id = some found)
    (object : Object) : Tallied heaps (store.set id object) := by
  rw [Tallied, Store.liveCount_set live]
  exact tallied

theorem Tallied.boot (tallied : Tallied heaps store) (heap : HeapId) :
    Tallied (heaps.modify heap fun counters => { counters with booted := true }) store := by
  have same : (heaps.modify heap fun counters => { counters with booted := true }).toList.map (·.live.toNat) =
      heaps.toList.map (·.live.toNat) := by
    apply List.ext_getElem?
    intro index
    simp only [Array.toList_modify, List.getElem?_map, List.getElem?_modify]
    split <;> cases heaps.toList[index]? <;> rfl
  rw [Tallied, same]
  exact tallied

theorem Tallied.push (tallied : Tallied heaps store) : Tallied (heaps.push {}) store := by
  simpa [Tallied] using tallied

end Tallied

/-- What is known of a whole operation: whether its calls are watched, how many heaps there are,
and the ledger at the beginning of the journal. -/
structure Terms where
  strict : Bool
  heaps : Nat
  start : Ledger

namespace World

/-- The calls so far were in order, and by their ledger the bridge owns what waits and `mine`. -/
structure Careful (start : Ledger) (mine : Multiset ObjectId) (world : World) : Prop where
  plain : world.stubs = {}
  worded : world.store.Worded
  honours : start.Honours (exchangesOf true world.journal)
  ledger : start.after (exchangesOf true world.journal) = ⟨world.isBound, world.queued + mine⟩

/-- `held` is in hand besides what waits, and `mine` is what the bridge owns of it. -/
structure Balanced (terms : Terms) (bound : Bool) (held mine : Multiset ObjectId) (world : World) : Prop where
  sound : world.Sound bound held
  unbroken : world.breached = false
  heaps : world.heaps.size = terms.heaps
  housed : ∀ binding, world.binding? = some binding → binding.heap < world.heaps.size
  tallied : Tallied world.heaps world.store
  careful : terms.strict = true → world.Careful terms.start mine

def Lives (world : World) (id : ObjectId) : Prop := ∃ object, world.store.find? id = some object

variable {world : World} {terms : Terms} {bound : Bool} {held held' mine mine' : Multiset ObjectId} {id : ObjectId}
  {heap : HeapId}

namespace Balanced

theorem congr (balanced : world.Balanced terms bound held mine) (same : held = held') (same' : mine = mine') :
    world.Balanced terms bound held' mine' := same ▸ same' ▸ balanced

theorem upgrade (balanced : world.Balanced terms bound held mine) (known : world.isBound = true) (bound' : Bool) :
    world.Balanced terms bound' held mine :=
  ⟨⟨balanced.sound.exact, balanced.sound.booted, fun _ => known⟩, balanced.unbroken, balanced.heaps, balanced.housed,
    balanced.tallied, balanced.careful⟩

theorem lives (balanced : world.Balanced terms bound held mine) (member : id ∈ held) : world.Lives id :=
  balanced.sound.live_of_held member

/-- The objects and the counters change, and all else stays. -/
theorem restore {store : Store} {heaps : Array Heap} {turnedOver : Bool} (balanced : world.Balanced terms bound held mine)
    (exact : store.Exact (world.queued + held')) (size : heaps.size = world.heaps.size)
    (booted : ∀ other : HeapId, (world.heaps[other]?.getD ({} : Heap)).booted = true →
      (heaps[other]?.getD ({} : Heap)).booted = true)
    (tallied : Tallied heaps store) (worded : terms.strict = true → world.store.Worded → store.Worded) :
    { world with store, heaps, turnedOver }.Balanced terms bound held' mine := by
  refine ⟨⟨exact, fun binding found => booted _ (balanced.sound.booted binding found), balanced.sound.bound⟩,
    balanced.unbroken, size.trans balanced.heaps, fun binding found => size ▸ balanced.housed binding found, tallied,
    fun strict => ?_⟩
  obtain ⟨plain, strings, honours, ledger⟩ := balanced.careful strict
  exact ⟨plain, worded strict strings, honours, ledger⟩

theorem allocate {payload : Payload} (balanced : world.Balanced terms bound (payload.units + held) mine)
    (inside : heap < terms.heaps)
    (string : terms.strict = true → ∀ mess, payload = .error (some mess) → world.store.HasString mess) :
    { world with
      store := (world.store.allocate payload).2
      heaps := world.heaps.modify heap Heap.allocate }.Balanced terms bound ({world.store.allocated} + held) mine := by
  have exact : world.store.Exact (payload.units + (world.queued + held)) :=
    balanced.sound.exact.congr (add_left_comm _ _ _)
  exact balanced.restore (exact.allocate.congr (add_left_comm _ _ _)) Array.size_modify
    (fun other => booted_modify _ _ _ _ fun _ booted => booted)
    (balanced.tallied.allocate (inside.trans_eq balanced.heaps.symm) payload) fun strict worded => worded.allocate (string strict)

theorem increment {object : Object} {turnedOver : Bool} (balanced : world.Balanced terms bound held mine)
    (found : world.store.find? id = some object) (fits : object.increment.count ≠ 0) :
    { world with store := world.store.set id object.increment, turnedOver }.Balanced terms bound ({id} + held) mine := by
  have exact : (world.store.set id object.increment).Exact (world.queued + ({id} + held)) :=
    (balanced.sound.exact.increment found fits).congr (add_left_comm _ _ _)
  exact balanced.restore exact rfl (fun _ booted => booted) (balanced.tallied.set found _) fun _ worded =>
    worded.continues (Store.continues_set found .same) (Store.allocated_set ..) exact

/-- A unit is given back, with all that comes of it. -/
theorem spend (balanced : world.Balanced terms bound ({id} + held) mine) (inside : heap < terms.heaps) :
    (world.store.giveBack [some id]).misuse = none ∧ { world with
      store := (world.store.giveBack [some id]).store
      heaps := world.heaps.modify heap (·.destroy (world.store.giveBack [some id]).destroyed.length)
      }.Balanced terms bound held mine := by
  have given : world.store.Exact (unitsOf [some id] + (world.queued + held)) :=
    balanced.sound.exact.congr (by simp only [unitsOf_cons, unitsOf_nil, unitOf_some]; abel)
  obtain ⟨regular, exact, -⟩ := given.giveBack
  refine ⟨regular, balanced.restore exact Array.size_modify (fun other => booted_modify _ _ _ _ fun _ booted => booted) ?_ ?_⟩
  · exact balanced.tallied.destroy (inside.trans_eq balanced.heaps.symm) (Store.liveCount_giveBack ..)
  · exact fun _ worded => worded.continues (Store.continues_giveBack ..) (Store.allocated_giveBack ..) exact

/-- A vector takes an item in. -/
theorem append {object : Object} {items : Array Handle} {item : Handle}
    (balanced : world.Balanced terms bound (unitOf item + held) mine) (found : world.store.find? id = some object)
    (vector : object.payload = .vector items) :
    { world with store := world.store.set id { object with payload := .vector (items.push item) } }.Balanced terms bound held
      mine := by
  have given : world.store.Exact (unitOf item + (world.queued + held)) :=
    balanced.sound.exact.congr (add_left_comm _ _ _)
  have more : (Payload.vector (items.push item)).units = object.payload.units + unitOf item := by
    simp [vector, Payload.units, Payload.slots, unitsOf_append]
  have exact := given.takeOver found more
  refine balanced.restore exact rfl (fun _ booted => booted) (balanced.tallied.set found _) fun _ worded => ?_
  refine worded.continues (Store.continues_set found ?_) (Store.allocated_set ..) exact
  rw [vector, ← Array.append_singleton]
  exact .grown

/-- An entry that tells of no exchange. -/
theorem note (balanced : world.Balanced terms bound held mine) (entry : Entry) (silent : entry.exchanges true = []) :
    { world with journal := world.journal.push entry }.Balanced terms bound held mine := by
  refine ⟨balanced.sound.journal _, balanced.unbroken, balanced.heaps, balanced.housed, balanced.tallied, fun strict => ?_⟩
  obtain ⟨plain, worded, honours, ledger⟩ := balanced.careful strict
  refine ⟨plain, worded, ?_, ?_⟩ <;> simpa [silent]

theorem exchange {entry : Entry} {exchange : Exchange} (balanced : world.Balanced terms bound held mine)
    (tells : entry.exchanges true = [exchange])
    (allowed : terms.strict = true → Ledger.Allows ⟨world.isBound, world.queued + mine⟩ exchange)
    (next : terms.strict = true → Ledger.next ⟨world.isBound, world.queued + mine⟩ exchange =
      ⟨world.isBound, world.queued + mine'⟩) :
    { world with journal := world.journal.push entry }.Balanced terms bound held mine' := by
  refine ⟨balanced.sound.journal _, balanced.unbroken, balanced.heaps, balanced.housed, balanced.tallied, fun strict => ?_⟩
  obtain ⟨plain, worded, honours, ledger⟩ := balanced.careful strict
  refine ⟨plain, worded, ?_, ?_⟩
  · rw [exchangesOf_push, tells, Ledger.honours_append, ledger]
    exact ⟨honours, allowed strict, trivial⟩
  · rw [exchangesOf_push, tells, Ledger.after_append, ledger]
    exact next strict

/-- Native code raises an error, and gives up a unit of it. -/
theorem raising (balanced : world.Balanced terms bound held mine) (id : ObjectId) :
    { world with journal := world.journal.push (.event (.raising (some id))) }.Balanced terms bound held ({id} + mine) :=
  balanced.exchange rfl (fun _ => trivial) fun _ => by simp only [Ledger.next, add_left_comm]

/-- A call by the bridge, once a system is bound. -/
theorem call (balanced : world.Balanced terms true held mine') (call : Call) (lawful : Bool)
    (owned : mine' = call.spends + mine) (later : call.isBoot = false) (kept : terms.strict = true → lawful = true ∧ ¬ call.GivesNull) :
    { world with journal := world.journal.push (.call call lawful) }.Balanced terms true held (call.brings + mine) := by
  have known : world.isBound = true := balanced.sound.bound rfl
  subst owned
  refine balanced.exchange rfl (fun strict => ⟨(kept strict).1, ?_, (kept strict).2, ?_⟩) fun _ => ?_
  · cases call <;> first | exact known | exact trivial | cases later
  · exact (Multiset.le_add_right _ _).trans (Multiset.le_add_left _ _)
  · have whole : world.queued + (call.spends + mine) = call.spends + (world.queued + mine) := add_left_comm _ _ _
    simp only [Ledger.next, later, Bool.or_false, whole, add_tsub_cancel_left, add_left_comm]

/-- A call that neither brings nor spends. -/
theorem asked (balanced : world.Balanced terms true held mine) (call : Call) (lawful : Bool)
    (kept : terms.strict = true → lawful = true) (later : call.isBoot = false := by rfl)
    (moves : call.spends = 0 ∧ call.brings = 0 := by exact ⟨rfl, rfl⟩) (given : ¬ call.GivesNull := by exact nofun) :
    { world with journal := world.journal.push (.call call lawful) }.Balanced terms true held mine :=
  (balanced.call call lawful (by rw [moves.1, zero_add]) later fun strict => ⟨kept strict, given⟩).congr rfl
    (by rw [moves.2, zero_add])

theorem boot (balanced : world.Balanced terms bound held mine) (heap : HeapId) :
    { world with heaps := world.heaps.modify heap fun counters => { counters with booted := true } }.Balanced terms bound held
      mine :=
  balanced.restore balanced.sound.exact Array.size_modify (fun _ => booted_modify _ _ _ _ fun _ _ => rfl)
    (balanced.tallied.boot heap) fun _ worded => worded

/-- The version may be asked for at any time. -/
theorem version (balanced : world.Balanced terms bound held mine) :
    { world with journal := world.journal.push (.call .version true) }.Balanced terms bound held mine :=
  balanced.exchange rfl (fun _ => ⟨rfl, trivial, nofun, Multiset.zero_le _⟩) fun _ => by
    simp [Ledger.next, Call.isBoot, Call.brings, Call.spends]

/-- The system is booted, and bound with an empty queue. -/
theorem bind {config : Config} {lawful : Bool} (balanced : world.Balanced terms bound held mine) (free : world.binding? = none)
    (kept : lawful = true) (inside : heap < terms.heaps) (booted : (world.heaps[heap]?.getD {}).booted = true) :
    { world with
      binding? := some { heap, config }
      journal := world.journal.push (.call .boot lawful) }.Balanced terms bound held mine := by
  have nothing : world.queued = 0 := by simp [queued, free]
  have unbound : world.isBound = false := by simp [isBound, free]
  refine ⟨⟨?_, fun binding found => ?_, fun _ => rfl⟩, balanced.unbroken, balanced.heaps, fun binding found => ?_, balanced.tallied,
    fun strict => ?_⟩
  · have exact := balanced.sound.exact
    rw [nothing] at exact
    exact exact
  · cases found
    exact booted
  · cases found
    exact inside.trans_eq balanced.heaps.symm
  · obtain ⟨plain, worded, honours, ledger⟩ := balanced.careful strict
    rw [unbound, nothing] at ledger
    refine ⟨plain, worded, ?_, ?_⟩
    · rw [exchangesOf_push, Ledger.honours_append, ledger]
      exact ⟨honours, ⟨kept, rfl, not_false, Multiset.zero_le _⟩, trivial⟩
    · rw [exchangesOf_push, Ledger.after_append, ledger]
      simp [Ledger.after, Ledger.next, Entry.exchanges, Call.isBoot, Call.brings, Call.spends, isBound, queued]

/-- What waits and what is in hand may be shared out anew. -/
theorem share {queue : Queue ObjectId} {binding : Binding} (balanced : world.Balanced terms bound held mine)
    (found : world.binding? = some binding) (shared : world.queued + held = ↑queue.items.toList + held')
    (shared' : world.queued + mine = ↑queue.items.toList + mine') :
    (world.withQueue queue).Balanced terms bound held' mine' := by
  refine ⟨balanced.sound.withQueue found shared, balanced.unbroken, balanced.heaps, fun other present => ?_,
    balanced.tallied, fun strict => ?_⟩
  · simp only [World.withQueue, found, Option.map_some, Option.some.injEq] at present
    subst present
    exact balanced.housed binding found
  · obtain ⟨plain, worded, honours, ledger⟩ := balanced.careful strict
    refine ⟨plain, worded, honours, ?_⟩
    rw [queued_withQueue found, ← shared']
    simpa [World.withQueue, isBound] using ledger

/-- A journal that nobody watches may be forgotten. -/
theorem forget (balanced : world.Balanced terms bound held mine) (unwatched : terms.strict = false) (journal : Array Entry) :
    { world with journal }.Balanced terms bound held mine :=
  ⟨balanced.sound.journal _, balanced.unbroken, balanced.heaps, balanced.housed, balanced.tallied, fun strict => by
    rw [unwatched] at strict; cases strict⟩

end Balanced

end World

end CountBridge
