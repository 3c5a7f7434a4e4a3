import CountBridge.Bootstrap
import CountBridge.Program.Perform
import CountBridge.Proofs.Lasting

/-! What is known of the texts in a store. Strings come into being only of well-formed
bytes, and whatever happens to an object afterwards, neither its bytes nor its message
become others. So what all births agree with lasts, whatever is run. -/

namespace CountBridge

open Bridge

namespace Store

/-- An object of this payload may come into being. If `strict`, a new error is given a string. -/
def Accepts (strict : Bool) (store : Store) : Payload → Prop
  | .string bytes => bytes.IsValidUTF8
  | .error (some mess) => strict = true → store.HasString mess
  | .error none | .plain _ | .bytes _ | .vector _ => True

structure Steady (strict : Bool) (fact : Store → Prop) : Prop where
  continues : ∀ {before after : Store}, before.Continues after → after.allocated = before.allocated → fact before → fact after
  allocate : ∀ {store : Store} {payload : Payload}, store.Accepts strict payload → fact store → fact (store.allocate payload).2

def WellFormed (store : Store) : Prop :=
  ∀ id object bytes, store.find? id = some object → object.stringBytes? = some bytes → bytes.IsValidUTF8

/-- The messages of errors are strings, unless they were destroyed. -/
def Phrased (store : Store) : Prop :=
  ∀ id object mess, store.find? id = some object → object.message = some mess →
    mess < store.allocated ∧ ∀ other, store.find? mess = some other → other.isString = true

theorem wellFormed_empty : WellFormed {} := fun id object bytes found => by cases found

theorem phrased_empty : Phrased {} := fun id object mess found => by cases found

theorem steady_wellFormed : Steady false WellFormed where
  continues continues same wellFormed id object bytes found shown := by
    obtain ⟨earlier, present, becomes⟩ := continues.payload id object (same ▸ lt_allocated_of_find? found) found
    rw [Object.stringBytes?_of_becomes becomes] at shown
    exact wellFormed id earlier bytes present shown
  allocate {store payload} accepted wellFormed id object bytes found shown := by
    rw [find?_allocate] at found
    split at found
    · cases found
      cases payload with
      | string bytes => cases shown; exact accepted
      | plain | error | bytes | vector => cases shown
    · exact wellFormed id object bytes found shown

theorem steady_phrased : Steady true Phrased where
  continues {before after} continues same phrased id object mess found message := by
    obtain ⟨earlier, present, becomes⟩ := continues.payload id object (same ▸ lt_allocated_of_find? found) found
    rw [Object.message_of_becomes becomes] at message
    obtain ⟨inside, string⟩ := phrased id earlier mess present message
    refine ⟨same ▸ inside, fun other there => ?_⟩
    obtain ⟨original, was, became⟩ := continues.payload mess other inside there
    exact (isString_of_becomes became).trans (string original was)
  allocate {store payload} accepted phrased id object mess found message := by
    have grown : (store.allocate payload).2.allocated = store.allocated + 1 := by simp [allocated, allocate]
    suffices known : mess < store.allocated ∧ ∀ other, store.find? mess = some other → other.isString = true by
      refine ⟨grown ▸ Nat.lt_succ_of_lt known.1, fun other there => ?_⟩
      rw [find?_allocate_other known.1] at there
      exact known.2 other there
    rw [find?_allocate] at found
    split at found
    · cases found
      cases payload with
      | error handle =>
        cases message
        obtain ⟨string, present, is⟩ := accepted rfl
        refine ⟨lt_allocated_of_find? present, fun other there => ?_⟩
        rw [present] at there
        cases there
        exact is
      | plain | string | bytes | vector => cases message
    · exact phrased id object mess found message

end Store

/-- A fact of worlds that lasts whatever the object system does, if only the heaps on which it does that are
`housed`. -/
structure World.Sturdy (strict : Bool) (housed : HeapId → Prop) (fact : World → Prop) : Prop extends Unspent housed fact where
  allocate : ∀ {world : World} {heap : HeapId} {payload : Payload}, housed heap → world.store.Accepts strict payload →
    fact world → fact (world.born heap payload)
  grow : ∀ {world : World} {vector : ObjectId} {count : UInt32} {items : Array Handle} (item : Handle),
    world.store.find? vector = some ⟨count, .vector items⟩ → fact world →
      fact { world with store := world.store.set vector ⟨count, .vector (items.push item)⟩ }
  boot : ∀ {world : World} (heap : HeapId), fact world →
    fact { world with heaps := world.heaps.modify heap fun counters => { counters with booted := true } }
  bind : ∀ {world : World} {heap : HeapId} (config : Config), housed heap → fact world →
    fact { world with binding? := some { heap, config } }

/-- Besides, the heap that is bound is `housed`. Then the fact lasts whatever the bridge does. -/
structure World.Steady (strict : Bool) (housed : HeapId → Prop) (fact : World → Prop) : Prop extends
    World.Sturdy strict housed fact where
  bound : ∀ {world : World} {binding : Binding}, fact world → world.binding? = some binding → housed binding.heap
  aside : ∀ {before after : World}, fact before → after.store = before.store → after.heaps = before.heaps →
    (∀ binding, after.binding? = some binding → housed binding.heap) → fact after

/-- What is known of the store has nothing to do with heaps. -/
theorem Store.Steady.world {strict : Bool} {fact : Store → Prop} (steady : Store.Steady strict fact) :
    World.Steady strict (fun _ => True) fun world => fact world.store where
  event _ known := known
  ask _ _ _ known := known
  breach known := known
  share _ found known := steady.continues (Store.continues_set found .same) (Store.allocated_set ..) known
  word _ valid known := steady.allocate (ByteArray.validateUTF8_eq_true_iff.mp valid) known
  complain _ string known := steady.allocate (fun _ => string) known
  spend _ _ known := steady.continues (Store.continues_giveBack ..) (Store.allocated_giveBack ..) known
  allocate _ accepted known := steady.allocate accepted known
  grow item found known := by
    refine steady.continues (Store.continues_set found ?_) (Store.allocated_set ..) known
    rw [← Array.append_singleton]
    exact .grown
  boot _ known := known
  bind _ _ known := known
  bound _ _ := trivial
  aside known same _ _ := same ▸ known

section Routines

variable {α β : Type} {strict : Bool} {housed : HeapId → Prop} {fact : World → Prop} {heap : HeapId}

/-- What the bound system makes is the next object. -/
theorem ends_made {binding : Binding} {world : World} (found : world.binding? = some binding) (demand : Demand)
    (call : ObjectId → Call) (payload : Payload) :
    ∃ journal, ends (Bound.after demand call do Native.allocate (← Bound.heap) payload) world =
      (.ok world.store.allocated, { world.born binding.heap payload with journal }) := by
  have made : ends (do Native.allocate (← Bound.heap) payload) world =
      (.ok world.store.allocated, world.born binding.heap payload) := by
    rw [Bound.heap, bind_assoc, ends_bind_ok (ends_binding found)]
    rfl
  rw [ends_after, made]
  exact ⟨_, rfl⟩

theorem ends_newStringUnchecked {binding : Binding} {world : World} (found : world.binding? = some binding) (text : String) :
    ∃ journal, ends (newStringUnchecked text) world =
      (.ok ⟨.text, some world.store.allocated⟩, { world.born binding.heap (.string text.toUTF8) with journal }) := by
  have valid := valid_toUTF8 text
  have whole : Bound.newString text.toUTF8 =
      Bound.after .bound (.newString text.toUTF8.size) (do Native.allocate (← Bound.heap) (.string text.toUTF8)) := by
    simp only [Bound.newString, Native.newString, valid, if_true]
  obtain ⟨journal, made⟩ := ends_made found .bound (.newString text.toUTF8.size) (.string text.toUTF8)
  refine ⟨journal, ?_⟩
  rw [newStringUnchecked, whole, ends_bind_ok made]
  rfl

namespace World.Sturdy

variable (sturdy : World.Sturdy strict housed fact)

include sturdy

theorem unread : Unread housed fact := sturdy.toUnspent.toUnread

theorem nativeBoot (heap : HeapId) : Lasts fact (Native.boot heap) := by
  refine lasts_get.bind fun world => ?_
  split
  · exact sturdy.unread.report _
  · exact fun _ => sturdy.boot heap

theorem bootstrap (within : housed heap) (config : Config) (version : UInt32) : Lasts fact (bootstrap heap config version) := by
  unfold CountBridge.bootstrap
  split
  · exact .pure _
  next checked valid =>
    refine Onward.bind (sturdy.unread.before rfl rfl (.pure _)) fun _ => ?_
    split
    · exact .pure _
    · refine lasts_get.bind fun world => ?_
      split
      · exact .pure _
      · refine Onward.bind (sturdy.unread.before rfl rfl (sturdy.nativeBoot heap)) fun _ => ?_
        refine Onward.bind (fun _ => sturdy.bind checked within) fun _ => (sturdy.unread.report _).bind fun _ => .pure _

theorem allocatePayload (within : housed heap) (payload : Payload) (accepted : ∀ store : Store, store.Accepts strict payload) :
    Lasts fact (Native.allocate heap payload) := fun world => sturdy.allocate within (accepted world.store)

theorem newString (within : housed heap) (bytes : ByteArray) : Lasts fact (Native.newString heap bytes) := by
  rw [Native.newString]
  split
  next valid => exact sturdy.unread.newText within valid
  next => exact sturdy.unread.throwMessage within _

theorem push (within : housed heap) (vector : ObjectId) (item : Handle) : Lasts fact (Native.push heap vector item) := by
  intro world known
  cases found : world.store.find? vector with
  | none =>
    rw [Native.push, ends_bind_error (ends_objectAt_missing found)]
    exact sturdy.breach known
  | some object =>
    rw [Native.push, ends_bind_ok (ends_objectAt found)]
    obtain ⟨count, payload⟩ := object
    have refused : Lasts fact (do let _ ← Native.decrement heap item; Native.throwMessage heap "Not a Vector" : Bridge Unit) :=
      (sturdy.toUnspent.decrement heap within item).bind fun _ => sturdy.unread.throwMessage within _
    cases payload with
    | vector items => exact sturdy.grow item found known
    | plain | string | error | bytes => exact refused world known

theorem throwHandle (heap : HeapId) (err : Handle) : Lasts fact (Native.throwHandle heap err : Bridge α) := by
  refine lasts_get.bind fun world => ?_
  split
  · exact sturdy.unread.hostRaise _
  · exact sturdy.unread.fault _

end World.Sturdy

namespace World.Steady

variable (steady : World.Steady strict housed fact)

include steady

theorem unread : Unread housed fact := steady.toUnspent.toUnread

/-- What is done on the heap that is bound is done on a housed one. -/
theorem onBound {next : HeapId → Bridge α} (each : ∀ heap, housed heap → Lasts fact (next heap)) :
    Lasts fact (Bound.heap >>= next) := lasts_onBound steady.bound each

/-- What is known has nothing to do with the journal, the queue or the stubs. -/
theorem modifies {change : World → World} (store : ∀ world, (change world).store = world.store)
    (heaps : ∀ world, (change world).heaps = world.heaps)
    (bound : ∀ {world binding}, (change world).binding? = some binding → ∃ same, world.binding? = some same ∧ same.heap = binding.heap) :
    Lasts fact (modify change) := by
  intro world known
  refine steady.aside known (store world) (heaps world) fun binding found => ?_
  obtain ⟨same, present, heap⟩ := bound found
  exact heap ▸ steady.bound known present

theorem silent {world : World} (journal : Array Entry) (known : fact world) : fact { world with journal } :=
  steady.aside known rfl rfl fun _ found => steady.bound known found

theorem record (entry : Entry) : Lasts fact (record entry) := fun _ => steady.silent _

theorem modifyQueue (change : Queue ObjectId → Queue ObjectId) : Lasts fact (modifyQueue change) := by
  refine steady.modifies (fun _ => rfl) (fun _ => rfl) fun {world binding} found => ?_
  obtain ⟨same, present, rfl⟩ := Option.map_eq_some_iff.mp found
  exact ⟨same, present, rfl⟩

theorem beforeCall {demand : Demand} {call : Call} {action : Bridge α} (lasts : Lasts fact action) :
    Lasts fact (Bound.before demand call action) :=
  lasts_get.bind fun _ => (steady.record _).bind fun _ => lasts

theorem afterCall {demand : Demand} {call : α → Call} {action : Bridge α} (lasts : Lasts fact action) :
    Lasts fact (Bound.after demand call action) :=
  lasts_get.bind fun _ => lasts.bind fun _ => (steady.record _).bind fun _ => .pure _

theorem unrecorded {action : Bridge α} (lasts : Lasts fact action) : Lasts fact (unrecorded action) :=
  fun world known => steady.silent _ (lasts world known)

theorem boundIncrement (id : ObjectId) : Lasts fact (Bound.increment id) := steady.beforeCall (steady.unread.increment _)

theorem messageOf (id : ObjectId) : Lasts fact (Bound.messageOf id) :=
  steady.afterCall ((steady.unread.objectAt id).bind fun _ => .pure _)

theorem toString (id : ObjectId) : Lasts fact (Bound.toString id) := by
  refine Onward.bind (steady.beforeCall (steady.onBound fun _ within => steady.unread.toString within)) fun answer => ?_
  exact steady.beforeCall (.pure _)

theorem boundNewString (bytes : ByteArray) : Lasts fact (Bound.newString bytes) :=
  steady.afterCall (steady.onBound fun _ within => steady.toSturdy.newString within bytes)

theorem className (id : ObjectId) : Lasts fact (Bound.className id) :=
  steady.beforeCall ((steady.unread.objectAt id).bind fun _ => .pure _)

theorem releaseHandle (id : ObjectId) : Lasts fact (releaseHandle id) := by
  have spent : Lasts fact (Bound.decrement id) :=
    steady.afterCall (steady.onBound fun heap within => steady.toUnspent.decrement heap within (some id))
  exact spent.bind fun _ => steady.record _

theorem releaseAll (ids : List ObjectId) : Lasts fact (releaseAll ids) := by
  induction ids with
  | nil => exact .pure _
  | cons id rest ih => exact (steady.releaseHandle id).bind fun _ => ih

theorem collect : Lasts fact collect := by
  refine steady.unread.binding.bind fun binding => (steady.modifyQueue _).bind fun _ => ?_
  refine (steady.releaseAll _).bind fun _ => ?_
  dsimp only
  split
  · exact (steady.record _).bind fun _ => .pure _
  · exact .pure _

theorem deferRelease (id : ObjectId) : Lasts fact (deferRelease id) := by
  refine (steady.modifyQueue _).bind fun _ => steady.unread.binding.bind fun _ => (steady.record _).bind fun _ => ?_
  refine steady.unread.binding.bind fun binding => ?_
  split
  · exact steady.collect.bind fun _ => .pure _
  · exact .pure _

theorem dispose (id : ObjectId) : Lasts fact (dispose id) := by
  refine steady.unread.binding.bind fun binding => ?_
  split
  · exact steady.releaseHandle id
  · exact steady.deferRelease id

theorem retain (kind : WrapperKind) (handle : Handle) : Lasts fact (Wrapper.retain kind handle) := by
  cases handle with
  | none => exact .pure _
  | some id => exact (steady.boundIncrement id).bind fun _ => .pure _

theorem clone (wrapper : Wrapper) : Lasts fact wrapper.clone := by
  obtain ⟨kind, handle⟩ := wrapper
  cases handle with
  | none => exact .pure _
  | some id => exact (steady.boundIncrement id).bind fun _ => .pure _

theorem release (wrapper : Wrapper) : Lasts fact wrapper.release := by
  obtain ⟨kind, handle⟩ := wrapper
  cases handle with
  | none => exact .pure _
  | some id => exact (steady.releaseHandle id).bind fun _ => .pure _

theorem drop (wrapper : Wrapper) : Lasts fact wrapper.drop := by
  obtain ⟨kind, handle⟩ := wrapper
  cases handle with
  | none => exact .pure _
  | some id => exact steady.dispose id

theorem dropAll (wrappers : List Wrapper) : Lasts fact (Wrapper.dropAll wrappers) := by
  induction wrappers with
  | nil => exact .pure _
  | cons wrapper rest ih => exact (steady.drop wrapper).bind fun _ => ih

theorem wrapperClass (wrapper : Wrapper) : Lasts fact wrapper.className := by
  obtain ⟨kind, handle⟩ := wrapper
  cases handle with
  | none => exact .pure _
  | some id => exact steady.className id

theorem newWrapped (text : String) : Lasts fact (newStringUnchecked text) :=
  (steady.boundNewString _).bind fun _ => .pure _

theorem makeString (text : String) : Lasts fact (CountBridge.newString text) := by
  refine steady.unread.binding.bind fun binding => ?_
  dsimp only
  split
  · exact .pure _
  · exact (steady.newWrapped text).bind fun _ => .pure _

/-- The message of a new error is the string that was made for it. -/
theorem newError (text : String) : Lasts fact (CountBridge.newError text) := by
  intro world known
  cases found : world.binding? with
  | none =>
    have left : ends Bridge.binding world = (.error (.fault .unbound), world) := by
      simp only [Bridge.binding, ends_bind, ends_get, found]
      exact ends_fault_lawful rfl world
    rw [CountBridge.newError, ends_bind_error left]
    exact known
  | some binding =>
    rw [CountBridge.newError, ends_bind_ok (ends_binding found)]
    generalize Text.clamp text binding.config.maxTextBytes.toNat = clamped
    obtain ⟨journal, first⟩ := ends_newStringUnchecked found clamped
    rw [ends_bind_ok first]
    have bound : { world.born binding.heap (.string clamped.toUTF8) with journal }.binding? = some binding := found
    obtain ⟨journal', second⟩ := ends_made bound (.stringOrNull (some world.store.allocated)) (.newError (some world.store.allocated))
      (.error (some world.store.allocated))
    have made : ends (Bound.newError (some world.store.allocated)) _ = _ := second
    rw [ends_bind_ok made]
    have within := steady.bound known found
    have textual : world.store.Accepts strict (.string clamped.toUTF8) := clamped.isValidUTF8
    have string : (world.born binding.heap (.string clamped.toUTF8)).store.HasString world.store.allocated :=
      ⟨_, by rw [World.born, Store.find?_allocate, if_pos rfl], rfl⟩
    have accepted : (world.born binding.heap (.string clamped.toUTF8)).store.Accepts strict (.error (some world.store.allocated)) :=
      fun _ => string
    have once := steady.silent journal (steady.allocate within textual known)
    exact steady.silent journal' (steady.allocate within accepted once)

theorem extractText (handle : Handle) : Lasts fact (extractText handle) := by
  cases handle with
  | none => exact .pure _
  | some id =>
    refine (steady.unread.isString id).bind fun string => ?_
    split
    · exact (steady.unread.copyText id).bind fun _ => .pure _
    · refine (steady.unread.trap (steady.toString id)).bind fun outcome => ?_
      cases outcome with
      | error err => exact .pure _
      | ok coerced => exact (steady.unread.copyText coerced).bind fun _ => (steady.releaseHandle coerced).bind fun _ => .pure _

theorem tryMessage (err : Wrapper) : Lasts fact err.tryMessage := by
  obtain ⟨kind, handle⟩ := err
  cases handle with
  | none => exact .pure _
  | some id => exact (steady.messageOf id).bind fun mess => steady.extractText mess

theorem message (err : Wrapper) : Lasts fact err.message := by
  refine (steady.tryMessage err).bind fun read => ?_
  cases read with
  | ok text => exact .pure _
  | error nested => exact (steady.record _).bind fun _ => (steady.drop nested).bind fun _ => .pure _

theorem display (string : Wrapper) : Lasts fact string.display := by
  refine (steady.extractText string.handle).bind fun read => ?_
  cases read with
  | ok text => exact .pure _
  | error nested => exact (steady.drop nested).bind fun _ => .pure _

end World.Steady

namespace Program

theorem lasts_countOf (id : ObjectId) : Lasts fact (countOf id) := lasts_get.bind fun _ => .pure _

theorem lasts_ownText (id : ObjectId) : Lasts fact (ownText id) := lasts_get.bind fun _ => .pure _

variable (steady : World.Steady strict housed fact) (watched : Bool) (id : ObjectId) (count : Nat)

include steady

theorem lasts_repetition {action : Bridge β} (lasts : Lasts fact action) : Lasts fact (repetition watched action) := by
  rw [repetition]
  split
  · exact lasts
  · exact steady.unrecorded lasts

theorem lasts_repeatedly {action : Bridge Unit} (lasts : Lasts fact action) : Lasts fact (repeatedly watched count action) := by
  induction count with
  | zero => exact .pure _
  | succ count ih => exact (lasts_repetition steady watched lasts).bind fun _ => ih

theorem lasts_burst : Lasts fact (burst watched id count) := by
  have gain : Lasts fact (do let _ ← Wrapper.retain .object (some id) : Bridge Unit) :=
    (steady.retain _ _).bind fun _ => .pure _
  refine (lasts_repeatedly steady watched count gain).bind fun _ => (lasts_countOf id).bind fun _ => ?_
  exact (lasts_repeatedly steady watched count (steady.drop _)).bind fun _ => (lasts_countOf id).bind fun _ => .pure _

theorem lasts_cloneRepeatedly (wrapper : Wrapper) (equal : Bool) :
    Lasts fact (cloneRepeatedly watched wrapper count equal) := by
  induction count generalizing equal with
  | zero => exact .pure _
  | succ count ih => exact (lasts_repetition steady watched (steady.clone wrapper)).bind fun _ => ih _

theorem lasts_hammer (threads : Nat) (equal : Bool) : Lasts fact (hammer watched id count threads equal) := by
  induction threads generalizing equal with
  | zero => exact (lasts_countOf id).bind fun _ => .pure _
  | succ threads ih =>
    refine (lasts_repetition steady watched (steady.retain _ _)).bind fun _ => ?_
    refine (lasts_cloneRepeatedly steady watched count _ equal).bind fun _ => ?_
    exact (lasts_repeatedly steady watched _ (steady.drop _)).bind fun _ => ih _

theorem lasts_readTwice (wrapper : Wrapper) : Lasts fact (readTwice wrapper) := by
  unfold readTwice
  split
  · exact (steady.extractText _).bind fun _ => (steady.display wrapper).bind fun _ => .pure _
  · exact (steady.tryMessage wrapper).bind fun _ => (steady.message wrapper).bind fun _ => .pure _

end Program

end Routines

end CountBridge
