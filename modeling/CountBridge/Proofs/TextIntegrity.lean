import CountBridge.Proofs.Contract
import CountBridge.Proofs.Maintaining

/-! The integrity of text. Whatever bytes a program offers, those of its strings are well
formed, and are read back as they are. Where new errors are given strings only, every object
but malformed bytes is turned into a string, and the caller comes to hold a unit of that. -/

namespace CountBridge

open Bridge

namespace World

structure Hands (before : World) (made : ObjectId) (after : World) : Prop where
  string : after.store.HasString made
  owned : after.turnedOver = false → ∀ held, before.store.Exact held → after.store.Exact ({made} + held)

variable {world : World} {id : ObjectId} {object : Object} {bytes : ByteArray}

theorem hands_shared (found : world.store.find? id = some object) (string : object.isString = true) :
    world.Hands id { world with
      store := world.store.set id object.increment
      turnedOver := if object.increment.count = 0 then true else world.turnedOver } where
  string := ⟨_, Store.find?_set_self found _, string⟩
  owned fits held exact := by
    refine exact.increment found fun wrapped => ?_
    dsimp only at fits
    rw [if_pos wrapped] at fits
    cases fits

theorem hands_born (world : World) (heap : HeapId) (bytes : ByteArray) :
    world.Hands world.store.allocated (world.born heap (.string bytes)) where
  string := ⟨_, by rw [born, Store.find?_allocate, if_pos rfl], rfl⟩
  owned _ held exact := by
    have nothing : (Payload.string bytes).units = 0 := rfl
    exact Store.Exact.allocate (exact.congr (by rw [nothing, zero_add]))

end World

section Reading

variable {α : Type} {world : World} {heap : HeapId} {id : ObjectId} {object : Object} {bytes : ByteArray}

/-- Decoding replaces nothing in what is well formed. -/
theorem toUTF8_decode (valid : bytes.IsValidUTF8) : (Text.decode bytes).toUTF8 = bytes := by
  simp [Text.decode, String.fromUTF8?, valid, String.fromUTF8]

theorem ends_isString (found : world.store.find? id = some object) (plain : world.stubs = {}) :
    ∃ journal, ends (Bound.isString id) world = (.ok object.isString, { world with journal }) := by
  have asked : ends (do
      let object ← objectAt id
      return (← get).stubs.isString.getD object.isString) world = (.ok object.isString, world) := by
    rw [ends_bind_ok (ends_objectAt found), ends_bind_ok (ends_get world), plain]
    rfl
  rw [Bound.isString, ends_after, asked]
  exact ⟨_, rfl⟩

theorem ends_stringBytes (found : world.store.find? id = some object) (shown : object.stringBytes? = some bytes)
    (plain : world.stubs = {}) :
    ∃ journal, ends (Bound.stringBytes id) world = (.ok (some bytes, bytes.size), { world with journal }) := by
  have asked : ends (do
      let bytes := (← objectAt id).stringBytes?
      return (← get).stubs.stringBytes.getD (bytes, (bytes.map ByteArray.size).getD 0)) world =
        (.ok (some bytes, bytes.size), world) := by
    rw [ends_bind_ok (ends_objectAt found), ends_bind_ok (ends_get world), plain, shown]
    rfl
  rw [Bound.stringBytes, ends_after, asked]
  exact ⟨_, rfl⟩

theorem isString_of_shown (shown : object.stringBytes? = some bytes) : object.isString = true := by
  obtain ⟨count, payload⟩ := object
  cases payload <;> first | rfl | cases shown

/-- A string is read without a coercion. -/
theorem ends_extractText_string (found : world.store.find? id = some object) (shown : object.stringBytes? = some bytes)
    (plain : world.stubs = {}) :
    ∃ journal, ends (extractText (some id)) world = (.ok (.ok (Text.decode bytes)), { world with journal }) := by
  obtain ⟨journal, asked⟩ := ends_isString found plain
  have found' : { world with journal }.store.find? id = some object := found
  obtain ⟨journal', read⟩ := ends_stringBytes found' shown plain
  refine ⟨journal', ?_⟩
  rw [extractText, ends_bind_ok asked, isString_of_shown shown, if_pos rfl, copyText, ends_map, ends_bind_ok read]
  rfl

theorem ends_throwMessage (message : String) :
    ends (Native.throwMessage heap message : Bridge α) world =
      if (world.heaps[heap]?.getD {}).booted then
        ends (hostRaise (some (world.born heap (.string message.toUTF8)).store.allocated))
          ((world.born heap (.string message.toUTF8)).born heap (.error (some world.store.allocated)))
      else (.error (.fault .usedBeforeBoot), { world with breached := true }) := by
  have looked : ends (heapAt heap) world = (.ok (world.heaps[heap]?.getD {}), world) := rfl
  have cold : Fault.usedBeforeBoot.isBreach = true := rfl
  rw [Native.throwMessage, ends_bind_ok looked]
  split
  · rfl
  · exact ends_fault_breach cold world

/-- A message is raised as a new error, if that is possible. -/
theorem throwMessage_unwinds (world : World) (heap : HeapId) (message : String) :
    ∃ payload after, ends (Native.throwMessage heap message : Bridge α) world = (.error payload, after) ∧
      (world.CanRaise heap → ∃ err, payload = .native err) ∧ (¬ world.CanRaise heap → ∃ cause, payload = .fault cause) := by
  rw [ends_throwMessage]
  split
  next booted =>
    have same : ((world.born heap (.string message.toUTF8)).born heap (.error (some world.store.allocated))).binding? =
      world.binding? := rfl
    cases found : world.binding? with
    | none =>
      rw [ends_hostRaise_unbound _ (same.trans found)]
      refine ⟨_, _, rfl, fun can => ?_, fun _ => ⟨_, rfl⟩⟩
      rw [World.CanRaise, World.isBound, found] at can
      cases can.2
    | some binding =>
      rw [ends_hostRaise (same.trans found), ends_raise]
      refine ⟨_, _, rfl, fun _ => ⟨_, rfl⟩, fun cannot => absurd ⟨booted, ?_⟩ cannot⟩
      rw [World.isBound, found]
      rfl
  next cold => exact ⟨_, _, rfl, fun can => absurd can.1 cold, fun _ => ⟨_, rfl⟩⟩

theorem toString_string (heap : HeapId) (found : world.store.find? id = some object) (string : object.isString = true) :
    ∃ after, ends (Native.toString heap id) world = (.ok id, after) ∧ world.Hands id after := by
  refine ⟨_, ?_, World.hands_shared found string⟩
  obtain ⟨count, payload⟩ := object
  cases payload with
  | string bytes =>
    rw [Native.toString, ends_bind_ok (ends_objectAt found), ends_bind_ok (ends_increment found)]
    rfl
  | plain | error | bytes | vector => cases string

theorem toString_message {mess : ObjectId} {other : Object} (heap : HeapId) (found : world.store.find? id = some object)
    (message : object.message = some mess) (present : world.store.find? mess = some other) (string : other.isString = true) :
    ∃ after, ends (Native.toString heap id) world = (.ok mess, after) ∧ world.Hands mess after := by
  refine ⟨_, ?_, World.hands_shared present string⟩
  obtain ⟨count, payload⟩ := object
  cases payload with
  | error handle =>
    cases message
    rw [Native.toString, ends_bind_ok (ends_objectAt found), ends_bind_ok (ends_increment present)]
    rfl
  | plain | string | bytes | vector => cases message

/-- Whatever has no string of its own is turned into a new one. -/
theorem toString_born (heap : HeapId) (found : world.store.find? id = some object) (readable : object.isReadable = true)
    (string : object.isString = false) (message : object.message = none) :
    ∃ after, ends (Native.toString heap id) world = (.ok world.store.allocated, after) ∧
      world.Hands world.store.allocated after := by
  suffices made : ∃ bytes, ends (Native.toString heap id) world = (.ok world.store.allocated, world.born heap (.string bytes)) by
    obtain ⟨bytes, ended⟩ := made
    exact ⟨_, ended, world.hands_born heap bytes⟩
  rw [Native.toString, ends_bind_ok (ends_objectAt found)]
  obtain ⟨count, payload⟩ := object
  cases payload with
  | plain name => exact ⟨_, rfl⟩
  | string bytes => cases string
  | error handle =>
    cases message
    exact ⟨_, rfl⟩
  | bytes bytes =>
    refine ⟨bytes, ?_⟩
    have valid : bytes.validateUTF8 = true := readable
    dsimp only
    rw [if_pos valid]
    rfl
  | vector items => exact ⟨_, rfl⟩

theorem toString_malformed (heap : HeapId) (found : world.store.find? id = some object) (unreadable : object.isReadable = false) :
    ends (Native.toString heap id) world = ends (Native.throwMessage heap "Invalid UTF-8") world := by
  rw [Native.toString, ends_bind_ok (ends_objectAt found)]
  obtain ⟨count, payload⟩ := object
  cases payload with
  | bytes bytes =>
    have malformed : ¬ bytes.validateUTF8 = true := Bool.not_eq_true _ ▸ unreadable
    dsimp only
    rw [if_neg malformed]
  | plain | string | error | vector => cases unreadable

/-- An object is turned into a string, its own if it has one, of which a unit is handed over. Malformed
bytes unwind instead, and raise an error if the heap can raise at all. -/
structure World.Coerces (world : World) (heap : HeapId) (id : ObjectId) (object : Object) : Prop where
  hands : object.isReadable = true → ∃ made after, ends (Native.toString heap id) world = (.ok made, after) ∧
    world.Hands made after ∧ (object.isString = true → made = id) ∧ ∀ mess, object.message = some mess → made = mess
  unwinds : object.isReadable = false → ∃ payload after, ends (Native.toString heap id) world = (.error payload, after) ∧
    (world.CanRaise heap → ∃ err, payload = .native err) ∧ (¬ world.CanRaise heap → ∃ cause, payload = .fault cause)

theorem coerces (heap : HeapId) (found : world.store.find? id = some object)
    (phrased : world.store.Phrased) (lives : ∀ mess, object.message = some mess → ∃ other, world.store.find? mess = some other) :
    world.Coerces heap id object := by
  refine ⟨fun readable => ?_, fun unreadable => ?_⟩
  · by_cases string : object.isString = true
    · obtain ⟨after, ended, hands⟩ := toString_string heap found string
      refine ⟨id, after, ended, hands, fun _ => rfl, fun mess message => ?_⟩
      obtain ⟨count, payload⟩ := object
      cases payload <;> first | cases message; done | cases string
    · cases message : object.message with
      | some mess =>
        obtain ⟨other, present⟩ := lives mess message
        obtain ⟨after, ended, hands⟩ :=
          toString_message heap found message present ((phrased id object mess found message).2 other present)
        exact ⟨mess, after, ended, hands, fun is => absurd is string, fun _ same => Option.some.inj same⟩
      | none =>
        obtain ⟨after, ended, hands⟩ := toString_born heap found readable (Bool.not_eq_true _ ▸ string) message
        exact ⟨_, after, ended, hands, fun is => absurd is string, nofun⟩
  · rw [toString_malformed heap found unreadable]
    exact throwMessage_unwinds world heap _

end Reading

namespace Program

variable {α : Type} {program : List (Op α)} {session : Session α} {hand : List Wrapper}

/-- In every state on the way, the bytes of strings are well-formed UTF-8, so strings that the system
shows are read back byte for byte. Where new errors are given strings or null, any object but malformed
bytes is turned into a live string. That asks for the message of an error to live, which it does unless
a condition was broken or a counter turned over. -/
theorem Reached.text_unaltered (origin : Nat) (watched : Bool)
    (reached : Reached program (Session.start α origin watched) session hand) :
    (∀ id object bytes, session.world.store.find? id = some object → object.payload = .string bytes →
      bytes.IsValidUTF8 ∧ (Text.decode bytes).toUTF8 = bytes ∧
        (session.world.stubs = {} → ∃ text after,
          ends (extractText (some id)) session.world = (.ok (.ok text), after) ∧ text.toUTF8 = bytes)) ∧
      (PhrasesErrors program (Session.start α origin watched) → ∀ heap id object,
        session.world.store.find? id = some object →
        (session.world.turnedOver = false ∧ session.world.breached = false ∨
          ∀ mess, object.message = some mess → session.world.store.isLive mess = true) →
        session.world.Coerces heap id object) := by
  have wellFormed : session.world.store.WellFormed :=
    reached.known Store.steady_wellFormed (fun never => absurd never Bool.false_ne_true) Store.wellFormed_empty
  refine ⟨fun id object bytes found string => ?_, fun phrases heap id object found intact => ?_⟩
  · have shown : object.stringBytes? = some bytes := by rw [Object.stringBytes?, string]
    have valid := wellFormed id object bytes found shown
    refine ⟨valid, toUTF8_decode valid, fun plain => ?_⟩
    obtain ⟨journal, read⟩ := ends_extractText_string found shown plain
    exact ⟨_, _, read, toUTF8_decode valid⟩
  · have phrased : session.world.store.Phrased := reached.known Store.steady_phrased (fun _ => phrases) Store.phrased_empty
    refine coerces heap found phrased fun mess message => ?_
    rcases intact with quiet | lives
    · exact (reached.exact (fair_start origin watched) quiet).live_message found message
    · exact Option.isSome_iff_exists.mp (lives mess message)

/-- A text of two bytes, an error that has it for a message, and half of a surrogate pair. -/
def surrogate : List (Op Unit) :=
  [.act (.bootstrap mainHeap {} hookVersion), .act (.newString mainHeap "é".toUTF8 (some "s")),
    .act (.newError mainHeap "s" (some "e")), .act (.newBytes mainHeap ⟨#[0xED, 0xA0, 0x80]⟩ (some "b"))]

theorem phrases_surrogate : PhrasesErrors (surrogate ++ [.act .collect]) (Session.start Unit Address.spacing false) := by
  have heeded : Heeded true (surrogate ++ [.act .collect]) (Session.start Unit Address.spacing false) := by
    refine heeded_after_safe rfl (heeded_after_act ?_ (fun _ => trivial) (heeded_after_act ?_ (fun _ => ?_) (heeded_of_safe rfl _)))
    · exact fun malformed => absurd (valid_toUTF8 "é") (Bool.not_eq_true _ ▸ malformed)
    · exact Session.usable_of_named (some 0) (by cbv)
    · intro id named
      obtain rfl : id = 0 := Option.some.inj (Except.ok.inj (named.symm.trans (by cbv)))
      cbv
  exact fun _ _ _ _ _ begun => (heeded _ _ _ begun).2 rfl

/-- The text is read back, the error is turned into its message, and the half pair raises. -/
theorem Reached.text_unaltered_surrogate :
    ∃ session, Reached (surrogate ++ [.act .collect]) (Session.start Unit Address.spacing false) session [] ∧
      (∃ text after, ends (extractText (some 0)) session.world = (.ok (.ok text), after) ∧ text.toUTF8 = "é".toUTF8) ∧
      (∃ after, ends (Native.toString 0 1) session.world = (.ok 0, after) ∧ session.world.Hands 0 after) ∧
      ∃ err after, ends (Native.toString 0 2) session.world = (.error (.native err), after) := by
  rcases made : ends (runEach surrogate) (Session.start Unit Address.spacing false) with ⟨outcome, session⟩
  have shown : let ended := ends (runEach surrogate) (Session.start Unit Address.spacing false)
      (ended.1, ended.2.world.turnedOver, ended.2.world.breached, (ended.2.world.heaps[0]?.getD ({} : Heap)).booted,
        ended.2.world.isBound, ended.2.world.stubs) = (.ok (), false, false, true, true, {}) := by cbv
  have objects : let ended := ends (runEach surrogate) (Session.start Unit Address.spacing false)
      [0, 1, 2].map (fun id => (ended.2.world.store.find? id).map (·.payload)) =
        [some (.string "é".toUTF8), some (.error (some 0)), some (.bytes ⟨#[0xED, 0xA0, 0x80]⟩)] := by cbv
  simp only [made, Prod.mk.injEq, List.map_cons, List.map_nil, List.cons.injEq, and_true, Option.map_eq_some_iff] at shown objects
  obtain ⟨rfl, fits, lawful, booted, bound, stubs⟩ := shown
  obtain ⟨⟨text, found, string⟩, ⟨err, present, error⟩, half, there, bytes⟩ := objects
  have reached : Reached (surrogate ++ [.act .collect]) (Session.start Unit Address.spacing false) session [] :=
    .begins (.top (.of_runEach made))
  obtain ⟨strings, coerces⟩ := reached.text_unaltered Address.spacing false
  refine ⟨session, reached, (strings 0 text _ found string).2.2 stubs, ?_, ?_⟩
  · obtain ⟨made, after, ended, hands, -, mess⟩ :=
      (coerces phrases_surrogate 0 1 err present (.inl ⟨fits, lawful⟩)).hands (by rw [Object.isReadable, error])
    obtain rfl := mess 0 (by rw [Object.message, error])
    exact ⟨after, ended, hands⟩
  · have malformed : half.isReadable = false := by
      rw [Object.isReadable, bytes]
      decide +kernel
    obtain ⟨payload, after, ended, raises, -⟩ :=
      (coerces phrases_surrogate 0 2 half there (.inl ⟨fits, lawful⟩)).unwinds malformed
    obtain ⟨err, rfl⟩ := raises ⟨booted, bound⟩
    exact ⟨err, after, ended⟩

end Program

end CountBridge
