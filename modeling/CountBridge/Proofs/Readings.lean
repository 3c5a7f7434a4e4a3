import CountBridge.Proofs.RoundTrip

/-! The text of an error, read in two ways. Either the error itself is turned into text, or
its message is asked for and that is turned into text. Both ways return, but only strings
are read alike: turning an error into text goes no further than to its message. -/

namespace CountBridge

open Bridge World

def Store.Roomy (store : Store) : Prop := ∀ id object, store.find? id = some object → object.increment.count ≠ 0

section Reading

variable {world : World} {held : Multiset ObjectId} {binding : Binding} {id : ObjectId} {object : Object} {text : String}

/-- Only strings have text of their own, and nothing else but errors reads as what a string shows. -/
theorem reading_string (string : object.isString = true) (world : World) : world.reading id object = some object.shown := by
  obtain ⟨count, payload⟩ := object
  cases payload <;> first | rfl | cases string

theorem shown_increment (object : Object) : object.increment.shown = object.shown := rfl

/-- A new object comes with a unit for whoever made it. -/
theorem World.Sound.born {bound : Bool} {payload : Payload} (sound : world.Sound bound (payload.units + held)) (heap : HeapId) :
    (world.born heap payload).Sound bound ({world.store.allocated} + held) where
  exact := by
    have exact : world.store.Exact (payload.units + (world.queued + held)) := sound.exact.congr (add_left_comm _ _ _)
    exact exact.allocate.congr (add_left_comm _ _ _)
  booted binding found := booted_modify _ _ _ _ (fun _ booted => booted) (sound.booted binding found)
  bound := sound.bound

/-- A unit more of a live object is held. -/
theorem World.Sound.shared {bound : Bool} (sound : world.Sound bound held) (roomy : world.store.Roomy)
    (found : world.store.find? id = some object) :
    { world with store := world.store.set id object.increment }.Sound bound ({id} + held) where
  exact := (sound.exact.increment found (roomy id object found)).congr (add_left_comm _ _ _)
  booted := sound.booted
  bound := sound.bound

/-- An object has been turned into text: the caller holds a unit of one that shows it. -/
structure World.Worded (before : World) (held : Multiset ObjectId) (text : String) (made : ObjectId) (after : World) : Prop where
  sound : after.Sound true ({made} + held)
  stubs : after.stubs = before.stubs
  shows : ∃ other, after.store.find? made = some other ∧ other.shown = text

theorem worded_born (sound : world.Sound true held) (heap : HeapId) (bytes : ByteArray) :
    world.Worded held (Text.decode bytes) world.store.allocated (world.born heap (.string bytes)) where
  sound := World.Sound.born (sound.congr (by rw [Payload.units, Payload.slots, unitsOf_nil, zero_add])) heap
  stubs := rfl
  shows := ⟨_, by rw [World.born, Store.find?_allocate, if_pos rfl], rfl⟩

theorem worded_text (sound : world.Sound true held) (heap : HeapId) (text : String) :
    world.Worded held text world.store.allocated (world.born heap (.string text.toUTF8)) := by
  have worded := worded_born sound heap text.toUTF8
  rwa [Text.decode_toUTF8] at worded

theorem ends_increment_roomy (roomy : world.store.Roomy) (found : world.store.find? id = some object) :
    ends (Native.increment (some id)) world = (.ok (), { world with store := world.store.set id object.increment }) := by
  rw [ends_increment found, if_neg (roomy id object found)]

/-- Whatever reads as text is turned into an object that shows it. -/
theorem toString_worded (heap : HeapId) (sound : world.Sound true held) (roomy : world.store.Roomy)
    (found : world.store.find? id = some object) (string : object.isString = false)
    (reads : world.reading id object = some text) :
    ∃ made after, ends (Native.toString heap id) world = (.ok made, after) ∧ world.Worded held text made after := by
  obtain ⟨count, payload⟩ := object
  rw [Native.toString, ends_bind_ok (ends_objectAt found)]
  cases payload with
  | string bytes => cases string
  | error mess =>
    cases mess with
    | none =>
      cases reads
      exact ⟨_, _, rfl, worded_text sound heap ""⟩
    | some mess =>
      have message : Object.message ⟨count, .error (some mess)⟩ = some mess := rfl
      obtain ⟨other, present⟩ := sound.exact.live_message found message
      refine ⟨mess, _, (ends_bind_ok (ends_increment_roomy roomy present)).trans rfl, sound.shared roomy present, rfl, ?_⟩
      refine ⟨_, Store.find?_set_self present _, ?_⟩
      rw [shown_increment]
      simpa [World.reading, Store.shown, present] using reads
  | bytes bytes =>
    simp only [World.reading] at reads
    split at reads
    next valid =>
      cases reads
      refine ⟨_, _, ?_, worded_born sound heap bytes⟩
      dsimp only
      rw [if_pos valid]
      rfl
    next => cases reads
  | vector items =>
    cases reads
    exact ⟨_, _, rfl, worded_text sound heap _⟩
  | plain name =>
    cases reads
    exact ⟨_, _, rfl, worded_text sound heap _⟩

/-- The bytes of a string are copied; anything else shows nothing. -/
theorem ends_copyText (found : world.store.find? id = some object) (plain : world.stubs = {}) :
    ∃ journal, ends (copyText id) world = (.ok object.shown, { world with journal }) := by
  have asked : ends (do
      let bytes := (← objectAt id).stringBytes?
      return (← get).stubs.stringBytes.getD (bytes, (bytes.map ByteArray.size).getD 0)) world =
        (.ok (object.stringBytes?, (object.stringBytes?.map ByteArray.size).getD 0), world) := by
    rw [ends_bind_ok (ends_objectAt found), ends_bind_ok (ends_get world), plain]
    rfl
  rw [copyText, ends_bind, Bound.stringBytes, ends_after, asked]
  dsimp only
  cases shown : object.stringBytes? with
  | none => exact ⟨_, by rw [Object.shown, shown]; rfl⟩
  | some bytes => exact ⟨_, by rw [Object.shown, shown]; rfl⟩

/-- Malformed bytes raise a new error instead. -/
theorem toString_unreadable (sound : world.Sound true held) (bound : world.binding? = some binding)
    (found : world.store.find? id = some object) (unreadable : world.reading id object = none) :
    ∃ after, ends (Native.toString binding.heap id) world =
      (.error (.native ⟨.error, some (world.store.allocated + 1)⟩), after) := by
  have malformed : object.isReadable = false := by
    obtain ⟨count, payload⟩ := object
    cases payload with
    | bytes bytes =>
      simp only [World.reading] at unreadable
      split at unreadable
      next => cases unreadable
      next invalid => exact Bool.eq_false_of_not_eq_true invalid
    | plain | string | error | vector => cases unreadable
  have next : (world.store.allocate (.string "Invalid UTF-8".toUTF8)).2.allocated = world.store.allocated + 1 := by
    simp [Store.allocate, Store.allocated]
  rw [toString_malformed binding.heap found malformed, ends_throwMessage, if_pos (sound.booted binding bound)]
  have still : ((world.born binding.heap (.string "Invalid UTF-8".toUTF8)).born binding.heap
      (.error (some world.store.allocated))).binding? = some binding := bound
  rw [ends_hostRaise still, ends_raise]
  exact ⟨_, by rw [← next]; rfl⟩

/-- What the bound system answers to a coercion is what its heap does. -/
theorem ends_boundToString (bound : world.binding? = some binding) (id : ObjectId) :
    ∃ journal, ends (Bound.toString id) world = ends (do
      let answer ← Native.toString binding.heap id
      Bound.before .bound (.toStringReturned answer) (pure answer)) { world with journal } := by
  let entered : World := { world with journal := world.journal.push (.call (.toString id) (world.meets (.live id))) }
  have heap : ends (Bound.before (.live id) (.toString id) do Native.toString (← Bound.heap) id) world =
      ends (Native.toString binding.heap id) entered := by
    have known : entered.binding? = some binding := bound
    rw [ends_before, Bound.heap, bind_assoc, ends_bind_ok (ends_binding known)]
    rfl
  refine ⟨entered.journal, ?_⟩
  rw [Bound.toString, ends_bind, heap, ends_bind]

/-- Whatever lives is read, or the error is answered that came of trying. -/
theorem ends_extractText_reading (sound : world.Sound true held) (roomy : world.store.Roomy) (plain : world.stubs = {})
    (found : world.store.find? id = some object) :
    ∃ after, ends (extractText (some id)) world = (.ok (match world.reading id object with
      | some text => .ok text
      | none => .error ⟨.error, some (world.store.allocated + 1)⟩), after) := by
  obtain ⟨binding, bound⟩ := sound.exists_binding
  obtain ⟨journal, asked⟩ := ends_isString found plain
  rw [extractText, ends_bind_ok asked]
  cases string : object.isString with
  | true =>
    have there : { world with journal }.store.find? id = some object := found
    obtain ⟨journal', copied⟩ := ends_copyText there plain
    rw [if_pos rfl, ends_map, copied, reading_string string]
    exact ⟨_, rfl⟩
  | false =>
    have known : { world with journal }.binding? = some binding := bound
    obtain ⟨journal', begun⟩ := ends_boundToString known id
    rw [if_neg Bool.false_ne_true]
    cases reads : world.reading id object with
    | some text =>
      obtain ⟨made, after, ended, worded⟩ :=
        toString_worded binding.heap (sound.journal journal') roomy found string reads
      obtain ⟨other, present, shows⟩ := worded.shows
      let answered : World := { after with journal := after.journal.push (.call (.toStringReturned made) (after.meets .bound)) }
      have coerced : ends (trap (Bound.toString id)) { world with journal } = (.ok (.ok made), answered) := by
        rw [trap, ends_bind, ends_outcomeOf, begun, ends_bind_ok ended]
        rfl
      have still : answered.stubs = {} := worded.stubs.trans plain
      have there : answered.store.find? made = some other := present
      obtain ⟨journal'', copied⟩ := ends_copyText there still
      have kept : { answered with journal := journal'' }.Sound true ({made} + held) := worded.sound.journal _
      obtain ⟨_, last, released, -⟩ := returns_releaseHandle kept
      rw [ends_bind_ok coerced]
      dsimp only
      rw [ends_bind_ok copied, ends_bind_ok released, shows]
      exact ⟨_, rfl⟩
    | none =>
      obtain ⟨after, ended⟩ := toString_unreadable (sound.journal journal') bound found reads
      have raised : ends (trap (Bound.toString id)) { world with journal } = (.ok (.error ⟨.error, some (world.store.allocated + 1)⟩),
          { after with journal := after.journal.push (.event (.trapped (some (world.store.allocated + 1)))) }) := by
        rw [trap, ends_bind, ends_outcomeOf, begun, ends_bind_error ended]
        rfl
      rw [ends_bind_ok raised]
      exact ⟨_, rfl⟩

/-- The message is asked for first, and read then. -/
theorem ends_tryMessage_reading (sound : world.Sound true held) (roomy : world.store.Roomy) (plain : world.stubs = {})
    (found : world.store.find? id = some object) (kind : WrapperKind) :
    ∃ after, ends (Wrapper.tryMessage ⟨kind, some id⟩) world = (.ok (match world.readingOf object.message with
      | some text => .ok text
      | none => .error ⟨.error, some (world.store.allocated + 1)⟩), after) := by
  have looked : ends (do return (← objectAt id).message) world = (.ok object.message, world) := by
    rw [ends_bind_ok (ends_objectAt found)]
    rfl
  obtain ⟨journal, asked⟩ : ∃ journal, ends (Bound.messageOf id) world = (.ok object.message, { world with journal }) :=
    ⟨_, by rw [Bound.messageOf, ends_after, looked]⟩
  have begun : ends (Wrapper.tryMessage ⟨kind, some id⟩) world = ends (extractText object.message) { world with journal } :=
    ends_bind_ok asked
  rw [begun]
  cases message : object.message with
  | none => exact ⟨_, rfl⟩
  | some mess =>
    obtain ⟨other, present⟩ := sound.exact.live_message found message
    obtain ⟨after, read⟩ := ends_extractText_reading (sound.journal journal) roomy plain present
    have same : world.readingOf (some mess) = world.reading mess other := by
      rw [World.readingOf, Option.elim_some, present, Option.bind_some]
    rw [same]
    exact ⟨after, read⟩

end Reading

def ReadAlike : Except Wrapper String → Except Wrapper String → Prop
  | .ok first, .ok second => first = second
  | .error _, .error _ => True
  | .ok _, .error _ | .error _, .ok _ => False

theorem shown_of_not_string {object : Object} (string : object.isString = false) : object.shown = "" := by
  obtain ⟨count, payload⟩ := object
  cases payload <;> first | rfl | cases string

theorem readAlike_iff {world : World} {mess : Handle}
    (lives : ∀ id, mess = some id → ∃ object, world.store.find? id = some object) (nested : Wrapper) :
    ReadAlike (.ok (world.store.shown mess)) (match world.readingOf mess with
        | some text => .ok text
        | none => .error nested) ↔
      ∀ id object, mess = some id → world.store.find? id = some object →
        object.isString = true ∨ world.reading id object = some "" := by
  cases mess with
  | none => exact ⟨nofun, fun _ => rfl⟩
  | some id =>
    obtain ⟨object, found⟩ := lives id rfl
    have shown : world.store.shown (some id) = object.shown := by rw [Store.shown, Option.bind_some, found, Option.elim_some]
    have reading : world.readingOf (some id) = world.reading id object := by
      rw [World.readingOf, Option.elim_some, found, Option.bind_some]
    rw [shown, reading]
    cases string : object.isString with
    | true =>
      rw [reading_string string]
      refine ⟨fun _ id' object' same present => ?_, fun _ => rfl⟩
      cases same
      rw [found] at present
      cases present
      exact .inl string
    | false =>
      rw [shown_of_not_string string]
      refine ⟨fun alike id' object' same present => ?_, fun known => ?_⟩
      · cases same
        rw [found] at present
        cases present
        cases reads : world.reading id object with
        | some text => rw [reads] at alike; exact .inr (congrArg some (Eq.symm alike))
        | none => rw [reads] at alike; exact alike.elim
      · rcases known id object rfl found with is | empty
        · rw [string] at is; cases is
        · rw [empty]; rfl

namespace Program

variable {α : Type} {program : List (Op α)} {session : Session α} {hand : List Wrapper} {id : ObjectId} {object : Object}

/-- In whatever state a program comes through, an error that lives is read in both ways without
unwinding. The text of the error itself is what its message shows, which is nothing unless that is
a string; its message reads as what it is turned into, or as the error that came of trying. So the
two are alike for no message, for strings, and for what reads as nothing; whatever else has text is
read as empty by the first way. That asks for a count that can be raised by one. -/
theorem Reached.error_read_alike_iff (origin : Nat) (watched : Bool)
    (reached : Reached program (Session.start α origin watched) session hand) (fits : session.world.turnedOver = false)
    (lawful : session.world.breached = false) (bound : session.world.isBound = true) (plain : session.world.stubs = {})
    (roomy : session.world.store.Roomy) (found : session.world.store.find? id = some object) {mess : Handle}
    (error : object.payload = .error mess) (kind : WrapperKind) :
    ∃ extracted told after after', ends (extractText (some id)) session.world = (.ok extracted, after) ∧
      ends (Wrapper.tryMessage ⟨kind, some id⟩) session.world = (.ok told, after') ∧
      extracted = .ok (session.world.store.shown mess) ∧
      told = (match session.world.readingOf mess with
        | some text => .ok text
        | none => .error ⟨.error, some (session.world.store.allocated + 1)⟩) ∧
      (ReadAlike extracted told ↔ ∀ id' other, mess = some id' → session.world.store.find? id' = some other →
        other.isString = true ∨ session.world.reading id' other = some "") := by
  have sound := reached.sound (fair_start origin watched) ⟨fits, lawful⟩
  rw [bound] at sound
  have message : object.message = mess := by rw [Object.message, error]
  obtain ⟨after, read⟩ := ends_extractText_reading sound roomy plain found
  obtain ⟨after', asked⟩ := ends_tryMessage_reading sound roomy plain found kind
  rw [message] at asked
  rw [World.reading, error] at read
  refine ⟨_, _, after, after', read, asked, rfl, rfl, readAlike_iff (fun id' same => ?_) _⟩
  exact sound.exact.live_message found (message.trans same)

def bytesRaised : List (Op Unit) :=
  [.act (.bootstrap mainHeap {} hookVersion), .act (.newBytes mainHeap "abc".toUTF8 (some "b")),
    .act (.newError mainHeap "b" (some "e"))]

/-- The error reads as empty, although its message reads as the text. -/
theorem Reached.error_read_alike_iff_bytes :
    ∃ session extracted told after after', Reached (bytesRaised ++ [.act .collect]) (Session.start Unit Address.spacing false) session [] ∧
      ends (extractText (some 1)) session.world = (.ok extracted, after) ∧
      ends (Wrapper.tryMessage ⟨.error, some 1⟩) session.world = (.ok told, after') ∧
      extracted = .ok "" ∧ told = .ok "abc" ∧ ¬ ReadAlike extracted told := by
  rcases ran : ends (runEach bytesRaised) (Session.start Unit Address.spacing false) with ⟨outcome, session⟩
  have shown : let ended := ends (runEach bytesRaised) (Session.start Unit Address.spacing false)
      (ended.1, ended.2.world.turnedOver, ended.2.world.breached, ended.2.world.isBound, ended.2.world.stubs,
        ended.2.world.store.places) = (.ok (), false, false, true, {},
          #[some ⟨1, .bytes "abc".toUTF8⟩, some ⟨1, .error (some 0)⟩]) := by cbv
  simp only [ran, Prod.mk.injEq] at shown
  obtain ⟨rfl, fits, lawful, bound, stubs, places⟩ := shown
  have reached : Reached (bytesRaised ++ [.act .collect]) (Session.start Unit Address.spacing false) session [] :=
    .begins (.top (.of_runEach ran))
  have bytes : session.world.store.find? 0 = some ⟨1, .bytes "abc".toUTF8⟩ := by simp [Store.find?, places]
  have error : session.world.store.find? 1 = some ⟨1, .error (some 0)⟩ := by simp [Store.find?, places]
  have roomy : session.world.store.Roomy := by
    intro id object found
    have inside : id < 2 := by simpa [Store.allocated, places] using Store.lt_allocated_of_find? found
    interval_cases id
    · rw [bytes] at found; cases found; decide
    · rw [error] at found; cases found; decide
  obtain ⟨extracted, told, after, after', read, asked, first, second, alike⟩ :=
    reached.error_read_alike_iff Address.spacing false fits lawful bound stubs roomy error rfl .error
  have empty : session.world.store.shown (some 0) = "" := by rw [Store.shown, Option.bind_some, bytes]; rfl
  have text : session.world.reading 0 ⟨1, .bytes "abc".toUTF8⟩ = some "abc" := by
    simp only [World.reading, valid_toUTF8 "abc", if_true, Text.decode_toUTF8]
  rw [World.readingOf, Option.elim_some, bytes, Option.bind_some, text] at second
  refine ⟨session, extracted, told, after, after', reached, read, asked, first.trans (by rw [empty]), second, fun same => ?_⟩
  rcases alike.mp same 0 _ rfl bytes with is | none
  · cases is
  · rw [text] at none
    simp at none

end Program

end CountBridge
