import CountBridge.Proofs.Sparing

/-! Reading leaves things as they are. Whatever an object is turned into so that its text can be read
is given back before the text is answered, and the error that may come of trying is the only thing that
is left. -/

namespace CountBridge

open Bridge World

namespace World

/-- How a coercion ends: a unit of what shows the text is lent to the caller, or the system raises. The unit
that is one too many for a counter is taken without notice. -/
inductive Coerced (before : World) (heap : HeapId) : Except Unwind ObjectId × World → Prop where
  | lent {made unit other after} (few : made ≤ 1) (lent : before.Lent heap made {unit} after)
      (lives : after.store.find? unit = some other) : Coerced before heap (.ok unit, after)
  | full {mess other} (found : before.store.find? mess = some other) (full : other.increment.count = 0) :
      Coerced before heap (.ok mess, { before with store := before.store.set mess other.increment, turnedOver := true })
  | raised {after} (reported : before.Reported heap "Invalid UTF-8" after) :
      Coerced before heap (.error (.native ⟨.error, some (before.store.allocated + 1)⟩), after)

/-- How reading ends. If a text is answered, there is at most one object that came and went. If an error is
answered, that is new, and so is its message. Only if some count is at its limit neither is answered. -/
inductive ReadFrom (before : World) (heap : HeapId) : Except Unwind (Except Wrapper String) × World → Prop where
  | text {text made after} (few : made ≤ 1) (spared : before.Spared heap made after) :
      ReadFrom before heap (.ok (.ok text), after)
  | error {after} (reported : before.Reported heap "Invalid UTF-8" after) :
      ReadFrom before heap (.ok (.error ⟨.error, some (before.store.allocated + 1)⟩), after)
  | full {payload after} (full : ¬ before.store.Roomy) (spared : before.Spared heap 0 after) :
      ReadFrom before heap (.error payload, after)

theorem ReadFrom.of_journal {before : World} {heap : HeapId} {journal : Array Entry}
    {ended : Except Unwind (Except Wrapper String) × World} (read : ReadFrom { before with journal } heap ended) :
    before.ReadFrom heap ended := by
  cases read with
  | text few spared => exact .text few spared.of_journal
  | error reported => exact .error reported.of_journal
  | full full spared => exact .full full spared.of_journal

end World

section Reading

variable {world : World} {held : Multiset ObjectId} {binding : Binding} {heap : HeapId} {id : ObjectId} {object : Object}
  {handle : Handle}

theorem coerced_string (world : World) (heap : HeapId) (bytes : ByteArray) :
    world.Coerced heap (ends (Native.allocate heap (.string bytes)) world) :=
  .lent le_rfl (lent_string world heap bytes) (Store.find?_newborn _ _)

theorem coerced_malformed (sound : world.Sound true held) (bound : world.binding? = some binding) :
    world.Coerced binding.heap (ends (Native.throwMessage binding.heap "Invalid UTF-8" : Bridge ObjectId) world) := by
  have still : (world.reporting binding.heap "Invalid UTF-8").binding? = some binding := bound
  have next : (world.born binding.heap (.string "Invalid UTF-8".toUTF8)).store.allocated = world.store.allocated + 1 :=
    (lent_string world binding.heap _).allocated
  rw [ends_throwMessage, if_pos (sound.booted binding bound), next]
  rw [← reporting, ends_hostRaise still, ends_raise]
  exact .raised ((reported world binding.heap "Invalid UTF-8").journal _)

/-- Every kind of object that has no text of its own. -/
theorem coerced (sound : world.Sound true held) (bound : world.binding? = some binding)
    (found : world.store.find? id = some object) (string : object.isString = false) :
    world.Coerced binding.heap (ends (Native.toString binding.heap id) world) := by
  obtain ⟨count, payload⟩ := object
  rw [Native.toString, ends_bind_ok (ends_objectAt found)]
  cases payload with
  | string bytes => cases string
  | error mess =>
    cases mess with
    | none => exact coerced_string world binding.heap _
    | some mess =>
      have message : Object.message ⟨count, .error (some mess)⟩ = some mess := rfl
      obtain ⟨other, present⟩ := sound.exact.live_message found message
      have taken := ends_increment present
      by_cases fits : other.increment.count = 0
      · rw [if_pos fits] at taken
        rw [ends_bind_ok taken]
        exact .full present fits
      · rw [if_neg fits] at taken
        rw [ends_bind_ok taken]
        exact .lent (Nat.zero_le 1) (lent_share present (sound.exact.positive mess other present) fits binding.heap)
          (Store.find?_set_self present _)
  | bytes bytes =>
    dsimp only
    split
    next valid => exact coerced_string world binding.heap bytes
    next malformed => exact coerced_malformed sound bound
  | vector items =>
    simp only [ends_bind, ends_get, ends_pure]
    exact coerced_string world binding.heap _
  | plain name =>
    simp only [ends_bind, ends_get, ends_pure]
    exact coerced_string world binding.heap _

/-- A unit of what counts none cannot be given back, and the counter turns over once more. -/
theorem ends_releaseHandle_underflow (bound : world.binding? = some binding) (found : world.store.find? id = some object)
    (empty : object.count = 0) :
    ends (releaseHandle id) world =
      (.error (.fault (.misuse (.underflow id))), { world with store := world.store.set id object.decrement }) := by
  have stopped : world.store.giveBack [some id] =
      { store := world.store.set id object.decrement, misuse := some (.underflow id) } := by
    rw [Store.giveBack]
    split
    next missing =>
      rw [found] at missing
      cases missing
    next same =>
      rw [found] at same
      cases same
      rw [if_pos empty]
  have kept (counters : Heap) : counters.destroy 0 = counters := by simp [Heap.destroy]
  have ended := ends_decrement binding.heap found
  rw [stopped] at ended
  simp only [List.length_nil, kept, modify_same] at ended
  have left : ends (Bound.decrement id) world =
      (.error (.fault (.misuse (.underflow id))), { world with store := world.store.set id object.decrement }) := by
    rw [Bound.decrement, ends_after, ends_heap_bind bound, ended]
    rfl
  exact ends_bind_error left

/-- A string is copied that was lent for that. -/
theorem readFrom_lent {middle : World} {made : Nat} {unit : ObjectId} {other : Object} (few : made ≤ 1)
    (lent : world.Lent binding.heap made {unit} middle) (lives : middle.store.find? unit = some other)
    (bound : world.binding? = some binding) (plain : world.stubs = {}) :
    world.ReadFrom binding.heap (ends (do
      let text ← copyText unit
      releaseHandle unit
      pure (Except.ok text)) middle) := by
  obtain ⟨journal, copied⟩ := ends_copyText lives (lent.stubs.trans plain)
  obtain ⟨after, released, spared⟩ := (lent.journal journal).ends_releaseHandle bound
  rw [ends_bind_ok copied, ends_bind_ok released]
  exact .text few spared

/-- A unit too many was taken. Giving it back unwinds, but leaves the count as it was. -/
theorem readFrom_full {mess : ObjectId} {other : Object} (found : world.store.find? mess = some other)
    (full : other.increment.count = 0) (journal : Array Entry) (bound : world.binding? = some binding) (plain : world.stubs = {}) :
    world.ReadFrom binding.heap (ends (do
      let text ← copyText mess
      releaseHandle mess
      pure (Except.ok text)) { world with store := world.store.set mess other.increment, turnedOver := true, journal }) := by
  let middle : World := { world with store := world.store.set mess other.increment, turnedOver := true, journal }
  have present : middle.store.find? mess = some other.increment := Store.find?_set_self found _
  obtain ⟨journal', copied⟩ := ends_copyText present plain
  have copy_bound : { middle with journal := journal' }.binding? = some binding := bound
  have left := ends_releaseHandle_underflow copy_bound present full
  rw [ends_bind_ok copied, ends_bind_error left]
  refine .full (fun roomy => roomy mess other found full) ⟨?_, ?_, (modify_aged_zero world.heaps binding.heap).symm, rfl, rfl, rfl⟩
  · rw [Store.decrement_increment]
    exact Store.matches_set_set found _
  · simp [middle]

theorem extractText_readFrom (sound : world.Sound true held) (bound : world.binding? = some binding) (plain : world.stubs = {})
    (alive : ∀ id, handle = some id → world.store.isLive id = true) :
    world.ReadFrom binding.heap (ends (extractText handle) world) := by
  cases handle with
  | none => exact .text (Nat.zero_le 1) (.nothing binding.heap world)
  | some id =>
    obtain ⟨object, found⟩ := Option.isSome_iff_exists.mp (alive id rfl)
    obtain ⟨journal, asked⟩ := ends_isString found plain
    rw [extractText, ends_bind_ok asked]
    cases string : object.isString with
    | true =>
      have there : { world with journal }.store.find? id = some object := found
      obtain ⟨journal', copied⟩ := ends_copyText there plain
      rw [if_pos rfl, ends_map, copied]
      exact .text (Nat.zero_le 1) ((Spared.nothing binding.heap world).journal _)
    | false =>
      have known : { world with journal }.binding? = some binding := bound
      obtain ⟨journal', begun⟩ := ends_boundToString known id
      have outcome := coerced (sound.journal journal') bound found string
      rw [if_neg Bool.false_ne_true]
      rcases ended : ends (Native.toString binding.heap id) { world with journal := journal' } with ⟨answer, middle⟩
      rw [ended] at outcome
      -- The answer is entered in the journal, and so is the error if that is trapped.
      have answered (unit : ObjectId) (same : answer = .ok unit) : ∃ entries,
          ends (trap (Bound.toString id)) { world with journal } = (.ok (.ok unit), { middle with journal := entries }) := by
        subst same
        rw [trap, ends_bind, ends_outcomeOf, begun, ends_bind_ok ended]
        exact ⟨_, rfl⟩
      have raised (err : Wrapper) (same : answer = .error (.native err)) : ∃ entries,
          ends (trap (Bound.toString id)) { world with journal } = (.ok (.error err), { middle with journal := entries }) := by
        subst same
        rw [trap, ends_bind, ends_outcomeOf, begun, ends_bind_error ended]
        exact ⟨_, rfl⟩
      cases outcome with
      | @lent made unit other _ few lent lives =>
        obtain ⟨entries, trapped⟩ := answered unit rfl
        rw [ends_bind_ok trapped]
        exact (readFrom_lent few (lent.journal entries) lives bound plain).of_journal
      | @full mess other present full =>
        obtain ⟨entries, trapped⟩ := answered mess rfl
        rw [ends_bind_ok trapped]
        exact (readFrom_full present full entries bound plain).of_journal
      | raised reported =>
        obtain ⟨entries, trapped⟩ := raised _ rfl
        rw [ends_bind_ok trapped]
        exact .error (reported.of_journal.journal entries)

theorem tryMessage_readFrom (sound : world.Sound true held) (bound : world.binding? = some binding) (plain : world.stubs = {})
    (alive : ∀ id, handle = some id → world.store.isLive id = true) (kind : WrapperKind) :
    world.ReadFrom binding.heap (ends (Wrapper.tryMessage ⟨kind, handle⟩) world) := by
  cases handle with
  | none => exact .text (Nat.zero_le 1) (.nothing binding.heap world)
  | some id =>
    obtain ⟨object, found⟩ := Option.isSome_iff_exists.mp (alive id rfl)
    have looked : ends (do return (← objectAt id).message) world = (.ok object.message, world) := by
      rw [ends_bind_ok (ends_objectAt found)]
      rfl
    obtain ⟨journal, asked⟩ : ∃ journal, ends (Bound.messageOf id) world = (.ok object.message, { world with journal }) :=
      ⟨_, by rw [Bound.messageOf, ends_after, looked]⟩
    have begun : ends (Wrapper.tryMessage ⟨kind, some id⟩) world = ends (extractText object.message) { world with journal } :=
      ends_bind_ok asked
    rw [begun]
    refine (extractText_readFrom (sound.journal journal) bound plain fun mess message => ?_).of_journal
    exact Option.isSome_iff_exists.mpr (sound.exact.live_message found message)

/-- If the error that reading left behind is dropped, nothing is left of it. -/
theorem undone_swallowed {routine : Bridge (Except Wrapper String)} {next : Except Wrapper String → Bridge String}
    (read : world.ReadFrom binding.heap (ends routine world)) (sound : world.Sound true held)
    (bound : world.binding? = some binding) (kept : ∀ text, next (.ok text) = pure text)
    (dropped : ∀ nested after, ∃ journal,
      ends (next (.error nested)) after = ends (do nested.drop; pure "") { after with journal }) :
    ∃ made ≤ 2, world.Undone binding made (ends (routine >>= next) world).2 := by
  rcases ended : ends routine world with ⟨outcome, after⟩
  rw [ended] at read
  cases read with
  | @text text made _ few spared =>
    rw [ends_bind_ok ended, kept]
    exact ⟨made, few.trans (Nat.le_succ 1), spared.undone bound sound⟩
  | error reported =>
    obtain ⟨journal, dropping⟩ := dropped ⟨.error, some (world.store.allocated + 1)⟩ after
    obtain ⟨last, disposed, undone⟩ := (reported.toLent.journal journal).ends_dispose bound sound
    have swallowed : ends (Wrapper.drop ⟨.error, some (world.store.allocated + 1)⟩) { after with journal } = (.ok (), last) := disposed
    rw [ends_bind_ok ended, dropping, ends_bind_ok swallowed]
    exact ⟨2, le_rfl, undone⟩
  | full full spared =>
    rw [ends_bind_error ended]
    exact ⟨0, Nat.zero_le 2, spared.undone bound sound⟩

theorem message_undone (sound : world.Sound true held) (bound : world.binding? = some binding) (plain : world.stubs = {})
    (alive : ∀ id, handle = some id → world.store.isLive id = true) (kind : WrapperKind) :
    ∃ made ≤ 2, world.Undone binding made (ends (Wrapper.message ⟨kind, handle⟩) world).2 :=
  undone_swallowed (tryMessage_readFrom sound bound plain alive kind) sound bound (fun _ => rfl) fun _ _ => ⟨_, rfl⟩

theorem display_undone (sound : world.Sound true held) (bound : world.binding? = some binding) (plain : world.stubs = {})
    (alive : ∀ id, handle = some id → world.store.isLive id = true) (kind : WrapperKind) :
    ∃ made ≤ 2, world.Undone binding made (ends (Wrapper.display ⟨kind, handle⟩) world).2 :=
  undone_swallowed (extractText_readFrom sound bound plain alive) sound bound (fun _ => rfl) fun _ after => ⟨after.journal, rfl⟩

end Reading

namespace Program

variable {α : Type} {program : List (Op α)} {session : Session α} {hand : List Wrapper} {binding : Binding} {handle : Handle}

/-- In every state on the way and for every handle that is null or live, reading leaves all objects as they
were, and what is queued. If an error is answered, that and its message are new, and releasing or dropping it
undoes this. Routines that answer no errors undo it themselves. Where releases are deferred, things are as
they were once all that is queued has been collected. -/
theorem Reached.reading_undone (origin : Nat) (watched : Bool)
    (reached : Reached program (Session.start α origin watched) session hand) (fits : session.world.turnedOver = false)
    (lawful : session.world.breached = false) (found : session.world.binding? = some binding) (plain : session.world.stubs = {})
    (alive : ∀ id, handle = some id → session.world.store.isLive id = true) (kind : WrapperKind) :
    (∀ reading ∈ [extractText handle, Wrapper.tryMessage ⟨kind, handle⟩],
      session.world.ReadFrom binding.heap (ends reading session.world)) ∧
    (∀ after, session.world.Reported binding.heap "Invalid UTF-8" after →
      (∃ back, ends (Wrapper.release ⟨.error, some (session.world.store.allocated + 1)⟩) after = (.ok true, back) ∧
        session.world.Spared binding.heap 2 back) ∧
      ∃ back, ends (Wrapper.drop ⟨.error, some (session.world.store.allocated + 1)⟩) after = (.ok (), back) ∧
        session.world.Undone binding 2 back) ∧
    ∀ reading ∈ [Wrapper.message ⟨kind, handle⟩, Wrapper.display ⟨kind, handle⟩],
      ∃ made ≤ 2, session.world.Undone binding made (ends reading session.world).2 := by
  have sound := reached.sound (fair_start origin watched) ⟨fits, lawful⟩
  have bound : session.world.isBound = true := by rw [World.isBound, found, Option.isSome_some]
  rw [bound] at sound
  refine ⟨fun reading among => ?_, fun after reported => ⟨?_, ?_⟩, fun reading among => ?_⟩
  · simp only [List.mem_cons, List.not_mem_nil, or_false] at among
    rcases among with rfl | rfl
    · exact extractText_readFrom sound found plain alive
    · exact tryMessage_readFrom sound found plain alive kind
  · obtain ⟨back, released, spared⟩ := reported.ends_releaseHandle found
    exact ⟨back, ends_bind_ok released, spared⟩
  · exact reported.ends_dispose found sound
  · simp only [List.mem_cons, List.not_mem_nil, or_false] at among
    rcases among with rfl | rfl
    · exact message_undone sound found plain alive kind
    · exact display_undone sound found plain alive kind

/-- The message of an error is malformed, and a string waits to be released. -/
def unreadable : List (Op Unit) :=
  [.act (.newBytes mainHeap ⟨#[0xED, 0xA0, 0x80]⟩ (some "b")), .act (.newError mainHeap "b" (some "e")),
    .act (.makeString "a" none)]

/-- The error met while reading the message is dropped, and with it the string leaves the queue. -/
theorem Reached.reading_undone_flushed :
    ∃ session binding, Reached (narrow ++ unreadable ++ [.act .collect]) (Session.start Unit Address.spacing false) session [] ∧
      session.world.binding? = some binding ∧ binding.config.policy = .deferred ∧ binding.queue.items = #[2] ∧
      session.world.ReadFrom binding.heap (ends (Wrapper.tryMessage ⟨.error, some 1⟩) session.world) ∧
      ∃ made ≤ 2, session.world.Undone binding made (ends (Wrapper.message ⟨.error, some 1⟩) session.world).2 := by
  rcases running : ends (runEach (narrow ++ unreadable)) (Session.start Unit Address.spacing false) with ⟨outcome, session⟩
  have ran : let ended := ends (runEach (narrow ++ unreadable)) (Session.start Unit Address.spacing false)
      (ended.1, ended.2.world.turnedOver, ended.2.world.breached, ended.2.world.stubs, ended.2.world.binding?,
        ended.2.world.store.isLive 1) =
        (.ok (), false, false, {}, some ⟨0, { policy := .deferred, flushThreshold := 2, maxTextBytes := 11 }, ⟨#[2]⟩⟩, true) := by cbv
  simp only [running, Prod.mk.injEq] at ran
  obtain ⟨rfl, fits, lawful, stubs, binding, lives⟩ := ran
  have reached : Reached (narrow ++ unreadable ++ [.act .collect]) (Session.start Unit Address.spacing false) session [] :=
    .begins (.top (.of_runEach running))
  have alive (id : ObjectId) (same : some 1 = some id) : session.world.store.isLive id = true := by
    cases same
    exact lives
  obtain ⟨reads, -, swallowed⟩ := Reached.reading_undone Address.spacing false reached fits lawful binding stubs alive .error
  exact ⟨session, _, reached, binding, rfl, rfl, reads _ (by simp), swallowed _ (by simp)⟩

end Program

end CountBridge
