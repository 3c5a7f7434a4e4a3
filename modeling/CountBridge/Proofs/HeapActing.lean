import CountBridge.Proofs.Bookkeeping

/-! Operations of the object system by native code keep the books, also when they
unwind. What they ask of their caller is used where a handle is named or where they
may raise; the units that they make, spend and raise are the program's own. -/

namespace CountBridge.Program

open Bridge World

variable {α β : Type} {strict : Bool} {op : String} {heap handle vector item mess wrapper : Name} {keep : Option Name}
  {kind : WrapperKind} {unwound : Unwind → Session α → Prop}

theorem goes_of_keeps {action : Bridge β} (needs : Multiset ObjectId) {agree : β → β → Prop} {gives : β → Multiset ObjectId}
    (keeps : Keeps false true (Escapes false true) needs action action agree gives) : Goes action := (keeps 0).onward

theorem goes_of_settles {action : Bridge β} (needs : Multiset ObjectId) {agree : β → β → Prop} {gives : β → Multiset ObjectId}
    (settles : Settles false true needs action action agree gives) : Goes action := (settles 0).onward

theorem goes_of_raises {action : Bridge β} (needs : Multiset ObjectId) {agree : β → β → Prop} {gives : β → Multiset ObjectId}
    (raises : Raises false true needs action action agree gives) : Goes action := (raises 0).onward

/-- A heap that is named is there. -/
theorem Tidy.heap_inside {session : Session α} {found : HeapId} (tidy : Tidy strict session)
    (named : lookup heap session.heaps = some found) : found < session.world.heaps.size := by
  obtain ⟨bound, -, balanced⟩ := tidy
  exact balanced.inside heap found named

variable {before : Session α → Prop} {last : Answer α → Session α → Prop} {wrapped : Bool} {hand mine : Multiset ObjectId}

/-- The bridge does something that always returns, and the program goes on. -/
theorem upholds_bridge {action : Bridge β} {next : β → Run α (Answer α)} (gives brings : β → Multiset ObjectId) (goes : Goes action)
    (keeping : ∀ session, before session → Keeping strict wrapped 0 hand mine session)
    (each : ∀ session bound, before session → (wrapped = true → bound = true) →
      session.world.Balanced (session.terms strict 0) bound (hand + session.holdings) (mine + unitsIn (contents session.frames)) →
      World.course.quiet' (ends action session.world).2 →
      Met (fun value world => world.Balanced (session.terms strict 0) bound (gives value + session.holdings)
        (brings value + unitsIn (contents session.frames))) Nowhere (ends action session.world))
    (continued : ∀ value, Upholds Session.course (Keeping strict wrapped 0 (gives value) (brings value)) (next value) last unwound) :
    Upholds Session.course before (do next (← lift action)) last unwound :=
  (upholds_lift goes keeping each).bind continued

/-- Native code may raise instead. -/
theorem upholds_bridge_raising {action : Bridge β} {next : β → Run α (Answer α)}
    (gives : β → Multiset ObjectId) (fact : β → World → Prop) (goes : Goes action)
    (keeping : ∀ session, before session → Keeping strict wrapped 0 hand 0 session)
    (each : ∀ session bound, before session → (wrapped = true → bound = true) →
      session.world.Balanced (session.terms strict 0) bound (hand + session.holdings) (0 + unitsIn (contents session.frames)) →
      World.course.quiet' (ends action session.world).2 →
      Met (fun value world => world.Balanced (session.terms strict 0) bound (gives value + session.holdings)
        (0 + unitsIn (contents session.frames)) ∧ fact value world)
        (Aloft (session.terms strict 0) bound session.holdings (0 + unitsIn (contents session.frames))) (ends action session.world))
    (continued : ∀ value, Upholds Session.course
      (fun session => Keeping strict wrapped 0 (gives value) 0 session ∧ fact value session.world) (next value) last (Adrift strict)) :
    Upholds Session.course before (do next (← lift action)) last (Adrift strict) :=
  (upholds_lift_raising gives fact goes keeping each).bind continued

def Session.withNewHeap (session : Session α) (name : Name) : Session α :=
  { session with
    heaps := (name, session.world.heaps.size) :: session.heaps
    world := { session.world with heaps := session.world.heaps.push {} } }

theorem Session.size_withNewHeap (session : Session α) (name : Name) :
    (session.withNewHeap name).world.heaps.size = session.world.heaps.size + 1 := by
  simp [withNewHeap]

theorem Session.Balanced.withNewHeap {session : Session α} {bound : Bool} (balanced : session.Balanced strict bound 0 0 0)
    (name : Name) : (session.withNewHeap name).Balanced strict bound 0 0 0 := by
  have world := balanced.world
  refine ⟨⟨?_, world.unbroken, rfl, fun binding found => ?_, world.tallied.push, fun strictly => ?_⟩, balanced.idle,
    fun other heap found => ?_, balanced.watched, balanced.honours, balanced.blameless⟩
  · exact ⟨world.sound.exact, fun binding found => booted_push _ _ (world.sound.booted binding found), world.sound.bound⟩
  · exact (world.housed binding found).trans (session.size_withNewHeap name ▸ Nat.lt_succ_self _)
  · obtain ⟨plain, worded, honours, ledger⟩ := world.careful strictly
    exact ⟨plain, worded, honours, ledger⟩
  · rw [session.size_withNewHeap]
    simp only [Session.withNewHeap, lookup] at found
    split at found
    · cases found
      exact Nat.lt_succ_self _
    · exact Nat.lt_succ_of_lt (balanced.inside other heap found)

theorem upholds_openHeap (name : Name) (inward : Inward op) :
    Upholds (α := Answer α) Session.course (Tidy strict) (perform (.openHeap name)) (Answered strict op) unwound := by
  have opened : Upholds Session.course (Tidy strict) (update fun session : Session α => session.withNewHeap name)
      (fun _ => Tidy strict) unwound := by
    refine ⟨fun session => .of_store (.refl _) rfl rfl rfl rfl (by simp [ends_update, Session.withNewHeap]), ?_⟩
    rintro session ⟨bound, told, balanced⟩ _
    exact ⟨bound, told, balanced.withNewHeap name⟩
  exact opened.bind fun _ => upholds_answer inward (Answer.blameless_of_none rfl)

theorem upholds_boot (inward : Inward op) :
    Upholds (α := Answer α) Session.course (Tidy strict) (perform (.boot heap)) (Answered strict op) unwound := by
  apply upholds_withHeap fun _ tidy => tidy
  intro heap
  refine upholds_bridge 0 0 (goes_of_keeps 0 (Native.keeps_boot nofun)) (fun _ known => known.1) ?_ ?_
  · exact fun session _ _ _ balanced quiet => Native.upholds_boot.met session.world balanced quiet
  · exact fun _ => upholds_answer inward (Answer.blameless_of_none rfl)

theorem upholds_heapInfo (inward : Inward op) :
    Upholds (α := Answer α) Session.course (Tidy strict) (perform (.heapInfo heap)) (Answered strict op) unwound := by
  apply upholds_withHeap fun _ tidy => tidy
  intro heap
  refine upholds_bridge 0 0 (goes_of_keeps 0 (keeps_heapAt nofun)) (fun _ known => known.1) ?_ ?_
  · exact fun session _ _ _ balanced quiet => upholds_get.met session.world balanced quiet
  · exact fun _ => upholds_answer inward (Answer.blameless_of_none rfl)

/-- A new object whose unit the program keeps. -/
theorem upholds_allocate (payload : Payload) (inward : Inward op) (owns : payload.units = 0)
    (plain : ∀ mess, payload ≠ .error mess) :
    Upholds (α := Answer α) Session.course (Tidy strict) (withHeap heap fun heap => do
      keepUnit keep (some (← Native.allocate heap payload))) (Answered strict op) unwound := by
  apply upholds_withHeap fun _ tidy => tidy
  intro heap
  refine upholds_bridge (fun made => {made}) 0 (Native.goes_allocate heap payload) (fun _ known => known.1) ?_ ?_
  · intro session bound known _ balanced quiet
    have inside : heap < (session.terms strict 0).heaps := known.1.heap_inside known.2
    exact ((Native.upholds_allocate_plain payload inside owns plain).weaken fun _ _ met => met.1).met session.world
      (balanced.congr (zero_add _) rfl) quiet
  · exact fun made => upholds_keepUnit_inward keep (some made) inward

theorem upholds_newString (bytes : ByteArray) (inward : Inward op) :
    Upholds Session.course (fun session : Session α => Tidy strict session ∧ (Action.newString heap bytes keep).Heeds session)
      (perform (.newString heap bytes keep)) (Answered strict op) (Adrift strict) := by
  apply upholds_withHeap fun _ known => known.1
  intro heap
  refine upholds_bridge_raising (fun made => {made}) (fun made world => world.store.HasString made)
    (goes_of_raises 0 (Native.raises_newString bytes nofun)) (fun _ known => known.1.1) ?_ ?_
  · rintro session bound ⟨⟨tidy, heeds⟩, named⟩ _ balanced quiet
    have inside : heap < (session.terms strict 0).heaps := tidy.heap_inside named
    exact ((Native.upholds_newString bytes inside).slacken fun _ _ thrown => thrown.aloft).met session.world
      ⟨balanced.congr (zero_add _) rfl, fun invalid => heeds invalid heap named⟩ quiet
  · exact fun made => (upholds_keepUnit_inward keep (some made) inward).strengthen fun _ met => met.1

theorem hasString_of_isString {world : World} {id : ObjectId} (string : world.isString id = true) : world.store.HasString id := by
  unfold World.isString at string
  cases found : world.store.find? id with
  | none => simp [found] at string
  | some object => exact ⟨object, found, by simpa [found] using string⟩

theorem upholds_newError (inward : Inward op) :
    Upholds Session.course
      (fun session : Session α => Tidy strict session ∧ (Action.newError heap mess keep).Heeds session ∧
        (strict = true → (Action.newError heap mess keep).Plain session))
      (perform (.newError heap mess keep)) (Answered strict op) unwound := by
  apply upholds_withHeap fun _ known => known.1
  intro heap
  apply upholds_withHandle (fun _ known => known.1.1) fun _ known => known.1.2.1
  intro handle
  -- Taking the unit out of the books leaves the world as it is.
  refine upholds_spending (fun world => heap < world.heaps.size ∧ (strict = true → ∀ id, handle = some id → world.store.HasString id))
    (fun _ known => known.1.1.1) ?_ ?_
  · rintro session ⟨⟨⟨tidy, -, plain⟩, named⟩, found⟩
    refine ⟨tidy.heap_inside named, fun strictly id same => ?_⟩
    exact hasString_of_isString (plain strictly id (same ▸ found))
  · refine upholds_bridge (fun made => {made}) 0 (Native.goes_allocate heap (.error handle)) (fun _ known => known.1) ?_ ?_
    · rintro session bound ⟨-, inside, string⟩ _ balanced quiet
      have units : unitOf handle = (Payload.error handle).units := by simp [Payload.units, Payload.slots]
      rw [units] at balanced
      refine ((Native.upholds_allocate inside).weaken fun _ _ met => met.1).met session.world ⟨balanced, fun strictly id same => ?_⟩ quiet
      cases same
      exact string strictly id rfl
    · exact fun made => upholds_keepUnit_inward keep (some made) inward

theorem upholds_increment (inward : Inward op) :
    Upholds Session.course (fun session : Session α => Tidy strict session ∧ (Action.increment heap handle).Heeds session)
      (perform (.increment heap handle)) (Answered strict op) unwound := by
  apply upholds_withHeap fun _ known => known.1
  intro heap
  apply upholds_withHandle (fun _ known => known.1.1) fun _ known => known.1.2
  intro handle
  refine upholds_bridge (fun _ => unitOf handle) 0 (Native.goes_increment handle) (fun _ known => known.1.1.1) ?_ ?_
  · rintro session bound ⟨-, named⟩ _ balanced quiet
    cases handle with
    | none => exact balanced
    | some id =>
      exact (Native.upholds_increment id).met session.world ⟨balanced.congr (zero_add _) rfl, Session.lives_of_named named⟩ quiet
  · intro _
    apply (upholds_gain handle).bind
    intro _
    cases handle with
    | none => exact (upholds_answer inward (Answer.blameless_of_none rfl)).strengthen fun _ known => known.1
    | some id =>
      refine upholds_bridge 0 0 (goes_objectAt id) (fun _ known => known.1) ?_ ?_
      · rintro session bound ⟨-, own⟩ _ balanced quiet
        have lives : session.world.Lives id := balanced.lives (Multiset.mem_add.mpr (.inr (own id rfl)))
        exact (upholds_look id).met session.world ⟨balanced, lives⟩ quiet
      · exact fun _ => upholds_answer inward (Answer.blameless_of_none rfl)

theorem upholds_decrement (inward : Inward op) :
    Upholds Session.course (fun session : Session α => Tidy strict session ∧ (Action.decrement heap handle).Heeds session)
      (perform (.decrement heap handle)) (Answered strict op) unwound := by
  apply upholds_withHeap fun _ known => known.1
  intro heap
  apply upholds_withHandle (fun _ known => known.1.1) fun _ known => known.1.2
  intro handle
  refine upholds_spending (fun world => heap < world.heaps.size) (fun _ known => known.1.1.1)
    (fun _ known => known.1.1.1.heap_inside known.1.2) ?_
  refine upholds_bridge (fun _ => 0) (fun _ => 0) (Native.goes_decrement heap handle) (fun _ known => known.1) ?_ ?_
  · rintro session bound ⟨-, inside⟩ _ balanced quiet
    exact (Native.upholds_decrement handle inside).met session.world (balanced.congr (add_bare _ _) rfl) quiet
  · exact fun _ => upholds_answer inward (Answer.blameless_of_none rfl)

theorem upholds_push (inward : Inward op) :
    Upholds Session.course (fun session : Session α => Tidy strict session ∧ (Action.push heap vector item).Heeds session)
      (perform (.push heap vector item)) (Answered strict op) (Adrift strict) := by
  apply upholds_withHeap fun _ known => known.1
  intro heap
  apply upholds_withLive (fun _ known => known.1.1) fun _ known => known.1.2.1
  intro vector
  apply upholds_withHandle (fun _ known => known.1.1.1) fun _ known => known.1.1.2.2.1
  intro item
  refine upholds_spending (fun world => heap < world.heaps.size ∧
    ∃ object, world.store.find? vector = some object ∧ (object.isVector = false → world.CanRaise heap)) (fun _ known => known.1.1.1.1) ?_ ?_
  · rintro session ⟨⟨⟨⟨tidy, -, -, can⟩, named⟩, found⟩, -⟩
    obtain ⟨object, lives⟩ := Session.lives_of_named found
    exact ⟨tidy.heap_inside named, object, lives, fun other => can object ⟨_, found, lives⟩ other heap named⟩
  · refine upholds_bridge_raising (fun _ => 0) (fun _ world => world.Lives vector) (goes_of_raises _ (Native.raises_push vector item nofun))
      (fun _ known => known.1) ?_ ?_
    · rintro session bound ⟨-, inside, known⟩ _ balanced quiet
      exact ((Native.upholds_push vector item inside).conseq (fun _ known => known)
        (fun _ _ met => ⟨met.1.congr (zero_add _).symm rfl, met.2⟩) fun _ _ thrown => thrown.aloft).met session.world
        ⟨balanced, known⟩ quiet
    · intro _
      refine upholds_bridge 0 0 (goes_objectAt vector) (fun _ known => known.1) ?_ ?_
      · rintro session bound ⟨-, lives⟩ _ balanced quiet
        exact (upholds_look vector).met session.world ⟨balanced, lives⟩ quiet
      · exact fun _ => upholds_answer inward (Answer.blameless_of_none rfl)

theorem upholds_look_at (inward : Inward op) :
    Upholds Session.course (fun session : Session α => Tidy strict session ∧ (Action.look heap handle).Heeds session)
      (perform (.look heap handle)) (Answered strict op) unwound := by
  apply upholds_withHeap fun _ known => known.1
  intro heap
  apply upholds_withLive (fun _ known => known.1.1) fun _ known => known.1.2
  intro id
  refine upholds_bridge 0 0 (goes_objectAt id) (fun _ known => known.1.1.1) ?_ ?_
  · rintro session bound ⟨-, named⟩ _ balanced quiet
    exact (upholds_look id).met session.world ⟨balanced, Session.lives_of_named named⟩ quiet
  · exact fun _ => upholds_answer inward (Answer.blameless_of_none rfl)

/-- Operations that only look at the session. -/
theorem upholds_reading {routine : Run α (Answer α)} (answer : Session α → Answer α) (inward : Inward op)
    (tidy : ∀ session, before session → Tidy strict session) (ended : ∀ session, ends routine session = (.ok (answer session), session))
    (blameless : ∀ session, (answer session).Blameless) : Upholds Session.course before routine (Answered strict op) unwound := by
  refine ⟨fun session => ?_, fun session known _ => ?_⟩
  · rw [ended]
    exact Session.course.refl session
  · rw [ended]
    exact Tidy.answered (tidy session known) inward (blameless session)

theorem upholds_alive (inward : Inward op) :
    Upholds (α := Answer α) Session.course (Tidy strict) (perform (.alive heap handle)) (Answered strict op) unwound := by
  apply upholds_withHeap fun _ tidy => tidy
  intro heap
  refine upholds_reading (fun session => (session.meaning? handle).elim (.refused .noSuchHandle) fun found =>
    .alive (found.any session.world.store.isLive)) inward (fun _ known => known.1) (fun session => ?_) fun session => ?_
  · rw [ends_bind_ok (ends_session session)]
    cases session.meaning? handle <;> rfl
  · cases session.meaning? handle <;> exact Answer.blameless_of_none rfl

theorem upholds_toString (inward : Inward op) :
    Upholds Session.course (fun session : Session α => Tidy strict session ∧ (Action.toString heap handle keep).Heeds session)
      (perform (.toString heap handle keep)) (Answered strict op) (Adrift strict) := by
  apply upholds_withHeap fun _ known => known.1
  intro heap
  apply upholds_withLive (fun _ known => known.1.1) fun _ known => known.1.2.1
  intro id
  refine upholds_bridge_raising (fun made => {made}) (fun made world => strict = true → world.store.HasString made)
    (goes_of_raises 0 (Native.raises_toString id nofun)) (fun _ known => known.1.1.1) ?_ ?_
  · rintro session bound ⟨⟨⟨tidy, -, can⟩, named⟩, found⟩ _ balanced quiet
    have inside : heap < (session.terms strict 0).heaps := tidy.heap_inside named
    obtain ⟨object, lives⟩ := Session.lives_of_named found
    have raises (unreadable : object.isReadable = false) : session.world.CanRaise heap :=
      can object ⟨_, found, lives⟩ unreadable heap named
    exact ((Native.upholds_toString id inside).slacken fun _ _ thrown => thrown.aloft).met session.world
      ⟨balanced.congr (zero_add _) rfl, object, lives, raises⟩ quiet
  · intro made
    refine upholds_bridge (fun _ => {made}) 0 (goes_get.bind fun _ => .pure _) (fun _ known => known.1) ?_ ?_
    · exact fun session _ _ _ balanced quiet => (upholds_ownText made).met session.world balanced quiet
    · intro text
      have kept : Upholds (α := Answer α) Session.course (Keeping strict false 0 {made} 0) (keepUnit keep (some made))
          (Answered strict op) (Adrift strict) := upholds_keepUnit_inward keep (some made) inward
      apply kept.bind
      intro _
      exact .pure fun _ answered => Tidy.answered (answered.tidy inward) inward (Answer.blameless_of_none rfl)

theorem upholds_messageOf (inward : Inward op) :
    Upholds Session.course (fun session : Session α => Tidy strict session ∧ (Action.messageOf heap handle keep).Heeds session)
      (perform (.messageOf heap handle keep)) (Answered strict op) unwound := by
  apply upholds_withHeap fun _ known => known.1
  intro heap
  apply upholds_withLive (fun _ known => known.1.1) fun _ known => known.1.2
  intro id
  refine upholds_bridge 0 0 (goes_objectAt id) (fun _ known => known.1.1.1) ?_ ?_
  · rintro session bound ⟨-, named⟩ _ balanced quiet
    exact (upholds_look id).met session.world ⟨balanced, Session.lives_of_named named⟩ quiet
  · exact fun object => upholds_keepHandle keep object.message inward

/-- What never returns only has to unwind well. -/
theorem upholds_never {action : Bridge (Answer α)} (goes : Goes action)
    (keeping : ∀ session, before session → Keeping strict wrapped 0 hand 0 session)
    (each : ∀ session bound, before session → (wrapped = true → bound = true) →
      session.world.Balanced (session.terms strict 0) bound (hand + session.holdings) (0 + unitsIn (contents session.frames)) →
      World.course.quiet' (ends action session.world).2 →
      Met (fun _ _ => False)
        (Aloft (session.terms strict 0) bound session.holdings (0 + unitsIn (contents session.frames))) (ends action session.world)) :
    Upholds Session.course before (lift action : Run α (Answer α)) last (Adrift strict) := by
  have lifted : Upholds Session.course before (lift action : Run α (Answer α))
      (fun _ session => Keeping strict wrapped 0 0 0 session ∧ False) (Adrift strict) :=
    upholds_lift_raising (fun _ => 0) (fun _ _ => False) goes keeping fun session bound known told balanced quiet =>
      (each session bound known told balanced quiet).conseq (fun _ _ never => never.elim) fun _ _ aloft => aloft
  exact lifted.weaken fun _ _ never => never.2.elim

theorem upholds_throwHandle :
    Upholds Session.course (fun session : Session α => Tidy strict session ∧ (Action.throwHandle heap handle).Heeds session)
      (perform (.throwHandle heap handle)) (Answered strict op) (Adrift strict) := by
  apply upholds_withHeap fun _ known => known.1
  intro heap
  apply upholds_withHandle (fun _ known => known.1.1) fun _ known => known.1.2.1
  intro handle
  refine upholds_spending (fun world => world.CanRaise heap) (fun _ known => known.1.1.1)
    (fun _ known => known.1.1.2.2 heap known.1.2) ?_
  refine upholds_never (Native.goes_throwHandle handle) (fun _ known => known.1) ?_
  rintro session bound ⟨-, can⟩ _ balanced quiet
  exact (Native.upholds_throwHandle handle).met session.world ⟨balanced, can⟩ quiet

theorem upholds_hostRaise :
    Upholds Session.course (fun session : Session α => Tidy strict session ∧ (Action.hostRaise heap handle).Heeds session)
      (perform (.hostRaise heap handle)) (Answered strict op) (Adrift strict) := by
  apply upholds_withHeap fun _ known => known.1
  intro heap
  apply upholds_withHandle (fun _ known => known.1.1) fun _ known => known.1.2.1
  intro handle
  refine upholds_spending (fun world => world.CanRaise heap) (fun _ known => known.1.1.1)
    (fun _ known => known.1.1.2.2 heap known.1.2) ?_
  refine upholds_never (goes_hostRaise handle) (fun _ known => known.1) ?_
  rintro session bound ⟨-, can⟩ _ balanced quiet
  exact (Native.upholds_hostRaise_any handle).met session.world (balanced.upgrade can.2 true) quiet

theorem upholds_throwMessage (message : String) :
    Upholds Session.course (fun session : Session α => Tidy strict session ∧ (Action.throwMessage heap message).Heeds session)
      (perform (.throwMessage heap message)) (Answered strict op) (Adrift strict) := by
  apply upholds_withHeap fun _ known => known.1
  intro heap
  refine upholds_never (Native.goes_throwMessage heap message) (fun _ known => known.1.1) ?_
  rintro session bound ⟨⟨tidy, can⟩, named⟩ _ balanced quiet
  have inside : heap < (session.terms strict 0).heaps := tidy.heap_inside named
  exact ((Native.upholds_throwMessage message inside).slacken fun _ _ thrown => thrown.aloft).met session.world
    ⟨balanced.congr (zero_add _) rfl, can heap named⟩ quiet

end CountBridge.Program
