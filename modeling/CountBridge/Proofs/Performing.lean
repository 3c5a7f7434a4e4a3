import CountBridge.Proofs.Resolving

/-! Every operation without a body keeps the accounts of a program, also when it
unwinds, and of two sessions alongside each other it does the same to both. -/

namespace CountBridge.Program

open Bridge World

variable {α β : Type} {late bound : Bool} {held : Multiset ObjectId} {heap : HeapId}

/-- The bridge does something, and the program goes on. -/
theorem performs_bridge {action : Bridge β} {next : β → Run α (Answer α)} {needs : Multiset ObjectId}
    {agree : β → β → Prop} {gives : β → Multiset ObjectId}
    (keeps : Keeps late bound (Escapes late bound) needs action action agree gives)
    (refl : ∀ value, agree value value)
    (continued : ∀ value value', agree value value' →
      Sim Session.course (Session.Linked late bound (gives value)) (next value) (next value') (Alike late)
        (fun _ _ => Settled late 0) (Flown late)) :
    Performs late bound needs (do next (← lift action)) :=
  (sim_lift_escapes keeps).bind refl continued

theorem performs_bridge_eq {action : Bridge β} {next : β → Run α (Answer α)} {needs : Multiset ObjectId}
    {gives : β → Multiset ObjectId} (keeps : Keeps late bound (Escapes late bound) needs action action Eq gives)
    (continued : ∀ value, Performs late bound (gives value) (next value)) :
    Performs late bound needs (do next (← lift action)) :=
  (sim_lift_escapes keeps).bind_eq continued

theorem performs_alike {answer answer' : Answer α} (alike : Alike late answer answer') :
    Sim Session.course (Session.Linked late bound 0) (pure answer : Run α (Answer α)) (pure answer') (Alike late)
      (fun _ _ => Settled late 0) (Flown late) :=
  .pure alike fun _ _ linked => linked.settled

variable {name handle vector item mess : Name} {keep : Option Name}

theorem performs_openHeap (prompt : late = false) : Performs (α := α) late bound 0 (perform (.openHeap name)) := by
  let change (session : Session α) : Session α :=
    { session with
      heaps := (name, session.world.heaps.size) :: session.heaps
      world := { session.world with heaps := session.world.heaps.push {} } }
  have goes : Onward Session.course (update change) :=
    fun session => .of_store (.refl _) rfl rfl rfl rfl (by simp [ends_update, change])
  have opened : Sim Session.course (Session.Linked late bound 0) (update change) (update change) Eq
      (fun _ _ => Session.Linked late bound 0) (Flown late) := by
    refine ⟨goes, goes, fun s t linked _ _ => ?_⟩
    rw [linked.same prompt]
    refine .value rfl ⟨⟨⟨linked.world.sound.exact, fun binding found => ?_, linked.world.sound.bound⟩, fun _ => rfl, ?_⟩,
      linked.idle, ?_, ?_, rfl, fun _ => rfl, rfl⟩
    · exact booted_push _ _ (linked.world.sound.booted binding found)
    · exact fun behind => absurd (prompt.symm.trans behind) nofun
    · intro other heap found
      have size : (change t).world.heaps.size = t.world.heaps.size + 1 := by simp [change]
      rw [size]
      simp only [change, lookup] at found
      split at found
      · cases found
        exact Nat.lt_succ_self _
      · exact Nat.lt_succ_of_lt (linked.inside other heap found)
    · exact fun behind => absurd (prompt.symm.trans behind) nofun
  exact opened.bind_eq fun _ => performs_answer _

theorem performs_boot : Performs (α := α) late bound 0 (perform (.boot name)) :=
  performs_withHeap fun _ _ _ single => performs_bridge_eq (Native.keeps_boot single) fun _ => performs_answer _

theorem performs_heapInfo : Performs (α := α) late bound 0 (perform (.heapInfo name)) := by
  apply performs_withHeap
  intro late bound heap single
  apply performs_bridge (keeps_heapAt single) (Agree.refl fun _ => ⟨rfl, rfl⟩)
  intro counters counters' agreed
  refine performs_alike ⟨fun never => by rw [agreed.1 never], ?_⟩
  simp only [Answer.blur, agreed.2.1, agreed.2.2]

/-- A new object whose unit the program keeps. -/
theorem performs_allocate {payload : Payload} (owned : payload.units = 0) :
    Performs (α := α) late bound 0 (withHeap name fun heap => do
      keepUnit keep (some (← Native.allocate heap payload))) :=
  performs_withHeap fun _ _ _ single => performs_bridge_eq (Native.keeps_allocate single owned) fun made =>
    performs_keepUnit keep (some made)

theorem performs_newString (bytes : ByteArray) : Performs (α := α) late bound 0 (perform (.newString name bytes keep)) :=
  performs_withHeap fun _ _ _ single => performs_bridge_eq (Native.raises_newString bytes single).escapes fun made =>
    performs_keepUnit keep (some made)

theorem performs_newError : Performs (α := α) late bound 0 (perform (.newError name mess keep)) :=
  performs_withHeap fun _ _ _ single => performs_withHandle fun _ => performs_spending <|
    performs_bridge_eq (Native.keeps_newError _ single) fun made => performs_keepUnit keep (some made)

theorem performs_increment : Performs (α := α) late bound 0 (perform (.increment name handle)) := by
  apply performs_withHeap
  intro late bound heap single
  apply performs_withHandle
  intro handle
  apply performs_bridge_eq (Native.keeps_increment handle)
  intro _
  have gained : Sim Session.course (Session.Linked (α := α) late bound (unitOf handle + 0))
      (update fun session => session.gain handle) (update fun session => session.gain handle) Eq
      (fun _ _ => Session.Linked late bound 0) (Flown late) := sim_gain handle
  rw [add_zero] at gained
  apply gained.bind_eq
  intro _
  cases handle with
  | none => exact performs_answer _
  | some id =>
    apply performs_bridge (keeps_objectAt id) (Agree.refl Object.Alike.refl)
    intro object object' agreed
    exact performs_alike ⟨fun never => by rw [agreed.1 never], rfl⟩

theorem performs_decrement : Performs (α := α) late bound 0 (perform (.decrement name handle)) := by
  refine performs_withHeap fun late bound heap single => performs_withHandle fun handle => performs_spending ?_
  apply performs_bridge (Native.keeps_decrement handle single) Told.refl
  intro left left' told
  exact performs_alike ⟨fun never => by rw [told.1 never], rfl⟩

theorem performs_push : Performs (α := α) late bound 0 (perform (.push name vector item)) := by
  apply performs_withHeap
  intro late bound heap single
  apply performs_withLive
  intro vector
  refine performs_withHandle fun item => performs_spending ?_
  apply performs_bridge_eq (Native.raises_push vector item single).escapes
  intro _
  apply performs_bridge (keeps_objectAt vector) (Agree.refl Object.Alike.refl)
  intro object object' agreed
  rw [agreed.2.itemCount]
  exact performs_answer _

theorem performs_look : Performs (α := α) late bound 0 (perform (.look name handle)) := by
  apply performs_withHeap
  intro late bound heap single
  apply performs_withLive
  intro id
  apply performs_bridge (keeps_objectAt id) (Agree.refl Object.Alike.refl)
  intro object object' agreed
  refine performs_alike ⟨fun never => by rw [agreed.1 never], ?_⟩
  simp only [Answer.blur, show object.payload = object'.payload from agreed.2]

/-- Operations that only look at the session. -/
theorem performs_reading {routine : Run α (Answer α)} (answer : Session α → Answer α)
    (ended : ∀ session, ends routine session = (.ok (answer session), session))
    (alike : ∀ s t, Session.Linked late bound 0 s t → Alike late (answer s) (answer t)) :
    Performs late bound 0 routine := by
  have goes : Onward Session.course routine := by
    intro session
    rw [ended]
    exact World.Continues.refl session.world
  refine ⟨goes, goes, fun s t linked _ _ => ?_⟩
  rw [ended, ended]
  exact .value (alike s t linked) linked.settled

theorem performs_alive : Performs (α := α) late bound 0 (perform (.alive name handle)) := by
  apply performs_withHeap
  intro late bound heap single
  refine performs_reading (fun session => (session.meaning? handle).elim (.refused .noSuchHandle) fun found =>
    .alive (found.any session.world.store.isLive)) (fun session => ?_) fun s t linked => ?_
  · rw [ends_bind_ok (ends_session session)]
    cases session.meaning? handle <;> rfl
  · refine ⟨fun prompt => by rw [linked.same prompt], ?_⟩
    rw [linked.meaning?]
    cases t.meaning? handle <;> rfl

theorem performs_toString : Performs (α := α) late bound 0 (perform (.toString name handle keep)) := by
  apply performs_withHeap
  intro late bound heap single
  apply performs_withLive
  intro id
  apply performs_bridge_eq (Native.raises_toString id single).escapes
  intro made
  apply performs_bridge_eq (keeps_ownText made)
  intro text
  apply (performs_keepUnit keep (some made)).bind Alike.refl
  intro _ _ _
  exact .pure (Alike.refl _) fun _ _ settled => settled

theorem performs_messageOf : Performs (α := α) late bound 0 (perform (.messageOf name handle keep)) := by
  apply performs_withHeap
  intro late bound heap single
  apply performs_withLive
  intro id
  apply performs_bridge (keeps_objectAt id) (Agree.refl Object.Alike.refl)
  intro object object' agreed
  rw [agreed.2.message]
  exact performs_keepHandle keep _

theorem performs_escapes {needs : Multiset ObjectId} {action : Bridge (Answer α)}
    (escapes : Keeps late bound (Escapes late bound) needs action action (Alike late) fun _ => 0) :
    Performs late bound needs (lift action) :=
  (sim_lift_escapes escapes).weaken fun _ _ _ _ _ linked => linked.settled

theorem performs_throwHandle : Performs (α := α) late bound 0 (perform (.throwHandle name handle)) :=
  performs_withHeap fun _ _ _ single => performs_withHandle fun handle => performs_spending <|
    performs_escapes (Native.escapes_throwHandle handle single)

theorem performs_hostRaise : Performs (α := α) late bound 0 (perform (.hostRaise name handle)) :=
  performs_withHeap fun _ _ _ _ => performs_withHandle fun handle => performs_spending <|
    performs_escapes (escapes_hostRaise handle)

theorem performs_throwMessage (message : String) :
    Performs (α := α) late bound 0 (perform (.throwMessage name message)) :=
  performs_withHeap fun _ _ _ single =>
    performs_escapes (Native.raises_throwMessage message single).escapes

theorem performs_bootstrap (config : Config) (version : UInt32) :
    Performs (α := α) late bound 0 (perform (.bootstrap name config version)) := by
  apply sim_withHeap
  intro heap
  have bound : Sim Session.course
      (fun s t => Session.Linked (α := α) late bound 0 s t ∧ heap < t.world.heaps.size ∧ (late = true → heap = 0))
      (lift (bootstrap heap config version)) (lift (bootstrap heap config version)) Eq
      (fun _ _ => Session.Linked late bound 0) (Flown late) := by
    have goes := goes_bootstrap heap config version
    refine ⟨goes_lift goes, goes_lift goes, fun s t ⟨linked, inside, _⟩ quiet quiet' => ?_⟩
    have together := (sim_bootstrap config version).together s.world t.world ⟨linked.world, inside⟩ quiet quiet'
    have onward := goes t.world
    rw [ends_lift, ends_lift]
    generalize ends (bootstrap heap config version) s.world = left at together
    generalize ends (bootstrap heap config version) t.world = right at together onward
    cases together with
    | value same met => exact .value same (linked.moved onward met id)
    | unwind never => exact never.elim
  apply bound.bind_eq
  intro outcome
  cases outcome with
  | ok config => exact performs_answer _
  | error error => exact performs_answer _

theorem performs_current : Performs (α := α) late bound 0 (perform .current) :=
  performs_withBinding fun _ _ _ => performs_answer _

theorem performs_bindingInfo : Performs (α := α) late bound 0 (perform .bindingInfo) :=
  performs_withBinding fun _ _ same => performs_alike ⟨fun never => by rw [same never], rfl⟩

theorem performs_collect : Performs (α := α) late bound 0 (perform .collect) := by
  apply performs_withBinding
  intro _ _ _
  apply performs_bridge keeps_collect Told.refl
  intro count count' told
  exact performs_alike ⟨fun never => by rw [told.1 never], rfl⟩

theorem performs_makeString (text : String) : Performs (α := α) late bound 0 (perform (.makeString text keep)) :=
  performs_withBinding fun _ _ _ => performs_bridge_eq (keeps_newString text) fun made =>
    performs_keepMade keep made fun _ _ _ => rfl

theorem performs_makeError (text : String) : Performs (α := α) late bound 0 (perform (.makeError text keep)) :=
  performs_withBinding fun _ _ _ => performs_bridge_eq (keeps_newError text) fun made =>
    performs_keepMade keep (.ok made) fun _ _ _ => rfl

theorem performs_extract : Performs (α := α) late bound 0 (perform (.extract handle keep)) := by
  apply performs_withHandle
  intro handle
  apply performs_withBinding
  intro _ _ _
  apply performs_bridge_eq (keeps_extractText handle fun _ => rfl)
  intro outcome
  cases outcome with
  | ok text => exact performs_answer _
  | error err =>
    exact (sim_caught keep err fun _ => rfl).bind_eq fun _ => performs_answer _

theorem performs_stub (stubs : Stubs) : Performs (α := α) late bound 0 (perform (.stub stubs)) := by
  let change (session : Session α) : Session α := { session with world := { session.world with stubs } }
  have goes : Onward Session.course (update change) := fun session => .of_store (.refl _) rfl rfl rfl rfl le_rfl
  have stubbed : Sim Session.course (Session.Linked late bound 0) (update change) (update change) Eq
      (fun _ _ => Session.Linked late bound 0) (Flown late) := by
    refine ⟨goes, goes, fun s t linked _ _ => ?_⟩
    have world := linked.world
    refine .value rfl (linked.moved (goes t) ⟨⟨world.sound.exact, world.sound.booted, world.sound.bound⟩, ?_, ?_⟩ id)
    · exact fun prompt => by rw [world.same prompt]
    · intro behind
      have before := world.behind behind
      exact ⟨before.store, before.counted, before.counted', before.binding, rfl, before.origin⟩
  exact stubbed.bind_eq fun _ => performs_answer _

/-- Both sessions are watched or neither is. -/
theorem performs_watched (next : Bool → Run α (Answer α)) (each : ∀ watched, Performs late bound held (next watched)) :
    Performs late bound held (do next (← session).watched) := by
  have goes : Onward Session.course (do next (← session).watched) :=
    goes_session.bind fun session => (each session.watched).onward
  have ended (state : Session α) : ends (do next (← session).watched) state = ends (next state.watched) state := rfl
  refine ⟨goes, goes, fun s t linked quiet quiet' => ?_⟩
  rw [ended, linked.watched] at quiet ⊢
  rw [ended] at quiet' ⊢
  exact (each t.watched).together s t linked quiet quiet'

theorem performs_burst (count : Nat) : Performs (α := α) late bound 0 (perform (.burst handle count)) := by
  apply performs_withLive
  intro id
  apply performs_withBinding
  intro _ _ _
  have each (watched : Bool) : Performs (α := α) late true 0 do
      let counts ← burst watched id count
      return .burst counts.1 counts.2 := by
    apply performs_bridge (keeps_burst watched id count) Told.refl
    intro counts counts' told
    exact performs_alike ⟨fun never => by rw [told.1 never], rfl⟩
  exact performs_watched _ each

theorem performs_hammer (threads count : Nat) :
    Performs (α := α) late bound 0 (perform (.hammer handle threads count)) := by
  apply performs_withLive
  intro id
  apply performs_withBinding
  intro _ _ _
  have each (watched : Bool) : Performs (α := α) late true 0 do
      let found ← hammer watched id count threads true
      return .hammered found.1 found.2 := by
    apply performs_bridge (keeps_hammer watched id count threads true).settled fun _ => ⟨fun _ => rfl, rfl⟩
    intro found found' agreed
    refine performs_alike ⟨fun never => by rw [agreed.1 never], ?_⟩
    simp only [Answer.blur, agreed.2]
  exact performs_watched _ each

variable {wrapper : Name} {kind : WrapperKind}

theorem performs_adopt : Performs (α := α) late bound 0 (perform (.adopt kind handle keep)) := by
  refine performs_withHandle fun handle => performs_withBinding fun _ _ _ => performs_spending ?_
  cases handle with
  | none => exact performs_answer _
  | some id => exact performs_keepMade keep (.ok ⟨kind, some id⟩) fun _ _ _ => rfl

theorem performs_ofRaw : Performs (α := α) late bound 0 (perform (.ofRaw kind handle keep)) := by
  refine performs_withHandle fun handle => performs_withBinding fun _ _ _ => performs_spending ?_
  cases handle with
  | none => exact performs_answer _
  | some id =>
    apply performs_bridge_eq (keeps_record fun _ => rfl)
    intro _
    exact (sim_keepWrapper keep ⟨kind, some id⟩ fun _ => rfl).bind_eq fun _ => performs_answer _

theorem performs_retain : Performs (α := α) late bound 0 (perform (.retain handle keep)) :=
  performs_withHandle fun handle => performs_withBinding fun _ _ _ =>
    performs_bridge_eq (Wrapper.keeps_retain .object handle fun _ => rfl) fun made =>
      performs_keepMade keep made fun _ _ _ => rfl

theorem performs_convert : Performs (α := α) late bound 0 (perform (.convert wrapper kind)) := by
  apply performs_taking
  intro bound taken known
  exact (sim_keepWrapper (some wrapper) (taken.convert kind) known).bind_eq fun _ => performs_answer _

theorem performs_intoRaw : Performs (α := α) late bound 0 (perform (.intoRaw wrapper keep)) :=
  performs_taking fun _ taken _ => performs_keepUnit keep taken.handle

theorem performs_handleOf : Performs (α := α) late bound 0 (perform (.handleOf wrapper keep)) :=
  performs_withWrapper fun _ found _ => performs_keepHandle keep found.handle

/-- The wrapper stays where it is without its unit, which is then given back. -/
theorem performs_release : Performs (α := α) late bound 0 (perform (.release wrapper)) := by
  apply performs_withWrapper_found
  intro bound found known
  let change (session : Session α) : Session α :=
    { session with frames := replaceWrapper wrapper found.released session.frames }
  have goes : Onward Session.course (update change) := fun session => World.Continues.refl session.world
  have replaced : Sim Session.course
      (fun s t => Session.Linked (α := α) late bound 0 s t ∧ findWrapper wrapper t.frames = some found) (update change)
      (update change) Eq (fun _ _ => Session.Linked late bound (unitOf found.handle)) (Flown late) := by
    refine ⟨goes, goes, fun s t ⟨linked, present⟩ _ _ => ?_⟩
    have same := contents_replace present found.released
    have units := congrArg unitsIn same
    simp only [unitsIn_add, unitsIn_singleton, Wrapper.released, unitOf_none, zero_add] at units
    refine .value rfl (linked.rebook change (fun _ _ _ => rfl) rfl ?_ fun unknown other member => ?_)
    · simp only [Session.holdings, change, units, Wrapper.released]
      abel
    · have inside : other ∈ {found} + contents (change t).frames := Multiset.mem_add.mpr (.inr member)
      rw [← same, Multiset.mem_add, Multiset.mem_singleton] at inside
      rcases inside with rfl | inside
      · rfl
      · exact linked.idle unknown other inside
  exact replaced.bind_eq fun _ => performs_bridge_eq (found.keeps_release known) fun _ => performs_answer _

theorem performs_clone : Performs (α := α) late bound 0 (perform (.clone wrapper keep)) := by
  apply performs_withWrapper
  intro bound found known
  obtain ⟨kind, handle⟩ := found
  cases handle with
  | none => exact performs_keepMade keep (.ok ⟨kind, none⟩) fun _ same present => by cases same; exact absurd rfl present
  | some id =>
    rw [known (by simp)]
    exact performs_bridge_eq (Wrapper.keeps_clone ⟨kind, some id⟩ fun _ => rfl) fun copy =>
      performs_keepMade keep (.ok copy) fun _ _ _ => rfl

theorem performs_dropWrapper : Performs (α := α) late bound 0 (perform (.dropWrapper wrapper)) :=
  performs_taking fun _ taken known => performs_bridge_eq (taken.keeps_drop known) fun _ => performs_answer _

theorem performs_inspect : Performs (α := α) late bound 0 (perform (.inspect wrapper)) :=
  performs_withWrapper fun _ found _ => performs_bridge_eq (keeps_record fun _ => rfl) fun _ =>
    performs_bridge_eq found.keeps_className fun _ => performs_answer _

theorem performs_text : Performs (α := α) late bound 0 (perform (.text wrapper)) := by
  apply performs_withWrapper
  intro bound found known
  split
  · obtain ⟨kind, handle⟩ := found
    cases handle with
    | none =>
      have read : readTwice ⟨kind, none⟩ = pure (.ok "", "") := by
        unfold readTwice
        split <;> rfl
      rw [read]
      exact performs_answer _
    | some id =>
      rw [known (by simp)]
      apply performs_bridge_eq (keeps_readTwice ⟨kind, some id⟩ fun _ => rfl)
      intro texts
      obtain ⟨first, display⟩ := texts
      cases first with
      | ok text => exact performs_answer _
      | error err =>
        exact (sim_caught none err fun _ => rfl).bind_eq fun _ => performs_answer _
  · exact performs_refuse _

theorem performs_message : Performs (α := α) late bound 0 (perform (.message wrapper)) := by
  apply performs_withWrapper
  intro bound found known
  split
  · exact performs_bridge_eq (found.keeps_message known) fun _ => performs_answer _
  · exact performs_refuse _

theorem performs_compare (first second : Name) : Performs (α := α) late bound 0 (perform (.compare first second)) :=
  performs_withWrapper fun _ _ _ => performs_withWrapper fun _ _ _ => performs_answer _

theorem performs_raise : Performs (α := α) late bound 0 (perform (.raise wrapper)) := by
  apply performs_withWrapper
  intro bound found known
  split
  · apply performs_taking
    intro bound taken known
    have raised : Keeps late bound (Escapes late bound) (unitOf taken.handle) (raise taken : Bridge (Answer α))
        (raise taken) (Alike late) fun _ => 0 := fun held => sim_raise taken known
    exact (sim_lift_escapes raised).weaken fun _ _ _ _ _ linked => linked.settled
  · exact performs_refuse _

/-- A payload of another kind carries no unit. -/
theorem performs_panic {payload : Unwind} (empty : payload.units = 0) (unwrapped : payload.isWrapped = false) :
    Performs (α := α) late bound 0 (throw payload) := by
  refine .throw fun s t linked => ⟨bound, fun wrapped => ?_, ?_⟩
  · rw [unwrapped] at wrapped
    cases wrapped
  · rwa [empty]

/-- Only opening another heap is out of place when one side is behind. -/
theorem performs (action : Action) (single : late = true → ∀ name, action ≠ .openHeap name) :
    Performs (α := α) late bound 0 (perform action) := by
  cases action with
  | openHeap name =>
    refine performs_openHeap ?_
    cases late with
    | false => rfl
    | true => exact absurd rfl (single rfl name)
  | boot => exact performs_boot
  | heapInfo => exact performs_heapInfo
  | newPlain => exact performs_allocate rfl
  | newBytes => exact performs_allocate rfl
  | newVector => exact performs_allocate rfl
  | newString heap bytes => exact performs_newString bytes
  | newError => exact performs_newError
  | increment => exact performs_increment
  | decrement => exact performs_decrement
  | push => exact performs_push
  | look => exact performs_look
  | alive => exact performs_alive
  | toString => exact performs_toString
  | messageOf => exact performs_messageOf
  | throwHandle => exact performs_throwHandle
  | hostRaise => exact performs_hostRaise
  | throwMessage heap message => exact performs_throwMessage message
  | bootstrap heap config version => exact performs_bootstrap config version
  | current => exact performs_current
  | bindingInfo => exact performs_bindingInfo
  | collect => exact performs_collect
  | makeString text => exact performs_makeString text
  | makeError text => exact performs_makeError text
  | extract => exact performs_extract
  | stub stubs => exact performs_stub stubs
  | burst handle count => exact performs_burst count
  | hammer handle threads count => exact performs_hammer threads count
  | adopt => exact performs_adopt
  | ofRaw => exact performs_ofRaw
  | retain => exact performs_retain
  | convert => exact performs_convert
  | intoRaw => exact performs_intoRaw
  | handleOf => exact performs_handleOf
  | release => exact performs_release
  | clone => exact performs_clone
  | dropWrapper => exact performs_dropWrapper
  | inspect => exact performs_inspect
  | text => exact performs_text
  | message => exact performs_message
  | compare first second => exact performs_compare first second
  | raise => exact performs_raise
  | panicText message => exact performs_panic rfl rfl
  | panicNumber value => exact performs_panic rfl rfl

end CountBridge.Program
