import CountBridge.Proofs.HeapActing

/-! Every operation without a body keeps the books, also when it unwinds. The units
that the bridge takes in, and those of its wrappers, are its own until it gives them
back or hands them out. -/

namespace CountBridge.Program

open Bridge World

variable {α β : Type} {strict : Bool} {op : String} {heap handle wrapper : Name} {keep : Option Name}
  {kind : WrapperKind} {unwound : Unwind → Session α → Prop} {before : Session α → Prop} {last : Answer α → Session α → Prop}
  {wrapped : Bool} {hand mine : Multiset ObjectId}

theorem upholds_bootstrap_on (config : Config) (version : UInt32) (inward : Inward op) :
    Upholds (α := Answer α) Session.course (Tidy strict) (perform (.bootstrap heap config version)) (Answered strict op)
      unwound := by
  apply upholds_withHeap fun _ tidy => tidy
  intro heap
  refine upholds_bridge 0 0 (goes_bootstrap heap config version) (fun _ known => known.1) ?_ ?_
  · rintro session bound ⟨tidy, named⟩ _ balanced quiet
    have inside : heap < (session.terms strict 0).heaps := tidy.heap_inside named
    exact (upholds_bootstrap inside).met session.world balanced quiet
  · intro outcome
    cases outcome <;> exact upholds_answer inward (Answer.blameless_of_none rfl)

theorem upholds_current (inward : Inward op) :
    Upholds (α := Answer α) Session.course (Tidy strict) (perform .current) (Answered strict op) unwound :=
  upholds_withBinding (fun _ tidy => tidy) fun _ =>
    (upholds_answer inward (Answer.blameless_of_none rfl)).strengthen fun _ known => known.2

theorem upholds_bindingInfo (inward : Inward op) :
    Upholds (α := Answer α) Session.course (Tidy strict) (perform .bindingInfo) (Answered strict op) unwound :=
  upholds_withBinding (fun _ tidy => tidy) fun _ =>
    (upholds_answer inward (Answer.blameless_of_none rfl)).strengthen fun _ known => known.2

theorem upholds_collect_all (inward : Inward op) :
    Upholds (α := Answer α) Session.course (Tidy strict) (perform .collect) (Answered strict op) unwound := by
  apply upholds_withBinding fun _ tidy => tidy
  intro _
  refine upholds_bridge 0 0 goes_collect (fun _ known => known.2) ?_ ?_
  · intro session bound _ told balanced quiet
    obtain rfl := told rfl
    exact upholds_collect.met session.world balanced quiet
  · exact fun _ => upholds_answer inward (Answer.blameless_of_none rfl)

theorem upholds_makeString (text : String) (inward : Inward op) :
    Upholds (α := Answer α) Session.course (Tidy strict) (perform (.makeString text keep)) (Answered strict op) unwound := by
  apply upholds_withBinding fun _ tidy => tidy
  intro _
  refine upholds_bridge Wrapper.madeUnits Wrapper.madeUnits (goes_of_settles 0 (keeps_newString text)) (fun _ known => known.2) ?_ ?_
  · intro session bound _ told balanced quiet
    obtain rfl := told rfl
    exact (CountBridge.upholds_newString text).met session.world (balanced.congr (zero_add _) (zero_add _)) quiet
  · exact fun made => upholds_keepMade keep made inward fun _ _ _ => rfl

theorem upholds_makeError (text : String) (inward : Inward op) :
    Upholds (α := Answer α) Session.course (Tidy strict) (perform (.makeError text keep)) (Answered strict op) unwound := by
  apply upholds_withBinding fun _ tidy => tidy
  intro _
  refine upholds_bridge (fun made => unitOf made.handle) (fun made => unitOf made.handle) (goes_of_settles 0 (keeps_newError text))
    (fun _ known => known.2) ?_ ?_
  · intro session bound _ told balanced quiet
    obtain rfl := told rfl
    exact (CountBridge.upholds_newError text).met session.world (balanced.congr (zero_add _) (zero_add _)) quiet
  · exact fun made => upholds_keepMade keep (.ok made) inward fun _ _ _ => rfl

/-- The error of a failed reading is kept or dropped. -/
theorem upholds_caught_bound (keep : Option Name) (err : Wrapper) :
    Upholds (α := Report) Session.course (Keeping (α := α) strict true 0 (unitOf err.handle) (unitOf err.handle)) (caught keep err)
      (fun _ => Tidy strict) unwound :=
  (upholds_caught keep err).strengthen fun _ ⟨bound, known, balanced⟩ => ⟨bound, fun _ => known rfl, balanced⟩

theorem upholds_extract (inward : Inward op) :
    Upholds Session.course (fun session : Session α => Tidy strict session ∧ (Action.extract handle keep).Heeds session)
      (perform (.extract handle keep)) (Answered strict op) unwound := by
  apply upholds_withHandle (fun _ known => known.1) fun _ known => known.2
  intro handle
  apply upholds_withBinding fun _ known => known.1.1
  intro _
  refine upholds_bridge (trapped fun _ => 0) (trapped fun _ => 0) (goes_of_settles 0 (keeps_extractText handle fun _ => rfl))
    (fun _ known => known.2) ?_ ?_
  · rintro session bound ⟨⟨-, named⟩, -⟩ told balanced quiet
    have lives (id : ObjectId) (same : handle = some id) : session.world.Lives id := Session.lives_of_named (same ▸ named)
    exact (upholds_extractText handle fun _ => told rfl).met session.world ⟨balanced.congr (zero_add _) (zero_add _), lives⟩ quiet
  · intro outcome
    cases outcome with
    | ok text => exact upholds_answer inward (Answer.blameless_of_none rfl)
    | error err =>
      exact (upholds_caught_bound keep err).bind fun _ => upholds_answer inward (Answer.blameless_of_none rfl)

/-- Who answers in place of the system matters only where the calls are watched. -/
theorem upholds_stub (stubs : Stubs) (unwatched : strict = false) (inward : Inward op) :
    Upholds (α := Answer α) Session.course (Tidy strict) (perform (.stub stubs)) (Answered strict op) unwound := by
  have stubbed : Upholds Session.course (Tidy strict)
      (update fun session : Session α => { session with world := { session.world with stubs } }) (fun _ => Tidy strict) unwound := by
    refine ⟨fun session => .of_store (.refl _) rfl rfl rfl rfl le_rfl, ?_⟩
    rintro session ⟨bound, told, balanced⟩ _
    obtain ⟨sound, unbroken, heaps, housed, tallied, -⟩ := balanced.world
    refine ⟨bound, told, balanced.moved ⟨⟨sound.exact, sound.booted, sound.bound⟩, unbroken, heaps, housed, tallied, ?_⟩ id⟩
    intro strictly
    rw [Session.terms, unwatched] at strictly
    cases strictly
  exact stubbed.bind fun _ => upholds_answer inward (Answer.blameless_of_none rfl)

theorem upholds_watched (next : Bool → Run α (Answer α))
    (each : ∀ watched, Upholds Session.course (fun session => before session ∧ session.watched = watched) (next watched) last unwound) :
    Upholds Session.course before (do next (← session).watched) last unwound := by
  have ended (state : Session α) : ends (do next (← session).watched) state = ends (next state.watched) state := rfl
  refine ⟨goes_session.bind fun session => (each session.watched).onward, fun session known quiet => ?_⟩
  rw [ended] at quiet ⊢
  exact (each session.watched).met session ⟨known, rfl⟩ quiet

theorem Keeping.recorded {session : Session α} {taken : Multiset ObjectId} {watched : Bool}
    (keeping : Keeping strict wrapped taken hand mine session) (same : session.watched = watched) :
    (session.terms strict 0).strict = true → watched = true := by
  obtain ⟨bound, -, balanced⟩ := keeping
  exact fun strictly => same.symm.trans (balanced.watched strictly)

theorem upholds_burst_on (count : Nat) (inward : Inward op) :
    Upholds Session.course (fun session : Session α => Tidy strict session ∧ (Action.burst handle count).Heeds session)
      (perform (.burst handle count)) (Answered strict op) unwound := by
  apply upholds_withLive (fun _ known => known.1) fun _ known => known.2
  intro id
  apply upholds_withBinding fun _ known => known.1.1
  intro _
  refine upholds_watched (fun watched => do
    let counts ← burst watched id count
    return .burst counts.1 counts.2) fun watched => ?_
  refine upholds_bridge 0 0 (goes_of_settles 0 (keeps_burst watched id count)) (fun _ known => known.1.2) ?_ ?_
  · rintro session bound ⟨⟨⟨-, named⟩, keeping⟩, same⟩ told balanced quiet
    obtain rfl := told rfl
    exact (upholds_burst (keeping.recorded same) id count).met session.world ⟨balanced, Session.lives_of_named named⟩ quiet
  · exact fun _ => upholds_answer inward (Answer.blameless_of_none rfl)

theorem upholds_hammer_on (threads count : Nat) (inward : Inward op) :
    Upholds Session.course (fun session : Session α => Tidy strict session ∧ (Action.hammer handle threads count).Heeds session)
      (perform (.hammer handle threads count)) (Answered strict op) unwound := by
  apply upholds_withLive (fun _ known => known.1) fun _ known => known.2.1
  intro id
  apply upholds_withBinding fun _ known => known.1.1
  intro _
  refine upholds_watched (fun watched => do
    let found ← hammer watched id count threads true
    return .hammered found.1 found.2) fun watched => ?_
  refine upholds_bridge 0 0 (goes_of_settles 0 (keeps_hammer watched id count threads true)) (fun _ known => known.1.2) ?_ ?_
  · rintro session bound ⟨⟨⟨⟨-, -, outlasts⟩, named⟩, keeping⟩, same⟩ told balanced quiet
    obtain rfl := told rfl
    have lasts : Outlasts watched id count threads session.world := same ▸ outlasts id named
    exact (upholds_hammer (keeping.recorded same) id count threads true).met session.world ⟨balanced, lasts⟩ quiet
  · exact fun _ => upholds_answer inward (Answer.blameless_of_none rfl)

theorem upholds_retain (inward : Inward op) :
    Upholds Session.course (fun session : Session α => Tidy strict session ∧ (Action.retain handle keep).Heeds session)
      (perform (.retain handle keep)) (Answered strict op) unwound := by
  apply upholds_withHandle (fun _ known => known.1) fun _ known => known.2
  intro handle
  apply upholds_withBinding fun _ known => known.1.1
  intro _
  refine upholds_bridge Wrapper.madeUnits Wrapper.madeUnits (goes_of_settles 0 (Wrapper.keeps_retain .object handle fun _ => rfl))
    (fun _ known => known.2) ?_ ?_
  · rintro session bound ⟨⟨-, named⟩, -⟩ told balanced quiet
    obtain rfl := told rfl
    have lives (id : ObjectId) (same : handle = some id) : session.world.Lives id := Session.lives_of_named (same ▸ named)
    exact (Wrapper.upholds_retain .object handle).met session.world ⟨balanced.congr (zero_add _) (zero_add _), lives⟩ quiet
  · exact fun made => upholds_keepMade keep made inward fun _ _ _ => rfl

theorem known_of_isSome {handle : Handle} {bound : Bool} (told : handle.isSome = true → bound = true) (present : handle ≠ none) :
    bound = true :=
  told (Option.isSome_iff_ne_none.mpr present)

theorem upholds_convert (inward : Inward op) :
    Upholds (α := Answer α) Session.course (Tidy strict) (perform (.convert wrapper kind)) (Answered strict op) unwound := by
  apply upholds_taking fun _ tidy => tidy
  intro taken
  have kept : Upholds (α := Unit) Session.course (Having (α := α) strict taken) (keepWrapper (some wrapper) (taken.convert kind))
      (fun _ => Keeping strict taken.handle.isSome 0 0 0) unwound :=
    upholds_keepWrapper (some wrapper) (taken.convert kind) Option.isSome_iff_ne_none.mpr
  exact kept.bind fun _ => upholds_answer inward (Answer.blameless_of_none rfl)

theorem upholds_handleOf (inward : Inward op) :
    Upholds (α := Answer α) Session.course (Tidy strict) (perform (.handleOf wrapper keep)) (Answered strict op) unwound := by
  apply upholds_withWrapper fun _ tidy => tidy
  intro found
  exact (upholds_keepHandle keep found.handle inward).strengthen fun _ known => known.2

/-- A wrapper that is released in its place leaves its unit in hand. -/
theorem Keeping.replace {session : Session α} {found : Wrapper} (present : findWrapper wrapper session.frames = some found)
    (known : Keeping strict found.handle.isSome 0 0 0 session) :
    Having strict found { session with frames := replaceWrapper wrapper found.released session.frames } := by
  obtain ⟨bound, told, balanced⟩ := known
  have same := contents_replace present found.released
  have units := congrArg unitsIn same
  simp only [unitsIn_add, unitsIn_singleton, Wrapper.released, unitOf_none, zero_add] at units
  refine ⟨bound, told, balanced.rebook ?_ ?_ fun unknown other member => ?_⟩
  · simp only [Session.holdings, units, Wrapper.released]
    abel
  · simp only [units, Wrapper.released, zero_add]
  · have inside : other ∈ {found} + contents (replaceWrapper wrapper found.released session.frames) :=
      Multiset.mem_add.mpr (.inr member)
    rw [← same, Multiset.mem_add, Multiset.mem_singleton] at inside
    rcases inside with rfl | inside
    · rfl
    · exact balanced.idle unknown other inside

/-- The wrapper stays where it is without its unit, which is then given back. -/
theorem upholds_release (inward : Inward op) :
    Upholds (α := Answer α) Session.course (Tidy strict) (perform (.release wrapper)) (Answered strict op) unwound := by
  apply upholds_withWrapper fun _ tidy => tidy
  intro found
  have replaced : Upholds Session.course
      (fun session => (Tidy strict session ∧ findWrapper wrapper session.frames = some found) ∧
        Keeping strict found.handle.isSome 0 0 0 session)
      (update fun session : Session α => { session with frames := replaceWrapper wrapper found.released session.frames })
      (fun _ => Having strict found) unwound :=
    ⟨fun session => World.Continues.refl session.world, fun _ known _ => Keeping.replace known.1.2 known.2⟩
  apply replaced.bind
  intro _
  refine upholds_bridge (fun _ => 0) (fun _ => 0) (goes_of_settles _ (found.keeps_release fun _ => rfl)) (fun _ having => having) ?_ ?_
  · intro session bound _ told balanced quiet
    exact (Wrapper.upholds_release (known_of_isSome told)).met session.world (balanced.congr (add_bare _ _) (add_bare _ _)) quiet
  · exact fun _ => upholds_answer inward (Answer.blameless_of_none rfl)

/-- What a wrapper in scope points at lives. -/
theorem mem_hand_of_find {session : Session α} {found : Wrapper} (present : findWrapper wrapper session.frames = some found)
    (id : ObjectId) (same : found.handle = some id) : id ∈ hand + session.holdings :=
  Multiset.mem_add.mpr (.inr (Session.mem_holdings_of_find present same))

theorem upholds_clone (inward : Inward op) :
    Upholds (α := Answer α) Session.course (Tidy strict) (perform (.clone wrapper keep)) (Answered strict op) unwound := by
  apply upholds_withWrapper fun _ tidy => tidy
  intro found
  obtain ⟨kind, handle⟩ := found
  cases handle with
  | none =>
    exact (upholds_keepMade keep (.ok ⟨kind, none⟩) inward fun _ same present => by cases same; exact absurd rfl present).strengthen
      fun _ known => known.2
  | some id =>
    refine upholds_bridge (fun copy => unitOf copy.handle) (fun copy => unitOf copy.handle)
      (goes_of_settles 0 (Wrapper.keeps_clone ⟨kind, some id⟩ fun _ => rfl)) (fun _ known => known.2) ?_ ?_
    · rintro session bound ⟨⟨-, present⟩, -⟩ told balanced quiet
      have own (other : ObjectId) (same : some id = some other) : other ∈ session.holdings := Session.mem_holdings_of_find present same
      exact ((Wrapper.upholds_clone (known_of_isSome told) own).weaken fun _ _ met => met.1).met session.world
        (balanced.congr (zero_add _) (zero_add _)) quiet
    · exact fun copy => upholds_keepMade keep (.ok copy) inward fun _ _ _ => rfl

theorem upholds_dropWrapper (inward : Inward op) :
    Upholds (α := Answer α) Session.course (Tidy strict) (perform (.dropWrapper wrapper)) (Answered strict op) unwound := by
  apply upholds_taking fun _ tidy => tidy
  intro taken
  refine upholds_bridge (fun _ => 0) (fun _ => 0) (goes_of_settles _ (taken.keeps_drop fun _ => rfl)) (fun _ having => having) ?_ ?_
  · intro session bound _ told balanced quiet
    exact (Wrapper.upholds_drop (known_of_isSome told)).met session.world (balanced.congr (add_bare _ _) (add_bare _ _)) quiet
  · exact fun _ => upholds_answer inward (Answer.blameless_of_none rfl)

theorem upholds_inspect (inward : Inward op) :
    Upholds (α := Answer α) Session.course (Tidy strict) (perform (.inspect wrapper)) (Answered strict op) unwound := by
  apply upholds_withWrapper fun _ tidy => tidy
  intro found
  have shown : Upholds (α := Unit) Session.course
      (fun session : Session α => (Tidy strict session ∧ findWrapper wrapper session.frames = some found) ∧
        Keeping strict found.handle.isSome 0 0 0 session) (lift (record (.shown found.handle)))
      (fun _ session => Keeping strict found.handle.isSome 0 0 0 session ∧ findWrapper wrapper session.frames = some found)
      unwound := by
    refine ⟨goes_lift (goes_record _), fun session ⟨⟨_, present⟩, bound, told, balanced⟩ _ => ?_⟩
    exact ⟨⟨bound, told, balanced.moved (balanced.world.note _ rfl) id⟩, present⟩
  apply shown.bind
  intro _
  refine upholds_bridge 0 0 (goes_of_settles 0 found.keeps_className) (fun _ known => known.1) ?_ ?_
  · rintro session bound ⟨-, present⟩ told balanced quiet
    exact (Wrapper.upholds_className (known_of_isSome told) (mem_hand_of_find present)).met session.world balanced quiet
  · exact fun _ => upholds_answer inward (Answer.blameless_of_none rfl)

theorem upholds_text (inward : Inward op) :
    Upholds (α := Answer α) Session.course (Tidy strict) (perform (.text wrapper)) (Answered strict op) unwound := by
  apply upholds_withWrapper fun _ tidy => tidy
  intro found
  split
  · obtain ⟨kind, handle⟩ := found
    cases handle with
    | none =>
      have read : readTwice ⟨kind, none⟩ = pure (.ok "", "") := by
        unfold readTwice
        split <;> rfl
      rw [read]
      exact (upholds_answer inward (Answer.blameless_of_none rfl)).strengthen fun _ known => known.2
    | some id =>
      refine upholds_bridge (fun texts => trapped (fun _ => 0) texts.1) (fun texts => trapped (fun _ => 0) texts.1)
        (goes_of_settles 0 (keeps_readTwice ⟨kind, some id⟩ fun _ => rfl)) (fun _ known => known.2) ?_ ?_
      · rintro session bound ⟨⟨-, present⟩, -⟩ told balanced quiet
        have own (other : ObjectId) (same : some id = some other) : other ∈ session.holdings := Session.mem_holdings_of_find present same
        exact (upholds_readTwice (known_of_isSome told) own).met session.world (balanced.congr (zero_add _) (zero_add _)) quiet
      · rintro ⟨first, display⟩
        cases first with
        | ok text => exact upholds_answer inward (Answer.blameless_of_none rfl)
        | error err =>
          exact (upholds_caught_bound none err).bind fun _ => upholds_answer inward (Answer.blameless_of_none rfl)
  · exact upholds_refuse _ nofun fun _ known => known.1.1

theorem upholds_message (inward : Inward op) :
    Upholds (α := Answer α) Session.course (Tidy strict) (perform (.message wrapper)) (Answered strict op) unwound := by
  apply upholds_withWrapper fun _ tidy => tidy
  intro found
  split
  · refine upholds_bridge 0 0 (goes_of_settles 0 (found.keeps_message fun _ => rfl)) (fun _ known => known.2) ?_ ?_
    · rintro session bound ⟨⟨-, present⟩, -⟩ told balanced quiet
      exact (Wrapper.upholds_message (known_of_isSome told) (mem_hand_of_find present)).met session.world balanced quiet
    · exact fun _ => upholds_answer inward (Answer.blameless_of_none rfl)
  · exact upholds_refuse _ nofun fun _ known => known.1.1

theorem upholds_compare (first second : Name) (inward : Inward op) :
    Upholds (α := Answer α) Session.course (Tidy strict) (perform (.compare first second)) (Answered strict op) unwound :=
  upholds_withWrapper (fun _ tidy => tidy) fun _ => upholds_withWrapper (fun _ known => known.1.1) fun _ =>
    (upholds_answer inward (Answer.blameless_of_none rfl)).strengthen fun _ known => known.2

/-- A payload that carries no unit. -/
theorem upholds_panic (payload : Unwind) (blameless : payload.Blameless) (empty : payload.units = 0)
    (unwrapped : payload.isWrapped = false) :
    Upholds (α := Answer α) Session.course (Tidy strict) (throw payload) last (Adrift strict) := by
  refine .throw fun session tidy => ⟨blameless, ?_⟩
  rw [empty, unwrapped]
  exact tidy

/-- The operation makes a unit of the program the bridge's, or the other way round. -/
def Action.trades : Action → Bool
  | .adopt .. | .ofRaw .. | .intoRaw .. => true
  | _ => false

theorem Action.inward {action : Action} (inward : action.trades = false) : Inward action.name := by
  cases action <;> first | (cases inward; done) | simp [Inward, Action.name, receiving, parting]

/-- A unit that is in hand is the bridge's from then on. -/
theorem Keeping.takeOver {session : Session α} {units : Multiset ObjectId} (keeping : Keeping strict wrapped 0 units 0 session) :
    Keeping strict wrapped units units units session := by
  obtain ⟨bound, told, balanced⟩ := keeping
  exact ⟨bound, told, (balanced.takeOver units).congr rfl (add_zero units)⟩

theorem upholds_adopt :
    Upholds Session.course (fun session : Session α => Tidy strict session ∧ (Action.adopt kind handle keep).Heeds session)
      (perform (.adopt kind handle keep)) (Answered strict "adopt") unwound := by
  apply upholds_withHandle (fun _ known => known.1) fun _ known => known.2
  intro handle
  apply upholds_withBinding fun _ known => known.1.1
  intro _
  refine upholds_spending (fun _ => True) (fun _ known => known.2) (fun _ _ => trivial) ?_
  refine Upholds.strengthen ?_ fun _ known => Keeping.takeOver known.1
  cases handle with
  | none => exact .pure fun _ keeping => Tidy.answered_without keeping.relax rfl (Answer.blameless_of_none rfl)
  | some id =>
    exact (upholds_record rfl).bind fun _ => (upholds_keepWrapper keep ⟨kind, some id⟩ fun _ => rfl).bind fun _ =>
      .pure fun _ keeping => ⟨Answer.blameless_of_none rfl, keeping.relax⟩

theorem upholds_ofRaw :
    Upholds Session.course (fun session : Session α => Tidy strict session ∧ (Action.ofRaw kind handle keep).Heeds session)
      (perform (.ofRaw kind handle keep)) (Answered strict "from_raw") unwound := by
  apply upholds_withHandle (fun _ known => known.1) fun _ known => known.2
  intro handle
  apply upholds_withBinding fun _ known => known.1.1
  intro _
  refine upholds_spending (fun _ => True) (fun _ known => known.2) (fun _ _ => trivial) ?_
  refine Upholds.strengthen ?_ fun _ known => Keeping.takeOver known.1
  cases handle with
  | none => exact .pure fun _ keeping => Tidy.answered_without keeping.relax rfl (Answer.blameless_of_none rfl)
  | some id =>
    exact (upholds_record rfl).bind fun _ => (upholds_keepWrapper keep ⟨kind, some id⟩ fun _ => rfl).bind fun _ =>
      .pure fun _ keeping => ⟨Answer.blameless_of_none rfl, keeping.relax⟩

theorem upholds_intoRaw :
    Upholds (α := Answer α) Session.course (Tidy strict) (perform (.intoRaw wrapper keep)) (Answered strict "into_raw") unwound := by
  apply upholds_taking fun _ tidy => tidy
  intro taken
  have kept : Upholds (α := Answer α) Session.course
      (Keeping strict taken.handle.isSome 0 (unitOf taken.handle) (unitOf (parted "into_raw" (.handle taken.handle : Answer α))))
      (keepUnit keep taken.handle) (Answered strict "into_raw") unwound := upholds_keepUnit keep taken.handle (by decide)
  exact kept

structure Willing (strict : Bool) (action : Action) (session : Session α) : Prop where
  tidy : Tidy strict session
  heeds : action.Heeds session
  plain : strict = true → action.Plain session

/-- Every operation but the raising of a wrapper, of which a step tells otherwise. -/
theorem upholds_perform (action : Action) (others : ∀ name, action ≠ .raise name) :
    Upholds (α := Answer α) Session.course (Willing strict action) (perform action) (Answered strict action.name) (Adrift strict) := by
  have tidy (session : Session α) (willing : Willing strict action session) : Tidy strict session := willing.tidy
  have heeding (session : Session α) (willing : Willing strict action session) :
      Tidy strict session ∧ action.Heeds session := ⟨willing.tidy, willing.heeds⟩
  cases action with
  | openHeap name => exact (upholds_openHeap name (Action.inward rfl)).strengthen tidy
  | boot => exact (upholds_boot (Action.inward rfl)).strengthen tidy
  | heapInfo => exact (upholds_heapInfo (Action.inward rfl)).strengthen tidy
  | newPlain heap className => exact (upholds_allocate (.plain className) (Action.inward rfl) rfl nofun).strengthen tidy
  | newBytes heap bytes => exact (upholds_allocate (.bytes bytes) (Action.inward rfl) rfl nofun).strengthen tidy
  | newVector => exact (upholds_allocate (.vector #[]) (Action.inward rfl) rfl nofun).strengthen tidy
  | newString heap bytes => exact (upholds_newString bytes (Action.inward rfl)).strengthen heeding
  | newError =>
    exact (upholds_newError (Action.inward rfl)).strengthen fun _ willing => ⟨willing.tidy, willing.heeds, willing.plain⟩
  | increment => exact (upholds_increment (Action.inward rfl)).strengthen heeding
  | decrement => exact (upholds_decrement (Action.inward rfl)).strengthen heeding
  | push => exact (upholds_push (Action.inward rfl)).strengthen heeding
  | look => exact (upholds_look_at (Action.inward rfl)).strengthen heeding
  | alive => exact (upholds_alive (Action.inward rfl)).strengthen tidy
  | toString => exact (upholds_toString (Action.inward rfl)).strengthen heeding
  | messageOf => exact (upholds_messageOf (Action.inward rfl)).strengthen heeding
  | throwHandle => exact upholds_throwHandle.strengthen heeding
  | hostRaise => exact upholds_hostRaise.strengthen heeding
  | throwMessage heap message => exact (upholds_throwMessage message).strengthen heeding
  | bootstrap heap config version => exact (upholds_bootstrap_on config version (Action.inward rfl)).strengthen tidy
  | current => exact (upholds_current (Action.inward rfl)).strengthen tidy
  | bindingInfo => exact (upholds_bindingInfo (Action.inward rfl)).strengthen tidy
  | collect => exact (upholds_collect_all (Action.inward rfl)).strengthen tidy
  | makeString text => exact (upholds_makeString text (Action.inward rfl)).strengthen tidy
  | makeError text => exact (upholds_makeError text (Action.inward rfl)).strengthen tidy
  | extract => exact (upholds_extract (Action.inward rfl)).strengthen heeding
  | stub stubs =>
    cases strict with
    | false => exact (upholds_stub stubs rfl (Action.inward rfl)).strengthen tidy
    | true =>
      have stubbed : Upholds (α := Answer α) Session.course (Tidy false) (perform (.stub stubs))
          (Answered false (Action.stub stubs).name) (Adrift false) :=
        upholds_stub stubs rfl (Action.inward rfl)
      exact ⟨stubbed.onward, fun _ willing _ => (willing.plain rfl).elim⟩
  | burst handle count => exact (upholds_burst_on count (Action.inward rfl)).strengthen heeding
  | hammer handle threads count => exact (upholds_hammer_on threads count (Action.inward rfl)).strengthen heeding
  | adopt => exact upholds_adopt.strengthen heeding
  | ofRaw => exact upholds_ofRaw.strengthen heeding
  | retain => exact (upholds_retain (Action.inward rfl)).strengthen heeding
  | convert => exact (upholds_convert (Action.inward rfl)).strengthen tidy
  | intoRaw => exact upholds_intoRaw.strengthen tidy
  | handleOf => exact (upholds_handleOf (Action.inward rfl)).strengthen tidy
  | release => exact (upholds_release (Action.inward rfl)).strengthen tidy
  | clone => exact (upholds_clone (Action.inward rfl)).strengthen tidy
  | dropWrapper => exact (upholds_dropWrapper (Action.inward rfl)).strengthen tidy
  | inspect => exact (upholds_inspect (Action.inward rfl)).strengthen tidy
  | text => exact (upholds_text (Action.inward rfl)).strengthen tidy
  | message => exact (upholds_message (Action.inward rfl)).strengthen tidy
  | compare first second => exact (upholds_compare first second (Action.inward rfl)).strengthen tidy
  | raise name => exact absurd rfl (others name)
  | panicText message => exact (upholds_panic (.text message) nofun rfl rfl).strengthen tidy
  | panicNumber value => exact (upholds_panic (.number value) nofun rfl rfl).strengthen tidy

end CountBridge.Program
