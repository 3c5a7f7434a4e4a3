import CountBridge.Proofs.Performing

/-! Whole programs alongside each other. A scope gives back what it holds in
whichever way it is left, and what unwinds through it stays in hand meanwhile.
The second of two programs may collect in more places than the first. -/

namespace CountBridge.Program

open Bridge World

variable {α β : Type} {late bound wrapped : Bool} {held : Multiset ObjectId}
  {unwound : Unwind → Session α → Session α → Prop}

theorem sim_held {first second : Run α β} {agree : β → β → Prop} {after : β → β → Session α → Session α → Prop}
    (each : ∀ bound, (wrapped = true → bound = true) →
      Sim Session.course (Session.Linked late bound held) first second agree after unwound) :
    Sim Session.course (Held late wrapped held) first second agree after unwound :=
  .of_exists ⟨true, fun _ => rfl⟩ each

theorem sim_openFrame (frame : Frame) (known : ∀ wrapper ∈ frame.contents, wrapper.handle ≠ none → bound = true) :
    Sim Session.course (Session.Linked (α := α) late bound (unitsIn frame.contents + held)) (openFrame frame)
      (openFrame frame) Eq (fun _ _ => Session.Linked late bound held) unwound := by
  apply sim_rebook
  · intro session world steps
    rfl
  · intro session
    rfl
  · intro s t linked
    simp only [Session.holdings, contents_cons, unitsIn_add]
    abel
  · intro s t linked unknown wrapper member
    rw [contents_cons, Multiset.mem_add] at member
    rcases member with member | member
    · by_contra present
      rw [known wrapper member present] at unknown
      cases unknown
    · exact linked.idle unknown wrapper member

theorem ends_closeFrame (session : Session α) :
    ends closeFrame session = match session.frames with
      | [] => (.ok (), session)
      | frame :: outer => ends (do
        Wrapper.dropAll (frame.wrappers.map (·.2))
        match frame.guard? with
        | some wrapper => let _ ← wrapper.release
        | none => pure () : Run α Unit) { session with frames := outer } := by
  have begun : ends closeFrame session = ends (match session.frames with
      | [] => pure ()
      | frame :: outer => do
        update fun session => { session with frames := outer }
        Wrapper.dropAll (frame.wrappers.map (·.2))
        match frame.guard? with
        | some wrapper => let _ ← wrapper.release
        | none => pure () : Run α Unit) session := rfl
  rw [begun]
  split <;> rfl

/-- The wrappers of a scope give their units back, the guard at once. -/
theorem sim_leave (frame : Frame) (known : ∀ wrapper ∈ frame.contents, wrapper.handle ≠ none → bound = true) :
    Sim Session.course (Session.Linked late bound (unitsIn frame.contents + held)) (do
        Wrapper.dropAll (frame.wrappers.map (·.2))
        match frame.guard? with
        | some wrapper => let _ ← wrapper.release
        | none => pure () : Run α Unit) (do
        Wrapper.dropAll (frame.wrappers.map (·.2))
        match frame.guard? with
        | some wrapper => let _ ← wrapper.release
        | none => pure () : Run α Unit) Eq (fun _ _ => Session.Linked late bound held) unwound := by
  obtain ⟨guard?, wrappers⟩ := frame
  simp only [Frame.contents, unitsIn_add, unitsIn_coe, Multiset.mem_add, Multiset.mem_coe] at known ⊢
  rw [add_assoc]
  apply (sim_lift_spends (Wrapper.keeps_dropAll _ fun wrapper member => known wrapper (.inl member))).bind_eq
  intro _
  cases guard? with
  | none => exact .pure rfl fun _ _ linked => linked.congr (by simp)
  | some wrapper =>
    simp only [Option.elim_some, unitsIn_singleton]
    have alive : wrapper.handle ≠ none → bound = true := known wrapper (.inr (by simp))
    exact (sim_lift_spends (wrapper.keeps_release alive)).bind_eq fun _ => .pure rfl fun _ _ linked => linked

/-- What dropping and releasing only go on in, closing a scope does too. -/
theorem onward_leave {course : Course (Session α)} (drops : ∀ wrappers, Onward course (lift (Wrapper.dropAll wrappers)))
    (releases : ∀ wrapper : Wrapper, Onward course (lift wrapper.release)) (frame : Frame) : Onward course (do
    Wrapper.dropAll (frame.wrappers.map (·.2))
    match frame.guard? with
    | some wrapper => let _ ← wrapper.release
    | none => pure () : Run α Unit) := by
  refine (drops _).bind fun _ => ?_
  cases frame.guard? with
  | none => exact .pure ()
  | some wrapper => exact (releases wrapper).bind fun _ => .pure ()

theorem goes_leave (frame : Frame) : Onward (Session.course (α := α)) (do
    Wrapper.dropAll (frame.wrappers.map (·.2))
    match frame.guard? with
    | some wrapper => let _ ← wrapper.release
    | none => pure () : Run α Unit) := by
  have left : Sim Session.course (Session.Linked (α := α) false true (unitsIn frame.contents + 0)) _ _ Eq
      (fun _ _ => Session.Linked false true 0) fun _ _ _ => False := sim_leave frame fun _ _ _ => rfl
  exact left.onward

/-- The wrappers of the innermost scope are in hand once it is taken away. -/
theorem Session.Linked.uncover {s t : Session α} {frame : Frame} {outer : List Frame}
    (linked : Session.Linked late bound held s t) (innermost : t.frames = frame :: outer) :
    Session.Linked late bound (unitsIn frame.contents + held) { s with frames := outer } { t with frames := outer } ∧
      ∀ wrapper ∈ frame.contents, wrapper.handle ≠ none → bound = true := by
  constructor
  · refine linked.rebook (fun session => { session with frames := outer }) (fun _ _ _ => rfl) rfl ?_ ?_
    · simp only [Session.holdings, innermost, contents_cons, unitsIn_add]
      abel
    · intro unknown wrapper member
      apply linked.idle unknown wrapper
      rw [innermost, contents_cons]
      exact Multiset.mem_add.mpr (.inr member)
  · intro wrapper member present
    by_contra unknown
    apply present
    apply linked.idle (eq_false_of_ne_true unknown) wrapper
    rw [innermost, contents_cons]
    exact Multiset.mem_add.mpr (.inl member)

theorem sim_closeFrame :
    Sim Session.course (Session.Linked (α := α) late bound held) closeFrame closeFrame Eq
      (fun _ _ => Session.Linked late bound held) unwound := by
  have goes : Onward (Session.course (α := α)) closeFrame := by
    intro session
    rw [ends_closeFrame]
    split
    next => exact World.Continues.refl _
    next frame outer _ => exact goes_leave frame { session with frames := outer }
  refine ⟨goes, goes, fun s t linked quiet quiet' => ?_⟩
  rw [ends_closeFrame, linked.frames] at quiet ⊢
  rw [ends_closeFrame] at quiet' ⊢
  cases frames : t.frames with
  | nil => exact .value rfl linked
  | cons frame outer =>
    rw [frames] at quiet quiet'
    obtain ⟨opened, known⟩ := linked.uncover frames
    exact (sim_leave frame known).together _ _ opened quiet quiet'

theorem sim_closeFrame_held :
    Sim Session.course (Held (α := α) late wrapped held) closeFrame closeFrame Eq (fun _ _ => Held late wrapped held)
      unwound :=
  sim_held fun bound known => sim_closeFrame.weaken fun _ _ _ _ _ linked => ⟨bound, known, linked⟩

/-- What a routine leaves in hand, or what unwinds from it, outlasts the scope it ran in. -/
theorem sim_inFrame {frame : Frame} {before : Session α → Session α → Prop} {first second : Run α β}
    {agree : β → β → Prop} {wraps : β → Bool} {gives : β → Multiset ObjectId} (refl : ∀ value, agree value value)
    (opened : Sim Session.course before (openFrame frame) (openFrame frame) Eq (fun _ _ => Settled late 0) (Flown late))
    (inside : Sim Session.course (Settled late 0) first second agree
      (fun value _ => Held late (wraps value) (gives value)) (Flown late)) :
    Sim Session.course before (inFrame frame first) (inFrame frame second) agree
      (fun value _ => Held late (wraps value) (gives value)) (Flown late) := by
  apply opened.bind_eq
  intro _
  apply inside.outcomeOf.bind (Outcomes.refl refl)
  intro outcome outcome' same
  cases same with
  | value same => exact sim_closeFrame_held.bind_eq fun _ => .pure same fun _ _ met => met
  | payload => exact sim_closeFrame_held.bind_eq fun _ => .throw fun _ _ met => met

theorem sim_openFrame_plain :
    Sim Session.course (Settled (α := α) late 0) (openFrame {}) (openFrame {}) Eq (fun _ _ => Settled late 0)
      unwound := by
  apply sim_held
  intro bound known
  have nothing : (0 : Multiset ObjectId) = unitsIn (Frame.contents {}) + 0 := by simp [Frame.contents]
  rw [nothing]
  refine (sim_openFrame {} fun wrapper member => ?_).weaken fun _ _ _ _ _ linked => linked.settled
  simp [Frame.contents] at member

abbrev Runs (late : Bool) (first second : Run α Unit) : Prop :=
  Sim Session.course (Settled late 0) first second Eq (fun _ _ => Settled late 0) (Flown late)

abbrev Answers (late : Bool) (first second : Run α (Answer α)) : Prop :=
  Sim Session.course (Settled late 0) first second (Alike late) (fun _ _ => Settled late 0) (Flown late)

namespace Progress

def isWrapped (progress : Progress) : Bool :=
  match progress.outcome with
  | .ok () => false
  | .error payload => payload.isWrapped

def units (progress : Progress) : Multiset ObjectId :=
  match progress.outcome with
  | .ok () => 0
  | .error payload => payload.units

abbrev Alike (late : Bool) : Progress → Progress → Prop := Agree late fun first second => first.outcome = second.outcome

end Progress

abbrev Bodies (late : Bool) (first second : Run α Progress) : Prop :=
  Sim Session.course (Settled late 0) first second (Progress.Alike late)
    (fun progress _ => Held late progress.isWrapped progress.units) (Flown late)

theorem runs_asRoutine {first second : Run α Progress} (bodies : Bodies late first second) :
    Runs late (asRoutine first) (asRoutine second) := by
  have inside : Runs late (do settle (← first).outcome) (do settle (← second).outcome) := by
    apply bodies.bind (fun _ => ⟨fun _ => rfl, rfl⟩)
    intro progress progress' same
    obtain ⟨begun, outcome⟩ := progress
    rw [← same.2]
    cases outcome with
    | ok value => exact .pure rfl fun _ _ met => met
    | error payload => exact .throw fun _ _ met => met
  exact sim_inFrame (fun _ => rfl) sim_openFrame_plain inside

theorem sim_addStep (name : String) {answer answer' : Answer α} (alike : Alike late answer answer') :
    Sim Session.course (Session.Linked late bound held) (update (·.addStep name answer))
      (update (·.addStep name answer')) Eq (fun _ _ => Session.Linked late bound held) unwound := by
  have goes (answer : Answer α) : Onward Session.course (update (·.addStep name answer)) :=
    fun session => .of_store (.refl _) rfl rfl rfl rfl le_rfl
  refine ⟨goes _, goes _, fun s t linked _ _ => ?_⟩
  refine .value rfl ⟨linked.world.journal fun _ => rfl, linked.idle, linked.inside, linked.single, ?_, fun never => ?_, ?_⟩
  · change s.addStep name answer = _
    rw [linked.shape]
    rfl
  · change (s.addStep name answer).steps = (t.addStep name answer').steps
    rw [linked.same never, alike.1 never]
  · simp only [Session.addStep, told_push, linked.told]
    congr 1
    by_cases collects : name = Action.collect.name
    · simp [told, collects]
    · simp [told, collects, alike.2]

theorem sim_addStep_held (name : String) (answer : Answer α) :
    Sim Session.course (Held late wrapped held) (update (·.addStep name answer)) (update (·.addStep name answer)) Eq
      (fun _ _ => Held late wrapped held) unwound :=
  sim_held fun bound known =>
    (sim_addStep name (Alike.refl answer)).weaken fun _ _ _ _ _ linked => ⟨bound, known, linked⟩

theorem runs_recorded (name : String) {first second : Run α (Answer α)} (answers : Answers late first second) :
    Runs late (recorded name first) (recorded name second) := by
  apply answers.outcomeOf.bind (Outcomes.refl Alike.refl)
  intro outcome outcome' same
  cases same with
  | value alike =>
    apply sim_held
    intro bound _
    exact (sim_addStep name alike).weaken fun _ _ _ _ _ linked => linked.settled
  | payload => exact (sim_addStep_held name .unwound).bind_eq fun _ => .throw fun _ _ met => met

theorem sim_intercept (payload : Unwind) :
    Sim Session.course (Flown (α := α) late payload) (lift (intercept payload)) (lift (intercept payload)) Eq
      (fun err _ => Flown late (.native err)) (Flown late) := by
  have goes : Onward (Session.course (α := α)) (lift (intercept payload)) := goes_lift (goes_intercept payload)
  refine ⟨goes, goes, ?_⟩
  rintro s t ⟨bound, known, linked⟩ _ _
  cases payload with
  | text message => exact .unwind ⟨bound, known, linked⟩
  | number value => exact .unwind ⟨bound, known, linked⟩
  | fault cause => exact .unwind ⟨bound, known, linked⟩
  | native err =>
    refine .value rfl ⟨bound, known, linked.moved (goes t) (linked.world.journal fun never => ?_) id⟩
    rw [linked.same never]

theorem sim_trap {first second : Run α Unit} (runs : Runs late first second) :
    Sim Session.course (Settled late 0) (trap first) (trap second) Eq
      (fun outcome _ s t => match outcome with
        | .ok () => Settled late 0 s t
        | .error err => Flown late (.native err) s t)
      (Flown late) := by
  apply runs.outcomeOf_eq.bind_eq
  intro outcome
  cases outcome with
  | ok value => exact .pure rfl fun _ _ met => met
  | error payload => exact (sim_intercept payload).bind_eq fun err => .pure rfl fun _ _ met => met

theorem sim_hostTrap {first second : Run α Unit} (runs : Runs late first second) :
    Sim Session.course (Settled late 0) (hostTrap first) (hostTrap second) Eq
      (fun handle _ => Settled late (unitOf handle)) (Flown late) := by
  apply (sim_trap runs).bind_eq
  intro outcome
  cases outcome with
  | ok value => exact .pure rfl fun _ _ met => met
  | error err => exact .pure rfl fun _ _ ⟨bound, _, linked⟩ => linked.settled

/-- The unit of the trapped error belongs to the program from then on. -/
theorem answers_hostTrap {first second : Run α Unit} (keep : Option Name) (runs : Runs late first second) :
    Answers late (do keepUnit keep (← hostTrap first)) (do keepUnit keep (← hostTrap second)) :=
  (sim_hostTrap runs).bind_eq fun handle => sim_held fun _ _ => performs_keepUnit keep handle

theorem sim_caught_held (keep : Option Name) (err : Wrapper) :
    Sim Session.course (Flown (α := α) late (.native err)) (caught keep err) (caught keep err) Eq
      (fun _ _ => Settled late 0) unwound := by
  apply sim_held
  intro bound known
  have shown (present : err.handle ≠ none) : bound = true := known (Option.isSome_iff_ne_none.mpr present)
  exact (sim_caught keep err shown).weaken fun _ _ _ _ _ linked => linked.settled

theorem answers_pure (answer : Answer α) : Answers late (pure answer) (pure answer) :=
  .pure (Alike.refl answer) fun _ _ met => met

section Bodied

variable {name wrapper : Name} {keep : Option Name} {first second : Run α Progress}

theorem answers_attempt (bodies : Bodies late first second) :
    Answers late
      (withHeap name fun heap => do
        if (← Bridge.heapAt heap).booted then keepUnit keep (← hostTrap (asRoutine first))
        else Bridge.fault .usedBeforeBoot)
      (withHeap name fun heap => do
        if (← Bridge.heapAt heap).booted then keepUnit keep (← hostTrap (asRoutine second))
        else Bridge.fault .usedBeforeBoot) := by
  apply sim_held
  intro bound _
  apply sim_withHeap
  intro heap
  have asked : Sim Session.course
      (fun s t => Session.Linked (α := α) late bound 0 s t ∧ heap < t.world.heaps.size ∧ (late = true → heap = 0))
      (lift (Bridge.heapAt heap)) (lift (Bridge.heapAt heap)) (fun counters counters' => counters.booted = counters'.booted)
      (fun _ _ => Settled late 0) (Flown late) := by
    have goes : Onward (Session.course (α := α)) (lift (Bridge.heapAt heap)) := goes_lift (goes_get.bind fun _ => .pure _)
    refine ⟨goes, goes, fun s t ⟨linked, _, single⟩ quiet quiet' => ?_⟩
    have asking : Keeps late bound (Escapes late bound) 0 (Bridge.heapAt heap) (Bridge.heapAt heap)
        (Agree late fun counters counters' => counters.allocated = counters'.allocated ∧ counters.booted = counters'.booted)
        fun _ => 0 := keeps_heapAt single
    have read := sim_lift_escapes (α := α) asking
    exact ((read.conseq (fun _ _ met => met) (fun _ _ same => same.2.2) (fun _ _ _ _ _ linked => linked.settled)
      fun _ _ _ met => met).together s t linked quiet quiet')
  apply asked.bind (fun _ => rfl)
  intro counters counters' booted
  rw [booted]
  split
  · exact answers_hostTrap keep (runs_asRoutine bodies)
  · apply sim_held
    intro bound _
    have broken : Keeps late bound (Escapes late bound) 0 (Bridge.fault .usedBeforeBoot : Bridge (Answer α))
        (Bridge.fault .usedBeforeBoot) (Alike late) fun _ => 0 := keeps_breach rfl
    exact (sim_lift_escapes broken).weaken fun _ _ _ _ _ linked => linked.settled

theorem answers_hostTrapped (bodies : Bodies late first second) :
    Answers late (withHeap name fun _ => do keepUnit keep (← hostTrap (asRoutine first)))
      (withHeap name fun _ => do keepUnit keep (← hostTrap (asRoutine second))) :=
  sim_held fun _ _ => sim_withHeap fun _ =>
    (answers_hostTrap keep (runs_asRoutine bodies)).strengthen fun _ _ met => met.1.settled

theorem answers_runRoutine (bodies : Bodies late first second) :
    Answers late (withHeap name fun _ => do asRoutine first; keepHandle keep none)
      (withHeap name fun _ => do asRoutine second; keepHandle keep none) := by
  apply sim_held
  intro _ _
  apply sim_withHeap
  intro _
  apply Sim.bind_eq ((runs_asRoutine bodies).strengthen fun _ _ met => met.1.settled)
  intro _
  exact sim_held fun _ _ => performs_keepHandle keep none

/-- A trapped error is shown and kept; otherwise there is an answer. -/
theorem answers_caught {keep : Option Name} (runs : Runs late (asRoutine first) (asRoutine second)) (fine : Answer α)
    (report : Report → Answer α) :
    Answers late
      (do match ← trap (asRoutine first) with
        | .ok () => pure fine
        | .error err => return report (← caught keep err))
      (do match ← trap (asRoutine second) with
        | .ok () => pure fine
        | .error err => return report (← caught keep err)) := by
  apply (sim_trap runs).bind_eq
  intro outcome
  cases outcome with
  | ok value => exact answers_pure fine
  | error err => exact (sim_caught_held keep err).bind_eq fun _ => answers_pure _

/-- What unwinds out of a thread is shown where it is joined. -/
theorem answers_thread (bodies : Bodies late first second) (fine : Answer α) (ended : Ending → Answer α) :
    Answers late
      (do match ← outcomeOf (asRoutine first) with
        | .ok () => pure fine
        | .error payload => return ended (← conclude payload))
      (do match ← outcomeOf (asRoutine second) with
        | .ok () => pure fine
        | .error payload => return ended (← conclude payload)) := by
  apply (runs_asRoutine bodies).outcomeOf_eq.bind_eq
  intro outcome
  cases outcome with
  | ok value => exact answers_pure fine
  | error payload => exact (sim_conclude payload).bind_eq fun _ => answers_pure _

theorem answers_spawn (bodies : Bodies late first second) (fine : Answer α) (report : Report → Answer α)
    (ended : Ending → Answer α) :
    Answers late
      (do match ← outcomeOf (trap (asRoutine first)) with
        | .ok (.ok ()) => pure fine
        | .ok (.error err) => return report (← caught keep err)
        | .error payload => return ended (← conclude payload))
      (do match ← outcomeOf (trap (asRoutine second)) with
        | .ok (.ok ()) => pure fine
        | .ok (.error err) => return report (← caught keep err)
        | .error payload => return ended (← conclude payload)) := by
  apply (sim_trap (runs_asRoutine bodies)).outcomeOf_eq.bind_eq
  intro outcome
  rcases outcome with payload | (err | value)
  · exact (sim_conclude payload).bind_eq fun _ => answers_pure _
  · exact (sim_caught_held keep err).bind_eq fun _ => answers_pure _
  · exact answers_pure fine

theorem answers_trapFuture (bodies : Bodies late first second) (value : α) :
    Answers late
      (do
        let progress ← inFrame {} first
        match progress.outcome with
        | .ok () => pure (.polled (.ok value) progress.polls)
        | .error payload =>
          let err ← intercept payload
          return .polled (.error (← caught keep err)) progress.polls)
      (do
        let progress ← inFrame {} second
        match progress.outcome with
        | .ok () => pure (.polled (.ok value) progress.polls)
        | .error payload =>
          let err ← intercept payload
          return .polled (.error (← caught keep err)) progress.polls) := by
  refine (sim_inFrame (fun _ => ⟨fun _ => rfl, rfl⟩) sim_openFrame_plain bodies).bind (fun _ => ⟨fun _ => rfl, rfl⟩) ?_
  intro progress progress' same
  have polled (outcome : Except Report α) :
      Alike late (.polled outcome progress.polls) (.polled outcome progress'.polls) :=
    ⟨fun never => by rw [same.1 never], rfl⟩
  obtain ⟨begun, outcome⟩ := progress
  obtain ⟨begun', outcome'⟩ := progress'
  obtain rfl : outcome = outcome' := same.2
  cases outcome with
  | ok done => exact .pure (polled _) fun _ _ met => met
  | error payload =>
    apply (sim_intercept payload).bind_eq
    intro err
    apply (sim_caught_held keep err).bind_eq
    intro report
    exact .pure (polled _) fun _ _ met => met

theorem answers_naming (taken : Wrapper) (bodies : Bodies late first second) :
    Answers late (do asRoutine first; return .className (← taken.className))
      (do asRoutine second; return .className (← taken.className)) := by
  apply (runs_asRoutine bodies).bind_eq
  intro _
  apply sim_held
  intro bound _
  exact performs_bridge_eq taken.keeps_className fun _ => performs_answer _

theorem answers_scoped (bodies : Bodies late first second) :
    Answers late
      (taking wrapper fun taken => inFrame { guard? := some taken } do
        asRoutine first
        return .className (← taken.className))
      (taking wrapper fun taken => inFrame { guard? := some taken } do
        asRoutine second
        return .className (← taken.className)) := by
  apply sim_held
  intro _ _
  apply sim_taking
  intro bound taken known
  have contents : ({ guard? := some taken } : Frame).contents = {taken} := by simp [Frame.contents]
  have guarded : ∀ wrapper ∈ ({ guard? := some taken } : Frame).contents, wrapper.handle ≠ none → bound = true := by
    intro wrapper member
    rw [contents, Multiset.mem_singleton] at member
    exact member ▸ known
  have opened : Sim Session.course (Session.Linked (α := α) late bound (unitOf taken.handle))
      (openFrame { guard? := some taken }) (openFrame { guard? := some taken }) Eq (fun _ _ => Settled late 0) (Flown late) := by
    rw [← unitsIn_singleton, ← contents, ← add_zero (unitsIn _)]
    exact (sim_openFrame _ guarded).weaken fun _ _ _ _ _ linked => linked.settled
  exact sim_inFrame Alike.refl opened (answers_naming taken bodies)

end Bodied

end CountBridge.Program
