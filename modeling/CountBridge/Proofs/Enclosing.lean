import CountBridge.Proofs.Stewardship

/-! Operations that enclose others keep the books as long as what they enclose does.
A body ends with nothing in hand, or with what unwinds; the scope around it is
closed, and then the error is trapped and kept, or it unwinds on. -/

namespace CountBridge.Program

open Bridge World

variable {α β : Type} {strict : Bool} {name : String} {payload : Unwind} {op : Op α} {s entered : Session α}
  {before : Session α → Prop} {unwound : Unwind → Session α → Prop} {progress : Progress}

def Progress.Came (strict : Bool) (progress : Progress) (session : Session α) : Prop :=
  match progress.outcome with
  | .ok () => Tidy strict session
  | .error payload => Adrift strict payload session

theorem upholds_closeFrame_adrift (payload : Unwind) :
    Upholds Session.course (Adrift (α := α) strict payload) closeFrame (fun _ => Adrift strict payload) unwound := by
  refine ⟨onward_closeFrame, ?_⟩
  rintro session ⟨blameless, keeping⟩ quiet
  exact (upholds_closeFrame.met session keeping quiet).conseq (fun _ _ kept => ⟨blameless, kept⟩) fun _ _ met => met

theorem upholds_closeFrame_answered {answer : Answer α} (inward : Inward name) :
    Upholds Session.course (Answered strict name answer) closeFrame (fun _ => Answered strict name answer) unwound := by
  refine ⟨onward_closeFrame, fun session answered quiet => ?_⟩
  exact (upholds_closeFrame.met session (answered.tidy inward) quiet).conseq (fun _ _ tidy => Tidy.answered tidy inward answered.1)
    fun _ _ met => met

theorem upholds_closeFrame_came (progress : Progress) :
    Upholds Session.course (progress.Came (α := α) strict) closeFrame (fun _ => progress.Came strict) unwound := by
  obtain ⟨begun, outcome⟩ := progress
  cases outcome with
  | ok value => exact upholds_closeFrame
  | error payload => exact upholds_closeFrame_adrift payload

theorem upholds_settle (progress : Progress) :
    Upholds Session.course (progress.Came (α := α) strict) (settle progress.outcome) (fun _ => Tidy strict) (Adrift strict) := by
  obtain ⟨begun, outcome⟩ := progress
  cases outcome with
  | ok value => exact .pure fun _ came => came
  | error payload => exact .throw fun _ came => came

theorem upholds_progress_leave (progress : Progress) :
    Upholds Session.course (progress.Came (α := α) strict) progress.leave (fun _ => Tidy strict) (Adrift strict) :=
  (upholds_closeFrame_came progress).bind fun _ => upholds_settle progress

theorem upholds_intercept (payload : Unwind) :
    Upholds Session.course (Adrift (α := α) strict payload) (lift (intercept payload) : Run α Wrapper) (Having strict)
      (Adrift strict) := by
  refine ⟨goes_lift (goes_intercept payload), ?_⟩
  rintro session ⟨blameless, keeping⟩ _
  cases payload with
  | text message => exact ⟨blameless, keeping⟩
  | number value => exact ⟨blameless, keeping⟩
  | fault cause => exact ⟨blameless, keeping⟩
  | native err =>
    obtain ⟨bound, told, balanced⟩ := keeping
    exact ⟨bound, told, balanced.moved (balanced.world.note (.event (.trapped err.handle)) rfl) id⟩

def Trapped (strict : Bool) (outcome : Except Wrapper Unit) (session : Session α) : Prop :=
  match outcome with
  | .ok () => Tidy strict session
  | .error err => Having strict err session

theorem upholds_trap {routine : Run α Unit}
    (upholds : Upholds Session.course before routine (fun _ => Tidy strict) (Adrift strict)) :
    Upholds Session.course before (trap routine) (Trapped strict) (Adrift strict) := by
  apply upholds.outcomeOf.bind
  intro outcome
  cases outcome with
  | ok value => exact .pure fun _ tidy => tidy
  | error payload => exact (upholds_intercept payload).bind fun err => .pure fun _ having => having

theorem upholds_hostTrap {routine : Run α Unit}
    (upholds : Upholds Session.course before routine (fun _ => Tidy strict) (Adrift strict)) :
    Upholds Session.course before (hostTrap routine) (fun handle => Keeping strict false 0 (unitOf handle) (unitOf handle))
      (Adrift strict) := by
  apply (upholds_trap upholds).bind
  intro outcome
  cases outcome with
  | ok value => exact .pure fun _ tidy => tidy
  | error err => exact .pure fun _ having => having.relax

/-- The unit of a trapped error is handed out to the program. -/
theorem upholds_hooked {routine : Run α Unit} (keep : Option Name) (hooks : name ∈ parting ∧ name ∉ receiving)
    (upholds : Upholds Session.course before routine (fun _ => Tidy strict) (Adrift strict)) :
    Upholds Session.course before (do keepUnit keep (← hostTrap routine) : Run α (Answer α)) (Answered strict name) (Adrift strict) := by
  apply (upholds_hostTrap upholds).bind
  intro handle
  have kept : Upholds (α := Answer α) Session.course
      (Keeping strict false 0 (unitOf handle) (unitOf (parted name (.handle handle : Answer α)))) (keepUnit keep handle)
      (Answered strict name) (Adrift strict) := upholds_keepUnit keep handle hooks.2
  rwa [parted, if_pos hooks.1] at kept

theorem upholds_trapped {routine : Run α Unit} (keep : Option Name) {fine : Answer α} {report : Report → Answer α}
    (inward : Inward name) (known : fine.fault? = none) (known' : ∀ told, (report told).fault? = none)
    (upholds : Upholds Session.course before routine (fun _ => Tidy strict) (Adrift strict)) :
    Upholds Session.course before
      (do match ← trap routine with
        | .ok () => pure fine
        | .error err => return report (← caught keep err) : Run α (Answer α))
      (Answered strict name) (Adrift strict) := by
  apply (upholds_trap upholds).bind
  intro outcome
  cases outcome with
  | ok value => exact upholds_answer inward (Answer.blameless_of_none known)
  | error err =>
    exact (upholds_caught keep err).bind fun told => upholds_answer inward (Answer.blameless_of_none (known' told))

/-- What unwinds to the end of a thread is told where it is joined. -/
theorem upholds_concluded {respond : Ending → Answer α} (inward : Inward name)
    (known : ∀ ending cause, (respond ending).fault? = some cause → ending = .fault cause) :
    Upholds Session.course (Adrift (α := α) strict payload) (do return respond (← conclude payload) : Run α (Answer α))
      (Answered strict name) (Adrift strict) := by
  apply (upholds_conclude payload).bind
  intro ending
  exact .pure fun session concluded => Tidy.answered concluded.1 inward fun cause told => concluded.2 cause (known ending cause told)

/-- The guard of a scope holds its unit as long as the scope is open. -/
theorem mem_holdings_of_guard {frame : Frame} {outer : List Frame} {wrapper : Wrapper} {id : ObjectId} {session : Session α}
    (opened : session.frames = frame :: outer) (guards : frame.guard? = some wrapper) (present : wrapper.handle = some id) :
    wrapper ∈ contents session.frames ∧ id ∈ session.holdings := by
  have units : unitsIn (contents session.frames) =
      {id} + (unitsIn ↑(frame.wrappers.map (·.2)) + unitsIn (contents outer)) := by
    rw [opened, contents_cons, Frame.contents, guards]
    simp only [Option.elim_some, unitsIn_add, unitsIn_singleton, present, unitOf_some]
    abel
  refine ⟨by simp [opened, Frame.contents, guards], ?_⟩
  simp [Session.holdings, units]

def Guarded (taken : Wrapper) (session : Session α) : Prop :=
  ∃ frame outer, session.frames = frame :: outer ∧ frame.guard? = some taken

theorem upholds_closeFrame_guarded (taken : Wrapper) :
    Upholds Session.course (fun session : Session α => Guarded taken { session with frames := session.frames.tail }) closeFrame
      (fun _ => Guarded taken) fun _ _ => True := by
  refine ⟨onward_closeFrame, fun session guarded _ => ?_⟩
  have left := frames_closeFrame session
  generalize ends closeFrame session = ended at left ⊢
  obtain ⟨outcome, last⟩ := ended
  cases outcome with
  | error payload => trivial
  | ok value =>
    obtain ⟨frame, outer, opened, guards⟩ := guarded
    exact ⟨frame, outer, left.trans opened, guards⟩

theorem upholds_className_guarded (taken : Wrapper) :
    Upholds Session.course (fun session : Session α => Tidy strict session ∧ Guarded taken session)
      (lift taken.className : Run α String) (fun _ => Tidy strict) unwound := by
  have goes : Goes taken.className := goes_of_settles 0 taken.keeps_className
  refine ⟨goes_lift goes, ?_⟩
  rintro session ⟨⟨bound, -, balanced⟩, frame, outer, opened, guards⟩ quiet
  have known (present : taken.handle ≠ none) : bound = true := by
    obtain ⟨id, present'⟩ := Option.ne_none_iff_exists'.mp present
    by_contra unknown
    exact present (balanced.idle (eq_false_of_ne_true unknown) taken (mem_holdings_of_guard opened guards present').1)
  have lifted : Upholds Session.course (fun other : Session α => other = session) (lift taken.className : Run α String)
      (fun _ => Keeping strict bound 0 0 0) unwound := by
    have keeping (other : Session α) (same : other = session) : Keeping strict bound 0 0 0 other := same ▸ balanced.keeping id
    refine upholds_lift goes keeping ?_
    rintro _ bound' rfl told balanced' quiet
    refine (Wrapper.upholds_className (fun present => told (known present)) fun id present => ?_).met _ balanced' quiet
    exact Multiset.mem_add.mpr (.inr (mem_holdings_of_guard opened guards present).2)
  exact (lifted.met session rfl quiet).conseq (fun _ _ keeping => keeping.relax) fun _ _ met => met

/-- The routine beneath a guard. -/
theorem upholds_guarded {progress : Progress} (taken : Wrapper) :
    Upholds Session.course
      (fun session : Session α => progress.Came strict session ∧ Guarded taken { session with frames := session.frames.tail })
      (do
        progress.leave
        return .className (← taken.className) : Run α (Answer α))
      (Answered strict "scoped") (Adrift strict) := by
  have closed : Upholds Session.course
      (fun session : Session α => progress.Came strict session ∧ Guarded taken { session with frames := session.frames.tail })
      closeFrame (fun _ session => progress.Came strict session ∧ Guarded taken session) (Adrift strict) := by
    have came : Upholds Session.course (progress.Came (α := α) strict) closeFrame (fun _ => progress.Came strict) Nowhere :=
      upholds_closeFrame_came progress
    exact (came.and (upholds_closeFrame_guarded taken)).slacken fun _ _ never => never.1.elim
  -- The class is asked for while the guard is still in its scope, so that its object lives.
  have left : Upholds Session.course
      (fun session : Session α => progress.Came strict session ∧ Guarded taken { session with frames := session.frames.tail })
      progress.leave (fun _ session => Tidy strict session ∧ Guarded taken session) (Adrift strict) := by
    apply closed.bind
    intro _
    obtain ⟨begun, outcome⟩ := progress
    cases outcome with
    | ok value => exact .pure fun _ known => known
    | error payload => exact .throw fun _ known => known.1
  exact left.bind fun _ => (upholds_className_guarded taken).bind fun className =>
    upholds_answer ⟨by decide, by decide⟩ (Answer.blameless_of_none rfl)

/-- The scopes of a body are those that it was entered with, where there is a guard. -/
theorem guarded_of_guards {taken : Wrapper} {frames : List Frame} {session : Session α}
    (guards : guardsOf session.frames = none :: some taken :: guardsOf frames) :
    Guarded taken { session with frames := session.frames.tail } := by
  have tail := congrArg List.tail guards
  rw [guardsOf, ← List.map_tail, List.tail_cons, List.map_eq_cons_iff] at tail
  obtain ⟨frame, outer, opened, guards, -⟩ := tail
  exact ⟨frame, outer, opened, guards⟩

def Op.handsOut : Op α → Bool
  | .attempt .. | .hostTrap .. => true
  | _ => false

theorem Op.parting (hands : op.handsOut = true) :
    op.name ∈ Program.parting ∧ op.name ∉ receiving := by
  cases op <;> first | (cases hands; done) | simp [Op.name, Program.parting, receiving]

theorem Op.inward (entry : op.entry? s = some entered) (keeps : op.handsOut = false) : Inward op.name := by
  cases op <;> first | (cases keeps; done) | (cases entry; done) | simp [Inward, Op.name, Program.parting, receiving]

/-- What happens after the body keeps the books. -/
theorem upholds_afterBody (entry : op.entry? s = some entered) (progress : Progress) :
    Upholds Session.course (fun session => progress.Came strict session ∧ guardsOf session.frames = guardsOf entered.frames)
      (afterBody op s progress) (Answered strict op.name) (Adrift strict) := by
  have leave : Upholds Session.course
      (fun session : Session α => progress.Came strict session ∧ guardsOf session.frames = guardsOf entered.frames)
      (progress.leave : Run α Unit) (fun _ => Tidy strict) (Adrift strict) :=
    (upholds_progress_leave progress).strengthen fun _ known => known.1
  have finished (answer : Answer α) (told : answer.fault? = none) (keeps : op.handsOut = false) :
      Upholds Session.course (Tidy strict) (pure answer) (Answered strict op.name) (Adrift strict) :=
    upholds_answer (Op.inward entry keeps) (Answer.blameless_of_none told)
  cases op with
  | act action => cases entry
  | attempt heap body keep => exact upholds_hooked keep (Op.parting rfl) leave
  | hostTrap heap body keep => exact upholds_hooked keep (Op.parting rfl) leave
  | runRoutine heap body keep => exact leave.bind fun _ => upholds_keepHandle keep none (Op.inward entry rfl)
  | trap body value keep => exact upholds_trapped keep (Op.inward entry rfl) rfl (fun _ => rfl) leave
  | guarded body value => exact leave.bind fun _ => finished (.value value) rfl rfl
  | scope body => exact leave.bind fun _ => finished .done rfl rfl
  | «scoped» wrapper body =>
    obtain ⟨⟨taken, frames⟩, found, rfl⟩ := Option.map_eq_some_iff.mp entry
    rw [afterBody, found]
    dsimp only
    apply ((upholds_guarded taken).strengthen fun session known => ⟨known.1, guarded_of_guards known.2⟩).outcomeOf.bind
    intro outcome
    cases outcome with
    | ok answer => exact (upholds_closeFrame_answered ⟨by decide, by decide⟩).bind fun _ => .pure fun _ answered => answered
    | error payload => exact (upholds_closeFrame_adrift payload).bind fun _ => .throw fun _ adrift => adrift
  | thread body value =>
    apply leave.outcomeOf.bind
    intro outcome
    cases outcome with
    | ok done => exact finished (.finished value) rfl rfl
    | error payload => exact upholds_concluded (Op.inward entry rfl) fun ending cause told => by cases ending <;> cases told; rfl
  | trapFuture body value keep =>
    apply ((upholds_closeFrame_came progress).strengthen fun _ known => known.1).bind
    intro _
    obtain ⟨begun, outcome⟩ := progress
    cases outcome with
    | ok done => exact finished _ rfl rfl
    | error payload =>
      apply (upholds_intercept payload).bind
      intro err
      exact (upholds_caught keep err).bind fun _ => finished _ rfl rfl
  | spawn body value keep =>
    apply (upholds_trap leave).outcomeOf.bind
    intro outcome
    rcases outcome with payload | err | done
    · exact upholds_concluded (Op.inward entry rfl) fun ending cause told => by cases ending <;> cases told; rfl
    · exact (upholds_caught keep err).bind fun _ => finished _ rfl rfl
    · exact finished (.finished value) rfl rfl

end CountBridge.Program
