import CountBridge.Proofs.Origins

/-! What native code is told of a routine that it ran with errors trapped. A null
handle stands for a routine that completed, but it is also what is left of an error
that was released before it was raised. -/

namespace CountBridge.Program

open Bridge

variable {α β : Type}

theorem proper_dropAll (wrappers : List Wrapper) : Proper (Wrapper.dropAll wrappers) := by
  induction wrappers with
  | nil => exact .pure _
  | cons wrapper rest ih => exact wrapper.proper_drop.bind fun _ => ih

theorem proper_closeFrame : Proper (closeFrame (α := α)) := by
  apply proper_session.bind
  intro session
  cases session.frames with
  | nil => exact .pure _
  | cons frame outer =>
    apply (proper_update _).bind
    intro _
    apply (leftBy_lift (proper_dropAll _)).bind
    intro _
    cases frame.guard? with
    | none => exact .pure _
    | some wrapper => exact (leftBy_lift wrapper.proper_release).bind fun _ => .pure _

theorem proper_conclude (payload : Unwind) : Proper (conclude (α := α) payload) := by
  cases payload with
  | native err => exact (proper_caught none err).bind fun _ => .pure _
  | text message => exact .pure _
  | number value => exact .pure _
  | fault cause => exact .pure _

theorem leftBy_intercept (payload : Unwind) :
    LeftBy (fun other => other = payload ∧ ∀ err, other ≠ .native err) (intercept payload) := by
  cases payload with
  | native err => exact LeftBy.bind (.of_returns fun _ => ⟨_, rfl⟩) fun _ => .pure _
  | text message => exact .throw ⟨rfl, nofun⟩
  | number value => exact .throw ⟨rfl, nofun⟩
  | fault cause => exact .throw ⟨rfl, nofun⟩

section Leaving

variable {allowed : Unwind → Prop} {routine : Run α β}

theorem leftBy_settle {outcome : Except Unwind β} (fits : ∀ payload, outcome = .error payload → allowed payload) :
    LeftBy allowed (settle outcome : Run α β) := by
  cases outcome with
  | ok value => exact .pure value
  | error payload => exact .throw (fits payload rfl)

theorem leftBy_closing (wide : ∀ payload, payload.Proper → allowed payload) (left : LeftBy allowed routine) :
    LeftBy allowed (do
      let outcome ← outcomeOf routine
      closeFrame
      settle outcome) := by
  intro state payload out
  rcases ended : ends routine state with ⟨outcome, after⟩
  rw [ends_bind, ends_outcomeOf, ended] at out
  have closes : LeftBy allowed (do closeFrame; settle outcome : Run α β) := by
    apply (proper_closeFrame.mono wide).bind
    intro _
    exact leftBy_settle fun other same => left state other (by rw [ended, same])
  exact closes after payload out

/-- Nothing native gets through a trap. -/
theorem leftBy_trap (left : LeftBy allowed routine) :
    LeftBy (fun payload => allowed payload ∧ ∀ err, payload ≠ .native err) (trap routine) := by
  intro state payload out
  rcases ended : ends routine state with ⟨other | value, after⟩
  next =>
    by_cases native : ∃ err, other = .native err
    · obtain ⟨err, rfl⟩ := native
      rw [ends_trap_native ended] at out
      cases out
    · have foreign (err : Wrapper) : other ≠ .native err := fun same => native ⟨err, same⟩
      rw [ends_trap_foreign foreign ended] at out
      cases out
      exact ⟨left state _ (by rw [ended]), foreign⟩
  next =>
    rw [ends_trap_ok ended] at out
    cases out

end Leaving

variable {op inner : Op α} {s t u v entered start : Session α} {program body : List (Op α)}
  {above between : List (Op α × Session α)} {progress : Progress} {payload : Unwind} {count : Nat}

theorem leftBy_leave : LeftBy (fun payload => payload.Proper ∨ progress.outcome = .error payload) (progress.leave (α := α)) := by
  rw [Progress.leave]
  apply (proper_closeFrame.mono fun _ proper => Or.inl proper).bind
  intro _
  exact leftBy_settle fun payload same => .inr same

theorem leftBy_trap_leave :
    LeftBy (fun payload => (payload.Proper ∨ progress.outcome = .error payload) ∧ ∀ err, payload ≠ .native err)
      (trap (progress.leave (α := α))) :=
  leftBy_trap leftBy_leave

/-- What an operation can be left by when its body has ended: something proper of its own, or
what the body was left by, unless it stops that. -/
def Op.LeavesBy (op : Op α) (progress : Progress) (payload : Unwind) : Prop :=
  payload.Proper ∨ progress.outcome = .error payload ∧ op.stops payload = false

theorem leftBy_afterBody (op : Op α) (s : Session α) (progress : Progress) :
    LeftBy (op.LeavesBy progress) (afterBody op s progress) := by
  have proper {γ : Type} {routine : Run α γ} (left : Proper routine) : LeftBy (op.LeavesBy progress) routine :=
    left.mono fun _ => .inl
  have passed (lets : ∀ payload, op.stops payload = false) : LeftBy (op.LeavesBy progress) (progress.leave (α := α)) :=
    leftBy_leave.mono fun payload out => out.imp_right fun same => ⟨same, lets payload⟩
  have trapped (lets : op.stops (.number 0) = false) : LeftBy (op.LeavesBy progress) (trap (progress.leave (α := α))) :=
    leftBy_trap_leave.mono fun payload out => out.1.imp_right fun same => ⟨same, Op.passes_foreign lets out.2⟩
  have hooked (lets : op.stops (.number 0) = false) :
      LeftBy (op.LeavesBy progress) (hostTrap (progress.leave (α := α))) := by
    apply (trapped lets).bind
    intro outcome
    cases outcome with
    | ok value => exact .pure _
    | error err => exact .pure _
  have told (keep : Option Name) (err : Wrapper) (respond : Report → Answer α) :
      LeftBy (op.LeavesBy progress) (do return respond (← caught keep err)) :=
    (proper (proper_caught keep err)).bind fun _ => .pure _
  cases op with
  | act action => exact .pure _
  | attempt name body keep => exact (hooked rfl).bind fun handle => proper (proper_keepUnit keep handle)
  | hostTrap name body keep => exact (hooked rfl).bind fun handle => proper (proper_keepUnit keep handle)
  | runRoutine name body keep => exact (passed fun _ => rfl).bind fun _ => proper (proper_keepHandle keep none)
  | trap body value keep =>
    rw [afterBody]
    apply (trapped rfl).bind
    intro outcome
    cases outcome with
    | ok value => exact .pure _
    | error err => exact told keep err _
  | guarded body value => exact (passed fun _ => rfl).bind fun _ => .pure _
  | scope body => exact (passed fun _ => rfl).bind fun _ => .pure _
  | «scoped» name body =>
    rw [afterBody]
    cases takeWrapper name s.frames with
    | none => exact .pure _
    | some found =>
      obtain ⟨taken, frames⟩ := found
      dsimp only
      refine leftBy_closing (fun _ => .inl) ((passed fun _ => rfl).bind fun _ => ?_)
      exact (proper (leftBy_lift taken.proper_className)).bind fun _ => .pure _
  | thread body value =>
    rw [afterBody]
    refine (LeftBy.outcomeOf _).bind fun outcome => ?_
    cases outcome with
    | ok value => exact .pure _
    | error payload => exact (proper (proper_conclude payload)).bind fun _ => .pure _
  | trapFuture body value keep =>
    rw [afterBody]
    apply (proper proper_closeFrame).bind
    intro _
    cases ended : progress.outcome with
    | ok value => exact .pure _
    | error payload =>
      have intercepted : LeftBy ((Op.trapFuture body value keep).LeavesBy progress) (lift (intercept payload) : Run α Wrapper) :=
        (leftBy_lift (leftBy_intercept payload)).mono fun other out => .inr ⟨ended.trans (by rw [out.1]), Op.passes_foreign rfl out.2⟩
      exact intercepted.bind fun err => told keep err _
  | spawn body value keep =>
    rw [afterBody]
    refine (LeftBy.outcomeOf _).bind fun outcome => ?_
    rcases outcome with payload | err | value
    · exact (proper (proper_conclude payload)).bind fun _ => .pure _
    · exact told keep err _
    · exact .pure _

theorem proper_unentered (missing : op.entry? s = none) (composed : ∀ action, op ≠ .act action)
    (left : ends (runOp op) s = (.error payload, t)) : payload.Proper := by
  have refused {routine : Run α (Answer α)} {refusal : Refusal} {name : String}
      (refuses : ends routine s = ends (refuse refusal) s)
      (out : ends (recorded name routine) s = (.error payload, t)) : payload.Proper := by
    obtain ⟨after, out, -⟩ := left_recorded out
    obtain ⟨after', returns⟩ := refuse_returns (α := α) refusal s
    rw [refuses, returns] at out
    cases out
  cases op with
  | act action => exact absurd rfl (composed action)
  | attempt name body keep =>
    rw [runOp] at left
    cases found : lookup name s.heaps with
    | none => exact refused (by rw [ends_withHeap, found]) left
    | some heap =>
      obtain ⟨after, left, -⟩ := left_recorded left
      rw [ends_withHeap, found] at left
      simp only [Op.entry?, found] at missing
      split at missing
      next => cases missing
      next unbooted =>
        change ends (if (s.world.heaps[heap]?.getD {}).booted then _ else _) s = _ at left
        rw [if_neg unbooted] at left
        have unready : Proper (lift (fault .usedBeforeBoot) : Run α (Answer α)) := leftBy_lift (proper_fault _)
        exact unready s payload (congrArg Prod.fst left)
  | hostTrap name body keep =>
    rw [runOp] at left
    exact refused (by rw [ends_withHeap, Option.map_eq_none_iff.mp missing]) left
  | runRoutine name body keep =>
    rw [runOp] at left
    exact refused (by rw [ends_withHeap, Option.map_eq_none_iff.mp missing]) left
  | «scoped» name body =>
    rw [runOp] at left
    exact refused (by rw [ends_taking, Option.map_eq_none_iff.mp missing]) left
  | trap body value keep => cases missing
  | guarded body value => cases missing
  | scope body => cases missing
  | thread body value => cases missing
  | trapFuture body value keep => cases missing
  | spawn body value keep => cases missing

/-- What is not proper comes from the body. -/
theorem Op.left_improper (composed : ∀ action, op ≠ .act action) (improper : ¬ payload.Proper)
    (left : ends (runOp op) s = (.error payload, t)) :
    ∃ entered count u, op.entry? s = some entered ∧ ends (runBody op.body) entered = (.ok ⟨count, .error payload⟩, u) ∧
      op.stops payload = false := by
  cases entry : op.entry? s with
  | none => exact absurd (proper_unentered entry composed left) improper
  | some entered =>
    obtain ⟨⟨count, outcome⟩, u, ran⟩ := runBody_returns op.body entered
    rw [ends_runOp entry ran] at left
    obtain ⟨after, left, -⟩ := left_recorded left
    obtain proper | ⟨same, passes⟩ := leftBy_afterBody op s ⟨count, outcome⟩ u payload (by rw [left])
    · exact absurd proper improper
    · cases same
      exact ⟨entered, count, u, rfl, ran, passes⟩

theorem Along.of_left (left : ends (runBody body) s = (.ok ⟨count, .error payload⟩, u)) :
    ∃ inner t, inner ∈ body ∧ Along runOp body s inner t ∧ ends (runOp inner) t = (.error payload, u) := by
  induction body generalizing s count with
  | nil => cases left
  | cons op rest ih =>
    rw [runBody, ends_bind, ends_outcomeOf] at left
    rcases ended : ends (runOp op) s with ⟨other | ⟨⟩, t⟩
    next =>
      rw [ended] at left
      cases left
      exact ⟨op, s, List.mem_cons_self, .here, ended⟩
    next =>
      rw [ended] at left
      obtain ⟨⟨begun, outcome⟩, after, ran, same⟩ := ends_bind_eq_ok left
      cases same
      obtain ⟨inner, v, member, along, out⟩ := ih ran
      exact ⟨inner, v, List.mem_cons_of_mem _ member, .later ended along, out⟩

theorem Op.sizeOf_lt_of_mem (member : inner ∈ op.body) : sizeOf inner < sizeOf op := by
  have smaller := List.sizeOf_lt_of_mem member
  cases op <;> simp only [Op.body, List.not_mem_nil] at member smaller ⊢ <;> simp <;> omega

/-- A payload that is not proper was raised by an action, and nothing on its way stops it. -/
theorem Begun.raised_by {op : Op α} {s u : Session α} {above : List (Op α × Session α)} (improper : ¬ payload.Proper)
    (begun : Begun program start above op s) (left : ends (runOp op) s = (.error payload, u)) :
    ∃ between action t raised, Begun program start (between ++ above) (.act action) t ∧
      ends (runOp (.act action)) t = (.error payload, raised) ∧ ∀ enclosing ∈ between, enclosing.1.stops payload = false := by
  by_cases composed : ∀ action, op ≠ .act action
  · -- The operation of the body that it was left by is smaller, and lies one deeper.
    obtain ⟨entered, count, v, entry, ran, passes⟩ := Op.left_improper composed improper left
    obtain ⟨inner, t, member, along, out⟩ := Along.of_left ran
    have smaller := Op.sizeOf_lt_of_mem member
    obtain ⟨between, action, w, raised, beneath, raises, passing⟩ := raised_by improper (begun.inside entry along) out
    refine ⟨between ++ [(op, s)], action, w, raised, by simpa using beneath, raises, fun enclosing found => ?_⟩
    rcases List.mem_append.mp found with found | found
    · exact passing enclosing found
    · cases List.mem_singleton.mp found
      exact passes
  · simp only [not_forall, not_not] at composed
    obtain ⟨action, rfl⟩ := composed
    exact ⟨[], action, s, u, begun, left, nofun⟩
termination_by sizeOf op

abbrev releasedError : Wrapper := ⟨.error, none⟩

theorem improper_of_null {err : Wrapper} (null : err.handle = none) : ¬ (Unwind.native err).Proper := by
  intro proper
  cases proper with
  | native id => cases null

/-- Only raising a released error unwinds with a null handle. -/
theorem raises_of_null {action : Action} {err : Wrapper} (null : err.handle = none)
    (left : ends (runOp (.act action)) t = (.error (.native err), u)) :
    err = releasedError ∧ ∃ name, action = .raise name ∧ findWrapper name t.frames = some releasedError := by
  rw [runOp] at left
  obtain ⟨after, performed, -⟩ := left_recorded left
  cases own : action.isOwn with
  | false =>
    have proper : (Unwind.native err).Proper := proper_perform own t _ (by rw [performed])
    exact absurd proper (improper_of_null null)
  | true =>
    cases action with
    | raise name =>
      obtain ⟨found, present, performed⟩ := left_withWrapper performed
      split at performed
      next kind =>
        obtain ⟨taken, frames, there, performed⟩ := left_taking performed
        cases performed
        have same := value_takeWrapper name t.frames
        rw [there, present] at same
        cases same
        have released : err = releasedError := by
          rw [releasedError, ← kind, ← null]
        subst released
        exact ⟨rfl, name, rfl, present⟩
      next =>
        obtain ⟨after, refused⟩ := refuse_returns .notAnError t
        rw [refused] at performed
        cases performed
    | panicText message => cases performed
    | panicNumber value => cases performed
    | _ => cases own

theorem ends_raise_found {name : Name} {err : Wrapper} (present : findWrapper name t.frames = some err) (kind : err.kind = .error) :
    ∃ raised, ends (runOp (.act (.raise name))) t = (.error (.native err), raised) := by
  have same := value_takeWrapper name t.frames
  rw [present] at same
  obtain ⟨⟨taken, frames⟩, there, rfl⟩ := Option.map_eq_some_iff.mp same
  have performed : ∃ after, ends (perform (α := α) (.raise name)) t = (.error (.native taken), after) := by
    rw [perform, ends_withWrapper, present]
    dsimp only
    rw [if_pos kind, ends_taking, there]
    exact ⟨_, rfl⟩
  obtain ⟨after, performed⟩ := performed
  rw [runOp]
  exact ⟨_, ends_recorded_error performed⟩

def Op.isHook : Op α → Bool
  | .attempt .. | .hostTrap .. => true
  | _ => false

theorem ends_hook {handle : Handle} (hook : op.isHook = true) (entry : op.entry? s = some entered)
    (ran : ends (runBody op.body) entered = (.ok progress, u)) (trapped : ends (hostTrap progress.leave) u = (.ok handle, v)) :
    ∃ last : Session α, (∀ id, handle = some id → id ∈ last.units) ∧
      ends (runOp op) s = (.ok (), last.addStep op.name (.handle handle)) := by
  rw [ends_runOp entry ran]
  have kept (keep : Option Name) (name : String) : ∃ last : Session α, (∀ id, handle = some id → id ∈ last.units) ∧
      ends (recorded name do keepUnit keep (← hostTrap progress.leave)) u = (.ok (), last.addStep name (.handle handle)) := by
    refine ⟨_, ?_, ends_recorded_ok (ends_bind_ok trapped)⟩
    rintro id rfl
    cases keep <;> exact List.mem_cons_self
  cases op with
  | attempt name body keep => exact kept keep _
  | hostTrap name body keep => exact kept keep _
  | _ => cases hook

theorem ends_hook_left (hook : op.isHook = true) (entry : op.entry? s = some entered)
    (ran : ends (runBody op.body) entered = (.ok progress, u)) (left : ends (hostTrap progress.leave) u = (.error payload, v)) :
    ends (runOp op) s = (.error payload, v.addStep op.name .unwound) := by
  rw [ends_runOp entry ran]
  cases op with
  | attempt name body keep => exact ends_recorded_error (ends_bind_error left)
  | hostTrap name body keep => exact ends_recorded_error (ends_bind_error left)
  | _ => cases hook

/-- A null handle comes of a routine that completed, or of one that was left by a null error. -/
theorem outcome_of_null (null : ends (hostTrap progress.leave) u = (.ok none, v)) :
    progress.outcome = .ok () ∨ ∃ err, err.handle = none ∧ progress.outcome = .error (.native err) := by
  rcases left : ends (progress.leave (α := α)) u with ⟨other | ⟨⟩, w⟩
  next =>
    by_cases native : ∃ err, other = .native err
    · obtain ⟨err, rfl⟩ := native
      rw [ends_hostTrap_native left] at null
      have nothing : err.handle = none := Except.ok.inj (congrArg Prod.fst null)
      obtain proper | same := leftBy_leave u _ (congrArg Prod.fst left)
      · exact absurd proper (improper_of_null nothing)
      · exact .inr ⟨err, nothing, same⟩
    · rw [ends_hostTrap_foreign (fun err same => native ⟨err, same⟩) left] at null
      cases null
  next =>
    obtain ⟨_, _, -, settled⟩ := ends_bind_eq_ok left
    rw [ends_settle, Prod.mk.injEq] at settled
    exact .inl settled.1

def Op.AnswersNull (op : Op α) (s : Session α) : Prop :=
  ∃ last : Session α, ends (runOp op) s = (.ok (), last.addStep op.name (.handle none))

def Op.AnswersError (op : Op α) (s : Session α) : Prop :=
  ∃ (id : ObjectId) (last : Session α), id ∈ last.units ∧
    ends (runOp op) s = (.ok (), last.addStep op.name (.handle (some id)))

def Op.Unwinds (op : Op α) (s : Session α) : Prop :=
  ∃ payload last, ends (runOp op) s = (.error payload, last)

def Op.BodyCompletes (op : Op α) (s : Session α) : Prop :=
  ∃ entered count after, op.entry? s = some entered ∧ ends (runBody op.body) entered = (.ok ⟨count, .ok ()⟩, after)

/-- A released error is raised in the body of an operation, and nothing else stops it. -/
def RaisesReleased (program : List (Op α)) (start : Session α) (above : List (Op α × Session α)) (op : Op α)
    (s : Session α) : Prop :=
  ∃ between name t, Begun program start (between ++ (op, s) :: above) (.act (.raise name)) t ∧
    findWrapper name t.frames = some releasedError ∧
    ∀ enclosing ∈ between, enclosing.1.stops (.native releasedError) = false

theorem answer_addStep (session : Session α) (name : String) (answer : Answer α) :
    (session.addStep name answer).steps.back?.map (·.answer) = some answer := by
  simp [Session.addStep]

theorem Begun.completes_or_raises (begun : Begun program start above op s) (hook : op.isHook = true)
    (entry : op.entry? s = some entered) (null : op.AnswersNull s) :
    op.BodyCompletes s ∨ RaisesReleased program start above op s := by
  obtain ⟨last, null⟩ := null
  obtain ⟨⟨count, outcome⟩, u, ran⟩ := runBody_returns op.body entered
  rcases trapped : ends (hostTrap (Progress.leave (α := α) ⟨count, outcome⟩)) u with ⟨payload | handle, v⟩
  next =>
    rw [ends_hook_left hook entry ran trapped] at null
    cases null
  next =>
    obtain ⟨last', -, ended⟩ := ends_hook hook entry ran trapped
    rw [null, Prod.mk.injEq] at ended
    have same := congrArg (fun session : Session α => session.steps.back?.map (·.answer)) ended.2
    simp only [answer_addStep, Option.some.injEq, Answer.handle.injEq] at same
    subst same
    obtain completed | ⟨err, nothing, left⟩ := outcome_of_null trapped
    · cases completed
      exact .inl ⟨entered, count, u, entry, ran⟩
    · cases left
      obtain ⟨inner, t, member, along, left⟩ := Along.of_left ran
      obtain ⟨between, action, w, raised, beneath, raises, passing⟩ :=
        raised_by (improper_of_null nothing) (begun.inside entry along) left
      obtain ⟨rfl, name, rfl, present⟩ := raises_of_null nothing raises
      exact .inr ⟨between, name, w, beneath, present, passing⟩

theorem answers_of_hook (hook : op.isHook = true) (entry : op.entry? s = some entered) :
    op.AnswersNull s ∨ op.AnswersError s ∨ op.Unwinds s := by
  obtain ⟨progress, u, ran⟩ := runBody_returns op.body entered
  rcases trapped : ends (hostTrap (progress.leave (α := α))) u with ⟨payload | handle, v⟩
  next => exact .inr (.inr ⟨payload, _, ends_hook_left hook entry ran trapped⟩)
  next =>
    obtain ⟨last, owned, ended⟩ := ends_hook hook entry ran trapped
    cases handle with
    | none => exact .inl ⟨last, ended⟩
    | some id => exact .inr (.inl ⟨id, last, owned id rfl, ended⟩)

theorem Begun.answers_null (start_fair : Fair false 0 start) (begun : Begun program start above op s) (hook : op.isHook = true)
    (quiet : (ends (runOp op) s).2.Quiet) (swallows : op.BodyCompletes s ∨ RaisesReleased program start above op s) :
    op.AnswersNull s := by
  obtain ⟨entered, count, u, entry, ran⟩ | ⟨between, name, t, beneath, present, passing⟩ := swallows
  · obtain ⟨v, closed, -⟩ := begun.closes start_fair entry ran quiet
    obtain ⟨last, -, ended⟩ := ends_hook hook entry ran (ends_hostTrap_ok (ends_leave _ closed))
    exact ⟨last, ended⟩
  · obtain ⟨raised, left⟩ := ends_raise_found present rfl
    obtain ⟨entered, count, u, entry, ran, -⟩ := beneath.reaches start_fair left passing quiet
    obtain ⟨v, closed, -⟩ := begun.closes start_fair entry ran quiet
    obtain ⟨last, -, ended⟩ := ends_hook hook entry ran (ends_hostTrap_native (ends_leave _ closed))
    exact ⟨last, ended⟩

/-- The hook answers null not only if the routine completed, but also if a released error was
raised in it and came up to the hook. In any other case it hands over an error, or what left
the routine unwinds on. -/
theorem Begun.null_iff_completed_or_released (origin : Nat) (watched : Bool)
    (begun : Begun program (Session.start α origin watched) above op s) (hook : op.isHook = true)
    (entry : op.entry? s = some entered) :
    (op.AnswersNull s → op.BodyCompletes s ∨ RaisesReleased program (Session.start α origin watched) above op s) ∧
    (op.AnswersNull s ∨ op.AnswersError s ∨ op.Unwinds s) ∧
    ((ends (runOp op) s).2.world.turnedOver = false → (ends (runOp op) s).2.world.breached = false →
      op.BodyCompletes s ∨ RaisesReleased program (Session.start α origin watched) above op s → op.AnswersNull s) := by
  refine ⟨begun.completes_or_raises hook entry, answers_of_hook hook entry, ?_⟩
  intro fits lawful swallows
  exact begun.answers_null (fair_start origin watched) hook ⟨fits, lawful⟩ swallows

/-- An error is released, then raised in the body of a native trap. -/
theorem Begun.null_iff_completed_or_released_raise :
    let start := Session.start Unit Address.spacing false
    let earlier : List (Op Unit) :=
      [.act (.bootstrap mainHeap {} hookVersion), .act (.makeError "boom" (some "e")), .act (.release "e")]
    let op : Op Unit := .hostTrap mainHeap [.act (.raise "e")] (some "h")
    ∃ s, Begun (earlier ++ [op]) start [] op s ∧ ¬ op.BodyCompletes s ∧ op.AnswersNull s := by
  intro start earlier op
  have ran : (ends (runEach earlier) start).1 = .ok () := by cbv
  have heap : lookup mainHeap (ends (runEach earlier) start).2.heaps = some 0 := by cbv
  have there : findWrapper "e" (ends (runEach earlier) start).2.frames = some releasedError := by cbv
  have fits : (ends (runOp op) (ends (runEach earlier) start).2).2.world.turnedOver = false := by cbv
  have lawful : (ends (runOp op) (ends (runEach earlier) start).2).2.world.breached = false := by cbv
  rcases making : ends (runEach earlier) start with ⟨outcome, s⟩
  rw [making] at ran heap there fits lawful
  cases ran
  have begun : Begun (earlier ++ [op]) start [] op s := .top (.of_runEach making)
  have entry : op.entry? s = some (s.opened {}) := by
    change (lookup mainHeap s.heaps).map _ = _
    rw [heap]
    rfl
  have beneath : Begun (earlier ++ [op]) start [(op, s)] (.act (.raise "e")) (s.opened {}) := .inside begun entry .here
  have fact := begun.null_iff_completed_or_released Address.spacing false rfl entry
  refine ⟨s, begun, ?_, fact.2.2 fits lawful (.inr ⟨[], "e", s.opened {}, beneath, there, by simp⟩)⟩
  rintro ⟨entered, count, after, same, completed⟩
  rw [entry] at same
  cases same
  obtain ⟨raised, left⟩ := ends_raise_found (t := s.opened {}) there rfl
  have along : Along runOp op.body (s.opened {}) (.act (.raise "e")) (s.opened {}) := .here
  obtain ⟨count', ran⟩ := along.left_by left
  rw [completed] at ran
  cases ran

end CountBridge.Program
