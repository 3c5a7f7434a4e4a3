import CountBridge.Proofs.Programs

/-! Operations beneath operations. A body begins in the session that its operation
enters, and each operation of it begins where the one before ended; what the
operation does in the end depends only on how far the body came. -/

namespace CountBridge.Program

open Bridge

variable {α β : Type}

def Op.name : Op α → String
  | .act action => action.name
  | .attempt .. => "attempt"
  | .hostTrap .. => "host_trap"
  | .runRoutine .. => "run_routine"
  | .trap .. => "trap"
  | .guarded .. => "guarded"
  | .scope _ => "scope"
  | .scoped .. => "scoped"
  | .thread .. => "thread"
  | .trapFuture .. => "trap_future"
  | .spawn .. => "spawn"

def Op.body : Op α → List (Op α)
  | .act _ => []
  | .attempt _ body _ | .hostTrap _ body _ | .runRoutine _ body _ | .trap body _ _ | .guarded body _ | .scope body
  | .scoped _ body | .thread body _ | .trapFuture body _ _ | .spawn body _ _ => body

def Session.opened (session : Session α) (frame : Frame) : Session α :=
  { session with frames := frame :: session.frames }

def Op.entry? (op : Op α) (session : Session α) : Option (Session α) :=
  match op with
  | .act _ => none
  | .attempt heap _ _ =>
    match lookup heap session.heaps with
    | some heap => if (session.world.heaps[heap]?.getD {}).booted then some (session.opened {}) else none
    | none => none
  | .hostTrap heap _ _ | .runRoutine heap _ _ => (lookup heap session.heaps).map fun _ => session.opened {}
  | .scoped wrapper _ =>
    (takeWrapper wrapper session.frames).map fun (taken, frames) =>
      ({ session with frames }.opened { guard? := some taken }).opened {}
  | .trap .. | .guarded .. | .scope _ | .thread .. | .trapFuture .. | .spawn .. => some (session.opened {})

def Progress.leave (progress : Progress) : Run α Unit := do
  closeFrame
  settle progress.outcome

/-- What an operation does after its body. `begun` is the session in which it began. -/
def afterBody (op : Op α) (begun : Session α) (progress : Progress) : Run α (Answer α) :=
  match op with
  | .act _ => pure .done
  | .attempt _ _ keep | .hostTrap _ _ keep => do keepUnit keep (← hostTrap progress.leave)
  | .runRoutine _ _ keep => do
    progress.leave
    keepHandle keep none
  | .trap _ value keep => do
    match ← trap progress.leave with
    | .ok () => pure (.finished value)
    | .error err => return .caught (← caught keep err)
  | .guarded _ value => do
    progress.leave
    pure (.value value)
  | .scope _ => do
    progress.leave
    pure .done
  | .scoped wrapper _ =>
    match takeWrapper wrapper begun.frames with
    | none => pure .done
    | some (taken, _) => do
      let outcome ← outcomeOf do
        progress.leave
        return .className (← taken.className)
      closeFrame
      settle outcome
  | .thread _ value => do
    match ← outcomeOf progress.leave with
    | .ok () => pure (.finished value)
    | .error payload => return .ended (← conclude payload)
  | .trapFuture _ value keep => do
    closeFrame
    match progress.outcome with
    | .ok () => pure (.polled (.ok value) progress.polls)
    | .error payload =>
      let err ← intercept payload
      return .polled (.error (← caught keep err)) progress.polls
  | .spawn _ value keep => do
    match ← outcomeOf (trap progress.leave) with
    | .ok (.ok ()) => pure (.finished value)
    | .ok (.error err) => return .caught (← caught keep err)
    | .error payload => return .joinFailed (← conclude payload)

/-- Routines that end alike, each begun in a state of its own. -/
theorem ends_bind_congr {first second : Run α β} {s t : Session α} (same : ends first s = ends second t)
    (next : β → Run α γ) : ends (first >>= next) s = ends (second >>= next) t := by
  rw [ends_bind, ends_bind, same]

theorem ends_outcomeOf_congr {first second : Run α β} {s t : Session α} (same : ends first s = ends second t) :
    ends (outcomeOf first) s = ends (outcomeOf second) t := by
  rw [ends_outcomeOf, ends_outcomeOf, same]

theorem ends_trap_congr {first second : Run α β} {s t : Session α} (same : ends first s = ends second t) :
    ends (trap first) s = ends (trap second) t :=
  ends_bind_congr (ends_outcomeOf_congr same) _

theorem ends_recorded_congr (name : String) {first second : Run α (Answer α)} {s t : Session α}
    (same : ends first s = ends second t) : ends (recorded name first) s = ends (recorded name second) t :=
  ends_bind_congr (ends_outcomeOf_congr same) _

theorem ends_inFrame_opened (frame : Frame) (routine : Run α β) (s : Session α) :
    ends (inFrame frame routine) s = ends (do
      let outcome ← outcomeOf routine
      closeFrame
      settle outcome) (s.opened frame) := rfl

theorem ends_inFrame {frame : Frame} {routine : Run α β} {outcome : Except Unwind β} {s t : Session α}
    (ran : ends routine (s.opened frame) = (outcome, t)) :
    ends (inFrame frame routine) s = ends (do closeFrame; settle outcome) t := by
  rw [ends_inFrame_opened, ends_bind, ends_outcomeOf, ran]

theorem ends_asRoutine {body : Run α Progress} {progress : Progress} {s t : Session α}
    (ran : ends body (s.opened {}) = (.ok progress, t)) : ends (asRoutine body) s = ends progress.leave t := by
  apply ends_inFrame
  rw [ends_bind_ok ran, ends_settle]

/-- An operation ends as its body tells. -/
theorem ends_runOp {op : Op α} {s entered t : Session α} {progress : Progress} (entry : op.entry? s = some entered)
    (ran : ends (runBody op.body) entered = (.ok progress, t)) :
    ends (runOp op) s = ends (recorded op.name (afterBody op s progress)) t := by
  cases op with
  | act action => cases entry
  | attempt name body keep =>
    simp only [Op.entry?] at entry
    split at entry
    next heap found =>
      split at entry
      next booted =>
        cases entry
        rw [runOp]
        apply ends_recorded_congr
        rw [ends_withHeap, found]
        change ends (if (s.world.heaps[heap]?.getD {}).booted then _ else _) s = _
        rw [if_pos booted]
        exact ends_bind_congr (ends_bind_congr (ends_trap_congr (ends_asRoutine ran)) _) _
      next => cases entry
    next => cases entry
  | hostTrap name body keep =>
    obtain ⟨heap, found, rfl⟩ := Option.map_eq_some_iff.mp entry
    rw [runOp]
    apply ends_recorded_congr
    rw [ends_withHeap, found]
    exact ends_bind_congr (ends_bind_congr (ends_trap_congr (ends_asRoutine ran)) _) _
  | runRoutine name body keep =>
    obtain ⟨heap, found, rfl⟩ := Option.map_eq_some_iff.mp entry
    rw [runOp]
    apply ends_recorded_congr
    rw [ends_withHeap, found]
    exact ends_bind_congr (ends_asRoutine ran) _
  | trap body value keep =>
    cases entry
    rw [runOp]
    apply ends_recorded_congr
    exact ends_bind_congr (ends_trap_congr (ends_asRoutine ran)) _
  | guarded body value =>
    cases entry
    rw [runOp]
    apply ends_recorded_congr
    exact ends_bind_congr (ends_asRoutine ran) _
  | scope body =>
    cases entry
    rw [runOp]
    apply ends_recorded_congr
    exact ends_bind_congr (ends_asRoutine ran) _
  | «scoped» name body =>
    obtain ⟨⟨taken, frames⟩, found, rfl⟩ := Option.map_eq_some_iff.mp entry
    rw [runOp, afterBody, found]
    apply ends_recorded_congr
    rw [ends_taking, found]
    dsimp only at ran ⊢
    rw [ends_inFrame_opened]
    exact ends_bind_congr (ends_outcomeOf_congr (ends_bind_congr (ends_asRoutine ran) _)) _
  | thread body value =>
    cases entry
    rw [runOp]
    apply ends_recorded_congr
    exact ends_bind_congr (ends_outcomeOf_congr (ends_asRoutine ran)) _
  | trapFuture body value keep =>
    cases entry
    rw [runOp]
    apply ends_recorded_congr
    refine (ends_bind_congr (ends_inFrame ran) _).trans ?_
    rw [bind_assoc]
    rfl
  | spawn body value keep =>
    cases entry
    rw [runOp]
    apply ends_recorded_congr
    exact ends_bind_congr (ends_outcomeOf_congr (ends_trap_congr (ends_asRoutine ran))) _

/-- An operation begins in a session, while others beside it are executed one after another. -/
inductive Along (run : Op α → Run α Unit) : List (Op α) → Session α → Op α → Session α → Prop
  | here {op rest s} : Along run (op :: rest) s op s
  | later {op rest s t inner u} (ended : ends (run op) s = (.ok (), t)) (further : Along run rest t inner u) :
      Along run (op :: rest) s inner u

/-- An operation of a program begins in a session. Above it are the operations in whose bodies
it lies, from the innermost on, with the sessions in which they began. -/
inductive Begun (program : List (Op α)) (start : Session α) : List (Op α × Session α) → Op α → Session α → Prop
  | top {op s} (along : Along runTop program start op s) : Begun program start [] op s
  | inside {above op s entered inner t} (outer : Begun program start above op s) (entry : op.entry? s = some entered)
      (along : Along runOp op.body entered inner t) : Begun program start ((op, s) :: above) inner t

abbrev Fair (wrapped : Bool) (hand : Multiset ObjectId) (session : Session α) : Prop := Held false wrapped hand session session

abbrev Session.Quiet (session : Session α) : Prop := Session.course.quiet session

variable {op inner : Op α} {s t entered start : Session α} {program body : List (Op α)} {above : List (Op α × Session α)}
  {progress : Progress} {payload : Unwind}

/-- A session beside itself. -/
theorem ends_alone {routine : Run α β} {before : Session α → Session α → Prop} {agree : β → β → Prop}
    {after : β → β → Session α → Session α → Prop} {unwound : Unwind → Session α → Session α → Prop}
    (sim : Sim Session.course before routine routine agree after unwound) (met : before s s)
    (quiet : (ends routine s).2.Quiet) :
    (∃ value t, ends routine s = (.ok value, t) ∧ agree value value ∧ after value value t t) ∨
      ∃ payload t, ends routine s = (.error payload, t) ∧ unwound payload t t := by
  rcases (sim.together s s met quiet quiet.1).cases with
    ⟨value, value', t, t', left, right, same, met⟩ | ⟨payload, t, t', left, right, met⟩
  · rw [left] at right
    cases right
    exact .inl ⟨value, t, left, same, met⟩
  · rw [left] at right
    cases right
    exact .inr ⟨payload, t, left, met⟩

theorem runs_op (op : Op α) : Runs false (runOp op) (runOp op) := (Follows.refl op).runs

theorem tops_op (op : Op α) :
    Sim Session.course (Settled false 0) (runTop op) (runTop op) Eq (fun _ _ => Settled false 0) fun _ _ _ => False :=
  sim_runTop (Follows.refl op)

theorem runBody_returns (body : List (Op α)) (s : Session α) :
    ∃ progress t, ends (runBody body) s = (.ok progress, t) := by
  induction body generalizing s with
  | nil => exact ⟨_, _, rfl⟩
  | cons op rest ih =>
    rw [runBody]
    rcases ended : ends (runOp op) s with ⟨_ | _, t⟩
    next payload => exact ⟨_, t, by rw [ends_bind, ends_outcomeOf, ended]; rfl⟩
    next =>
      obtain ⟨progress, u, ran⟩ := ih t
      exact ⟨_, u, by rw [ends_bind, ends_outcomeOf, ended]; dsimp only; rw [ends_bind_ok ran]; rfl⟩

theorem Along.left_by (along : Along runOp body s inner t) {after : Session α}
    (left : ends (runOp inner) t = (.error payload, after)) :
    ∃ begun, ends (runBody body) s = (.ok ⟨begun, .error payload⟩, after) := by
  induction along with
  | here => exact ⟨1, by rw [runBody, ends_bind, ends_outcomeOf, left]; rfl⟩
  | later ended further ih =>
    obtain ⟨begun, ran⟩ := ih left
    refine ⟨begun + 1, ?_⟩
    rw [runBody, ends_bind, ends_outcomeOf, ended]
    dsimp only
    rw [ends_bind_ok ran]
    rfl

theorem Along.onward {run : Op α → Run α Unit} (along : Along run body s inner t)
    (onward : ∀ op, Onward Session.course (run op)) : Session.course.order s t := by
  induction along with
  | here => exact Session.course.refl _
  | @later op rest s middle inner t ended further ih =>
    have reached := onward op s
    rw [ended] at reached
    exact Session.course.trans reached ih

theorem Along.fair {run : Op α → Run α Unit} {unwound : Unwind → Session α → Session α → Prop}
    (along : Along run body s inner t)
    (each : ∀ op, Sim Session.course (Settled false 0) (run op) (run op) Eq (fun _ _ => Settled false 0) unwound)
    (fair : Fair false 0 s) (quiet : t.Quiet) : Fair false 0 t := by
  induction along with
  | here => exact fair
  | @later op rest s middle inner t ended further ih =>
    have calm : middle.Quiet :=
      Session.course.quiet_of_order (further.onward fun op => (each op).onward) quiet
    rcases ends_alone (each op) fair (by rw [ended]; exact calm) with
      ⟨value, after, left, -, met⟩ | ⟨payload, after, left, -⟩
    · rw [ended] at left
      cases left
      exact ih met quiet
    · rw [ended] at left
      cases left

/-- Where the operations before one have ended, that one begins. -/
theorem Along.of_runEach {earlier rest : List (Op α)} (ran : ends (runEach earlier) s = (.ok (), t)) :
    Along runTop (earlier ++ op :: rest) s op t := by
  induction earlier generalizing s with
  | nil =>
    cases ran
    exact .here
  | cons first others ih =>
    rw [runEach] at ran
    rcases ended : ends (runTop first) s with ⟨_ | _, middle⟩
    next => rw [ends_bind_error ended] at ran; cases ran
    next => rw [ends_bind_ok ended] at ran; exact .later ended (ih ran)

/-- The scopes may be arranged anew, as long as they hold the same wrappers. -/
theorem Session.Linked.reframed {late bound : Bool} {held : Multiset ObjectId} {frames : List Frame}
    (linked : Session.Linked late bound held s t) (same : contents frames = contents t.frames) :
    Session.Linked late bound held { s with frames } { t with frames } := by
  refine linked.rebook (fun session => { session with frames }) (fun _ _ _ => rfl) rfl ?_ fun unknown => ?_
  · rw [Session.holdings, same]
    rfl
  · intro wrapper member
    rw [same] at member
    exact linked.idle unknown wrapper member

theorem Op.entry_eq (entry : op.entry? s = some entered) :
    ∃ frames, contents frames = contents s.frames ∧ entered = { s with frames } := by
  have opened : contents ({} :: s.frames) = contents s.frames := by simp [Frame.contents]
  cases op with
  | act action => cases entry
  | attempt name body keep =>
    simp only [Op.entry?] at entry
    split at entry
    next heap found =>
      split at entry
      next booted =>
        cases entry
        exact ⟨_, opened, rfl⟩
      next => cases entry
    next => cases entry
  | hostTrap name body keep =>
    obtain ⟨heap, found, rfl⟩ := Option.map_eq_some_iff.mp entry
    exact ⟨_, opened, rfl⟩
  | runRoutine name body keep =>
    obtain ⟨heap, found, rfl⟩ := Option.map_eq_some_iff.mp entry
    exact ⟨_, opened, rfl⟩
  | «scoped» name body =>
    obtain ⟨⟨taken, frames⟩, found, rfl⟩ := Option.map_eq_some_iff.mp entry
    refine ⟨{} :: { guard? := some taken } :: frames, ?_, rfl⟩
    simp [contents_take found, Frame.contents]
  | trap body value keep => cases entry; exact ⟨_, opened, rfl⟩
  | guarded body value => cases entry; exact ⟨_, opened, rfl⟩
  | scope body => cases entry; exact ⟨_, opened, rfl⟩
  | thread body value => cases entry; exact ⟨_, opened, rfl⟩
  | trapFuture body value keep => cases entry; exact ⟨_, opened, rfl⟩
  | spawn body value keep => cases entry; exact ⟨_, opened, rfl⟩

theorem Op.fair_entry (entry : op.entry? s = some entered) (fair : Fair false 0 s) : Fair false 0 entered := by
  obtain ⟨bound, known, linked⟩ := fair
  obtain ⟨frames, same, rfl⟩ := Op.entry_eq entry
  exact ⟨bound, known, linked.reframed same⟩

theorem Op.onward_entry (entry : op.entry? s = some entered) : Session.course.order s entered := by
  obtain ⟨frames, same, rfl⟩ := Op.entry_eq entry
  exact World.Continues.refl _

/-- As long as nothing went wrong, the accounts are exact wherever an operation begins. -/
theorem Begun.fair (begun : Begun program start above op s) (fair : Fair false 0 start) (quiet : s.Quiet) :
    Fair false 0 s := by
  induction begun with
  | top along => exact along.fair tops_op fair quiet
  | @inside above op s entered inner t outer entry along ih =>
    have calm : entered.Quiet := Session.course.quiet_of_order (along.onward fun op => (runs_op op).onward) quiet
    have calm' : s.Quiet := Session.course.quiet_of_order (Op.onward_entry entry) calm
    exact along.fair runs_op (Op.fair_entry entry (ih calm')) quiet

/-- The accounts are still exact when the operation ends, with the unit of what unwinds. -/
theorem Begun.fair_end (begun : Begun program start above op s) (fair : Fair false 0 start) {outcome : Except Unwind Unit}
    (ended : ends (runOp op) s = (outcome, t)) (quiet : t.Quiet) :
    match outcome with
    | .ok () => Fair false 0 t
    | .error payload => Fair payload.isWrapped payload.units t := by
  have onward := (runs_op op).onward s
  rw [ended] at onward
  have known := begun.fair fair (Session.course.quiet_of_order onward quiet)
  rcases ends_alone (runs_op op) known (by rwa [ended]) with ⟨value, after, left, -, met⟩ | ⟨payload, after, left, met⟩
  · rw [ended] at left
    cases left
    exact met
  · rw [ended] at left
    cases left
    exact met

/-- The same when the body has ended, and the scope of the operation is still open. -/
theorem Begun.fair_body (begun : Begun program start above op s) (fair : Fair false 0 start)
    (entry : op.entry? s = some entered) (ran : ends (runBody op.body) entered = (.ok progress, t)) (quiet : t.Quiet) :
    Fair progress.isWrapped progress.units t := by
  have bodies : Bodies false (runBody op.body) (runBody op.body) := (FollowsAll.refl op.body).bodies
  have onward := bodies.onward entered
  rw [ran] at onward
  have calm : entered.Quiet := Session.course.quiet_of_order onward quiet
  have known := Op.fair_entry entry (begun.fair fair (Session.course.quiet_of_order (Op.onward_entry entry) calm))
  rcases ends_alone bodies known (by rwa [ran]) with ⟨value, after, left, -, met⟩ | ⟨payload, after, left, -⟩
  · rw [ran] at left
    cases left
    exact met
  · rw [ran] at left
    cases left

theorem fair_start (origin : Nat) (watched : Bool) : Fair false 0 (Session.start α origin watched) := by
  refine ⟨false, nofun, ⟨⟨?_, nofun, nofun⟩, fun _ => rfl, nofun⟩, ?_, ?_, nofun, rfl, fun _ => rfl, rfl⟩
  · simpa [World.queued, Session.start, Session.holdings, Frame.contents] using Store.Exact.empty
  · intro _ wrapper member
    simp [Session.start, Frame.contents] at member
  · intro name heap found
    simp only [Session.start, lookup] at found
    split at found
    · cases found
      exact Nat.zero_lt_one
    · cases found

end CountBridge.Program
