import CountBridge.Proofs.Nesting

/-! What unwinds, and where it is stopped. A native error passes every operation
between the raising one and the innermost that traps; anything else passes all
traps, up to the end of a thread or of the program. -/

namespace CountBridge.Program

variable {α β : Type}

def Op.stops (op : Op α) (payload : Unwind) : Bool :=
  match op, payload with
  | .attempt .., .native _ | .hostTrap .., .native _ | .trap .., .native _ | .trapFuture .., .native _ => true
  | .thread .., _ | .spawn .., _ => true
  | _, _ => false

def Ending.tells (ending : Ending) (payload : Unwind) : Prop :=
  match ending, payload with
  | .native report, .native err => report.handle = err.handle
  | .text message, .text given => message = given
  | .number value, .number given => value = given
  | .fault cause, .fault given => cause = given
  | _, _ => False

/-- An answer that gives the error that was trapped, or shows what else a thread ended with. -/
def Answer.tells (answer : Answer α) (payload : Unwind) : Prop :=
  match answer, payload with
  | .handle given, .native err => given = err.handle
  | .caught report, .native err => report.handle = err.handle
  | .polled (.error report) _, .native err => report.handle = err.handle
  | .ended ending, payload | .joinFailed ending, payload => ending.tells payload
  | _, _ => False

def Op.completes (op : Op α) (begun : Nat) (answer : Answer α) : Prop :=
  match op with
  | .act _ => False
  | .attempt .. | .hostTrap .. | .runRoutine .. => answer = .handle none
  | .trap _ value _ | .thread _ value | .spawn _ value _ => answer = .finished value
  | .guarded _ value => answer = .value value
  | .scope _ => answer = .done
  | .scoped .. => ∃ className, answer = .className className
  | .trapFuture _ value _ => answer = .polled (.ok value) (begun + 2)

variable {op inner : Op α} {s t u v entered start : Session α} {program : List (Op α)} {above : List (Op α × Session α)}
  {payload : Unwind} {begun : Nat}

theorem onward_keepUnit (keep : Option Name) (handle : Handle) : Onward Session.course (keepUnit (α := α) keep handle) := by
  have performs : Performs (α := α) false true (unitOf handle) (keepUnit keep handle) := performs_keepUnit keep handle
  exact performs.onward

theorem onward_keepHandle (keep : Option Name) (handle : Handle) :
    Onward Session.course (keepHandle (α := α) keep handle) := by
  have performs : Performs (α := α) false true 0 (keepHandle keep handle) := performs_keepHandle keep handle
  exact performs.onward

theorem onward_conclude (payload : Unwind) : Onward (Session.course (α := α)) (conclude payload) := by
  have sim : Sim Session.course (Flown (α := α) false payload) (conclude payload) (conclude payload) Eq
      (fun _ _ => Settled false 0) fun _ _ _ => False := sim_conclude payload
  exact sim.onward

theorem onward_caught (keep : Option Name) (err : Wrapper) : Onward (Session.course (α := α)) (caught keep err) := by
  have sim : Sim Session.course (Flown (α := α) false (.native err)) (caught keep err) (caught keep err) Eq
      (fun _ _ => Settled false 0) fun _ _ _ => False := sim_caught_held keep err
  exact sim.onward

theorem onward_closeFrame : Onward (Session.course (α := α)) closeFrame := by
  have sim : Sim Session.course (Settled (α := α) false 0) closeFrame closeFrame Eq (fun _ _ => Settled false 0)
      fun _ _ _ => False := sim_closeFrame_held
  exact sim.onward

section Order

variable {base : Session α} {routine : Run α β}

theorem order_then {next : β → Run α γ} (reached : Session.course.order base (ends routine t).2)
    (continued : ∀ value, Onward Session.course (next value)) :
    Session.course.order base (ends (routine >>= next) t).2 :=
  Session.course.trans reached (Onward.order_bind continued routine t)

theorem order_outcomeOf (reached : Session.course.order base (ends routine t).2) :
    Session.course.order base (ends (outcomeOf routine) t).2 := by
  rwa [ends_outcomeOf]

theorem order_trap (reached : Session.course.order base (ends routine t).2) :
    Session.course.order base (ends (trap routine) t).2 := by
  apply order_then (order_outcomeOf reached)
  intro outcome
  cases outcome with
  | ok value => exact .pure _
  | error payload => exact (goes_lift (goes_intercept payload)).bind fun _ => .pure _

theorem order_hostTrap {routine : Run α Unit} (reached : Session.course.order base (ends routine t).2) :
    Session.course.order base (ends (hostTrap routine) t).2 := by
  apply order_then (order_trap reached)
  intro outcome
  cases outcome with
  | ok value => exact .pure _
  | error err => exact .pure _

end Order

/-- What an operation does after its body begins by closing the scope. -/
theorem order_afterBody (entry : op.entry? s = some entered) (progress : Progress) (t : Session α) :
    Session.course.order (ends closeFrame t).2 (ends (afterBody op s progress) t).2 := by
  have left : Session.course.order (ends closeFrame t).2 (ends progress.leave t).2 :=
    order_then (Session.course.refl _) fun _ => .settle _
  cases op with
  | act action => cases entry
  | attempt name body keep => exact order_then (order_hostTrap left) (onward_keepUnit keep)
  | hostTrap name body keep => exact order_then (order_hostTrap left) (onward_keepUnit keep)
  | runRoutine name body keep => exact order_then left fun _ => onward_keepHandle keep none
  | trap body value keep =>
    apply order_then (order_trap left)
    intro outcome
    cases outcome with
    | ok value => exact .pure _
    | error err => exact (onward_caught keep err).bind fun _ => .pure _
  | guarded body value => exact order_then left fun _ => .pure _
  | scope body => exact order_then left fun _ => .pure _
  | «scoped» name body =>
    obtain ⟨⟨taken, frames⟩, found, -⟩ := Option.map_eq_some_iff.mp entry
    have named (wrapper : Wrapper) : Onward (Session.course (α := α)) (lift wrapper.className) := by
      have keeps : Settles false true 0 wrapper.className wrapper.className Eq fun _ => 0 := wrapper.keeps_className
      exact goes_lift (keeps 0).onward
    rw [afterBody, found]
    apply order_then (order_outcomeOf (order_then left fun _ => (named taken).bind fun _ => .pure _))
    intro _
    exact onward_closeFrame.bind fun _ => .settle _
  | thread body value =>
    apply order_then (order_outcomeOf left)
    intro outcome
    cases outcome with
    | ok value => exact .pure _
    | error payload => exact (onward_conclude payload).bind fun _ => .pure _
  | trapFuture body value keep =>
    apply order_then (Session.course.refl _)
    intro _
    cases progress.outcome with
    | ok value => exact .pure _
    | error payload =>
      apply (goes_lift (goes_intercept payload)).bind
      intro err
      exact (onward_caught keep err).bind fun _ => .pure _
  | spawn body value keep =>
    apply order_then (order_outcomeOf (order_trap left))
    intro outcome
    rcases outcome with payload | err | value
    · exact (onward_conclude payload).bind fun _ => .pure _
    · exact (onward_caught keep err).bind fun _ => .pure _
    · exact .pure _

theorem order_recorded (name : String) (routine : Run α (Answer α)) (t : Session α) :
    Session.course.order (ends routine t).2 (ends (recorded name routine) t).2 := by
  apply order_then (order_outcomeOf (Session.course.refl _))
  intro outcome
  have goes (answer : Answer α) : Onward Session.course (update (·.addStep name answer)) :=
    fun session => .of_store (.refl _) rfl rfl rfl rfl le_rfl
  cases outcome with
  | ok answer => exact goes answer
  | error payload => exact (goes .unwound).bind fun _ => .throw payload

theorem Along.order_end {body : List (Op α)} (along : Along runOp body s inner t) :
    Session.course.order (ends (runOp inner) t).2 (ends (runBody body) s).2 := by
  induction along with
  | @here op rest s =>
    rw [runBody]
    apply order_then (order_outcomeOf (Session.course.refl _))
    intro outcome
    cases outcome with
    | error payload => exact .pure _
    | ok value =>
      have bodies : Bodies false (runBody rest) (runBody rest) := (FollowsAll.refl rest).bodies
      exact bodies.onward.bind fun _ => .pure _
  | @later op rest s middle inner t ended further ih =>
    rw [runBody, ends_bind, ends_outcomeOf, ended]
    exact order_then ih fun _ => .pure _

theorem order_runOp (entry : op.entry? s = some entered) :
    Session.course.order (ends (runBody op.body) entered).2 (ends (runOp op) s).2 := by
  obtain ⟨progress, u, ran⟩ := runBody_returns op.body entered
  rw [ran, ends_runOp entry ran]
  refine Session.course.trans (onward_closeFrame u) (Session.course.trans (order_afterBody entry progress u) ?_)
  exact order_recorded op.name (afterBody op s progress) u

variable {between : List (Op α × Session α)}

theorem Begun.outer (begun : Begun program start (between ++ (op, s) :: above) inner t) : Begun program start above op s := by
  induction between generalizing inner t with
  | nil =>
    cases begun with
    | inside outer entry along => exact outer
  | cons first rest ih =>
    cases begun with
    | inside outer entry along => exact ih outer

theorem Begun.order_end (begun : Begun program start (between ++ (op, s) :: above) inner t) :
    Session.course.order (ends (runOp inner) t).2 (ends (runOp op) s).2 := by
  induction between generalizing inner t with
  | nil =>
    cases begun with
    | inside outer entry along => exact Session.course.trans along.order_end (order_runOp entry)
  | cons first rest ih =>
    cases begun with
    | inside outer entry along =>
      exact Session.course.trans (Session.course.trans along.order_end (order_runOp entry)) (ih outer)

variable {progress : Progress}

theorem ends_closeFrame_fair {wrapped : Bool} {held : Multiset ObjectId} (fair : Fair wrapped held u)
    (quiet : (ends closeFrame u).2.Quiet) : ∃ v, ends closeFrame u = (.ok (), v) ∧ Fair wrapped held v := by
  have sim : Sim Session.course (Held (α := α) false wrapped held) closeFrame closeFrame Eq
      (fun _ _ => Held false wrapped held) fun _ _ _ => False := sim_closeFrame_held
  rcases ends_alone sim fair quiet with ⟨value, v, left, -, met⟩ | ⟨_, _, _, never⟩
  · exact ⟨v, left, met⟩
  · exact never.elim

/-- The scope of a body closes without fail, and what unwinds is still in hand then. -/
theorem Begun.closes (start_fair : Fair false 0 start) (begun : Begun program start above op s)
    (entry : op.entry? s = some entered) (ran : ends (runBody op.body) entered = (.ok progress, u))
    (quiet : (ends (runOp op) s).2.Quiet) :
    ∃ v, ends closeFrame u = (.ok (), v) ∧ Fair progress.isWrapped progress.units v := by
  rw [ends_runOp entry ran] at quiet
  have closed : (ends closeFrame u).2.Quiet :=
    Session.course.quiet_of_order (Session.course.trans (order_afterBody entry progress u) (order_recorded _ _ u)) quiet
  have body := begun.fair_body start_fair entry ran (Session.course.quiet_of_order (onward_closeFrame u) closed)
  exact ends_closeFrame_fair body closed

theorem ends_leave (progress : Progress) (closed : ends closeFrame u = (.ok (), v)) : ends progress.leave u = (progress.outcome, v) := by
  rw [Progress.leave, ends_bind_ok closed, ends_settle]

theorem ends_recorded_error {name : String} {routine : Run α (Answer α)} (left : ends routine u = (.error payload, v)) :
    ends (recorded name routine) u = (.error payload, v.addStep name .unwound) := by
  rw [recorded, ends_bind, ends_outcomeOf, left]
  rfl

theorem ends_recorded_ok {name : String} {routine : Run α (Answer α)} {answer : Answer α}
    (ended : ends routine u = (.ok answer, v)) : ends (recorded name routine) u = (.ok (), v.addStep name answer) := by
  rw [recorded, ends_bind, ends_outcomeOf, ended]
  rfl

def Session.noted (session : Session α) (err : Wrapper) : Session α :=
  { session with world := { session.world with journal := session.world.journal.push (.event (.trapped err.handle)) } }

section Trap

variable {routine : Run α β} {err : Wrapper}

theorem ends_trap_native (left : ends routine u = (.error (.native err), v)) :
    ends (trap routine) u = (.ok (.error err), v.noted err) := by
  rw [trap, ends_bind, ends_outcomeOf, left]
  rfl

theorem ends_trap_ok {value : β} (ended : ends routine u = (.ok value, v)) :
    ends (trap routine) u = (.ok (.ok value), v) := by
  rw [trap, ends_bind, ends_outcomeOf, ended]
  rfl

theorem ends_trap_foreign (foreign : ∀ err, payload ≠ .native err) (left : ends routine u = (.error payload, v)) :
    ends (trap routine) u = (.error payload, v) := by
  rw [trap, ends_bind, ends_outcomeOf, left]
  cases payload with
  | native err => exact absurd rfl (foreign err)
  | text message => rfl
  | number value => rfl
  | fault cause => rfl

theorem ends_hostTrap_native {routine : Run α Unit} (left : ends routine u = (.error (.native err), v)) :
    ends (hostTrap routine) u = (.ok err.handle, v.noted err) := by
  rw [hostTrap, ends_bind_ok (ends_trap_native left)]
  rfl

theorem ends_hostTrap_ok {routine : Run α Unit} (ended : ends routine u = (.ok (), v)) :
    ends (hostTrap routine) u = (.ok none, v) := by
  rw [hostTrap, ends_bind_ok (ends_trap_ok ended)]
  rfl

theorem ends_hostTrap_foreign {routine : Run α Unit} (foreign : ∀ err, payload ≠ .native err)
    (left : ends routine u = (.error payload, v)) : ends (hostTrap routine) u = (.error payload, v) := by
  rw [hostTrap, ends_bind_error (ends_trap_foreign foreign left)]

end Trap

/-- What lets one foreign payload pass, lets all of them pass. -/
theorem Op.passes_foreign (lets : op.stops (.number 0) = false) (foreign : ∀ err, payload ≠ .native err) :
    op.stops payload = false := by
  cases payload with
  | native err => exact absurd rfl (foreign err)
  | _ => cases op <;> first | rfl | cases lets

/-- And it stops nothing but native errors. -/
theorem Op.native_of_stops (lets : op.stops (.number 0) = false) (stops : op.stops payload = true) :
    ∃ err, payload = .native err := by
  by_contra foreign
  rw [Op.passes_foreign lets fun err same => foreign ⟨err, same⟩] at stops
  cases stops

theorem Op.foreign_of_passed (passes : op.stops payload = false) (traps : ∀ err, op.stops (.native err) = true) :
    ∀ err, payload ≠ .native err := by
  rintro err rfl
  rw [traps err] at passes
  cases passes

/-- Beyond the scope of its body, only one that guards a wrapper is closed. -/
def Op.unguard : Op α → Run α Unit
  | .scoped .. => closeFrame
  | _ => pure ()

/-- What an operation does not stop, leaves it when its scopes are closed. -/
theorem ends_afterBody_passed (entry : op.entry? s = some entered) (closed : ends closeFrame u = (.ok (), v))
    (passes : op.stops payload = false) (count : Nat) :
    ends (afterBody op s ⟨count, .error payload⟩) u = ends (do op.unguard; throw payload) v := by
  have left := ends_leave ⟨count, .error payload⟩ closed
  cases op with
  | act action => cases entry
  | attempt name body keep =>
    have foreign := Op.foreign_of_passed passes fun _ => rfl
    exact ends_bind_error (ends_hostTrap_foreign foreign left)
  | hostTrap name body keep =>
    have foreign := Op.foreign_of_passed passes fun _ => rfl
    exact ends_bind_error (ends_hostTrap_foreign foreign left)
  | runRoutine name body keep => exact ends_bind_error left
  | trap body value keep =>
    have foreign := Op.foreign_of_passed passes fun _ => rfl
    exact ends_bind_error (ends_trap_foreign foreign left)
  | guarded body value => exact ends_bind_error left
  | scope body => exact ends_bind_error left
  | «scoped» name body =>
    obtain ⟨⟨taken, frames⟩, found, -⟩ := Option.map_eq_some_iff.mp entry
    rw [afterBody, found]
    dsimp only
    rw [ends_bind, ends_outcomeOf, ends_bind_error left]
    rfl
  | thread body value => cases passes
  | trapFuture body value keep =>
    have foreign := Op.foreign_of_passed passes fun _ => rfl
    rw [afterBody, ends_bind_ok closed]
    cases payload with
    | native err => exact absurd rfl (foreign err)
    | text message => rfl
    | number value => rfl
    | fault cause => rfl
  | spawn body value keep => cases passes

/-- What an operation does not stop, leaves it unchanged once its scopes are closed. -/
theorem Begun.leaves (start_fair : Fair false 0 start) (begun : Begun program start above op s)
    (entry : op.entry? s = some entered) {count : Nat}
    (ran : ends (runBody op.body) entered = (.ok ⟨count, .error payload⟩, u)) (passes : op.stops payload = false)
    (quiet : (ends (runOp op) s).2.Quiet) :
    ∃ v w, ends closeFrame u = (.ok (), v) ∧ Fair payload.isWrapped payload.units v ∧ ends op.unguard v = (.ok (), w) ∧
      ends (runOp op) s = (.error payload, w.addStep op.name .unwound) := by
  obtain ⟨v, closed, fair⟩ := begun.closes start_fair entry ran quiet
  have passed := ends_afterBody_passed entry closed passes count
  rw [ends_runOp entry ran] at quiet ⊢
  suffices unguarded : ∃ w, ends op.unguard v = (.ok (), w) by
    obtain ⟨w, unguarded⟩ := unguarded
    rw [ends_bind_ok unguarded] at passed
    exact ⟨v, w, closed, fair, unguarded, ends_recorded_error passed⟩
  cases op with
  | «scoped» name body =>
    have calm := Session.course.quiet_of_order (order_recorded _ _ u) quiet
    rw [passed] at calm
    obtain ⟨w, closed, -⟩ := ends_closeFrame_fair fair
      (Session.course.quiet_of_order (order_then (Session.course.refl _) fun _ => .throw _) calm)
    exact ⟨w, closed⟩
  | _ => exact ⟨v, rfl⟩

/-- What unwinds has passed operations, the innermost first. Each was left with it when its
scopes had been closed. -/
inductive Passed (payload : Unwind) : List (Op α × Session α) → Session α → Session α → Prop
  | none {t : Session α} : Passed payload [] t t
  | next {op : Op α} {s entered t u v w : Session α} {rest : List (Op α × Session α)} {count : Nat}
      (entry : op.entry? s = some entered) (ran : ends (runBody op.body) entered = (.ok ⟨count, .error payload⟩, t))
      (closed : ends closeFrame t = (.ok (), v)) (fair : Fair payload.isWrapped payload.units v)
      (unguarded : ends op.unguard v = (.ok (), w)) (left : ends (runOp op) s = (.error payload, w.addStep op.name .unwound))
      (further : Passed payload rest (w.addStep op.name .unwound) u) : Passed payload ((op, s) :: rest) t u

theorem Passed.order (passed : Passed payload between t u) : Session.course.order t u := by
  induction passed with
  | none => exact Session.course.refl _
  | next entry ran closed fair unguarded left further ih =>
    have onward := order_runOp entry
    rw [ran, left] at onward
    exact Session.course.trans onward ih

/-- What unwinds gets to every operation above that nothing in between keeps it from. -/
theorem Begun.reaches (start_fair : Fair false 0 start) (begun : Begun program start (between ++ (op, s) :: above) inner t)
    {raised : Session α} (left : ends (runOp inner) t = (.error payload, raised))
    (passes : ∀ enclosing ∈ between, enclosing.1.stops payload = false) (quiet : (ends (runOp op) s).2.Quiet) :
    ∃ entered count u, op.entry? s = some entered ∧
      ends (runBody op.body) entered = (.ok ⟨count, .error payload⟩, u) ∧ Passed payload between raised u := by
  induction between generalizing inner t raised with
  | nil =>
    cases begun with
    | @inside _ _ _ entered _ _ outer entry along =>
      obtain ⟨count, ran⟩ := along.left_by left
      exact ⟨entered, count, raised, entry, ran, .none⟩
  | cons first rest ih =>
    obtain ⟨enclosing, r⟩ := first
    cases begun with
    | @inside _ _ _ entered _ _ outer entry along =>
      obtain ⟨count, ran⟩ := along.left_by left
      have calm : (ends (runOp enclosing) r).2.Quiet := Session.course.quiet_of_order outer.order_end quiet
      obtain ⟨v, w, closed, fair, unguarded, unwound⟩ := outer.leaves start_fair entry ran (passes _ List.mem_cons_self) calm
      obtain ⟨entered', count', u, entry', ran', passed⟩ :=
        ih outer unwound fun other member => passes other (List.mem_cons_of_mem _ member)
      exact ⟨entered', count', u, entry', ran', .next entry ran closed fair unguarded unwound passed⟩

theorem handle_of_caught {keep : Option Name} {err : Wrapper} {report : Report} {w : Session α}
    (shown : ends (caught keep err) u = (.ok report, w)) : report.handle = err.handle := by
  obtain ⟨described, after, showing, kept⟩ := ends_bind_eq_ok shown
  obtain ⟨_, _, -, reading⟩ := ends_bind_eq_ok showing
  obtain ⟨text, _, -, told⟩ := ends_bind_eq_ok reading
  obtain ⟨_, _, -, same⟩ := ends_bind_eq_ok kept
  cases told
  cases same
  rfl

theorem tells_of_concluded {ending : Ending} {w : Session α} (shown : ends (conclude payload) v = (.ok ending, w)) :
    ending.tells payload := by
  cases payload with
  | native err =>
    obtain ⟨report, after, showing, same⟩ := ends_bind_eq_ok shown
    cases same
    exact handle_of_caught showing
  | text message => cases shown; rfl
  | number value => cases shown; rfl
  | fault cause => cases shown; rfl

theorem Fair.noted {wrapped : Bool} {held : Multiset ObjectId} (fair : Fair wrapped held v) (err : Wrapper) :
    Fair wrapped held (v.noted err) := by
  obtain ⟨bound, known, linked⟩ := fair
  exact ⟨bound, known, linked.moved (continues_journal _ _) (linked.world.journal fun _ => rfl) id⟩

/-- A trapped error is shown, and the answer gives its handle. -/
theorem ends_caught_fair {keep : Option Name} {err : Wrapper} {respond : Report → Answer α}
    (fair : Fair (Unwind.isWrapped (.native err)) (Unwind.units (.native err)) v)
    (responds : ∀ report, report.handle = err.handle → (respond report).tells (.native err))
    (quiet : (ends (do return respond (← caught keep err)) (v.noted err)).2.Quiet) :
    ∃ (w : Session α) (answer : Answer α), ends (do return respond (← caught keep err)) (v.noted err) = (.ok answer, w) ∧
      answer.tells (.native err) := by
  have sim : Sim Session.course (Flown (α := α) false (.native err)) (caught keep err) (caught keep err) Eq
      (fun _ _ => Settled false 0) fun _ _ _ => False := sim_caught_held keep err
  have calm : (ends (caught keep err) (v.noted err)).2.Quiet :=
    Session.course.quiet_of_order (order_then (Session.course.refl _) fun _ => .pure _) quiet
  rcases ends_alone sim (fair.noted err) calm with ⟨report, w, shown, -⟩ | ⟨_, _, _, never⟩
  · exact ⟨w, respond report, ends_bind_ok shown, responds report (handle_of_caught shown)⟩
  · exact never.elim

theorem ends_conclude_fair {respond : Ending → Answer α} (fair : Fair payload.isWrapped payload.units v)
    (responds : ∀ ending, ending.tells payload → (respond ending).tells payload)
    (quiet : (ends (do return respond (← conclude payload)) v).2.Quiet) :
    ∃ (w : Session α) (answer : Answer α), ends (do return respond (← conclude payload)) v = (.ok answer, w) ∧
      answer.tells payload := by
  have sim : Sim Session.course (Flown (α := α) false payload) (conclude payload) (conclude payload) Eq
      (fun _ _ => Settled false 0) fun _ _ _ => False := sim_conclude payload
  have calm : (ends (conclude payload) v).2.Quiet :=
    Session.course.quiet_of_order (order_then (Session.course.refl _) fun _ => .pure _) quiet
  rcases ends_alone sim fair calm with ⟨ending, w, shown, -⟩ | ⟨_, _, _, never⟩
  · exact ⟨w, respond ending, ends_bind_ok shown, responds ending (tells_of_concluded shown)⟩
  · exact never.elim

theorem Op.entered_of_stops (entry : op.entry? s = some entered) (stops : op.stops payload = true) : entered = s.opened {} := by
  cases op with
  | attempt name body keep =>
    simp only [Op.entry?] at entry
    split at entry
    next heap found =>
      split at entry
      next booted => cases entry; rfl
      next => cases entry
    next => cases entry
  | hostTrap name body keep =>
    obtain ⟨heap, found, rfl⟩ := Option.map_eq_some_iff.mp entry
    rfl
  | act action => cases entry
  | runRoutine name body keep => cases stops
  | guarded body value => cases stops
  | scope body => cases stops
  | «scoped» name body => cases stops
  | trap body value keep => cases entry; rfl
  | thread body value => cases entry; rfl
  | trapFuture body value keep => cases entry; rfl
  | spawn body value keep => cases entry; rfl

/-- An operation that stops what unwinds, tells of it. -/
theorem Begun.stopped (start_fair : Fair false 0 start) (begun : Begun program start above op s)
    (entry : op.entry? s = some entered) {count : Nat}
    (ran : ends (runBody op.body) entered = (.ok ⟨count, .error payload⟩, u)) (stops : op.stops payload = true)
    (quiet : (ends (runOp op) s).2.Quiet) :
    ∃ (v w : Session α) (answer : Answer α), ends (asRoutine (runBody op.body)) s = (.error payload, v) ∧ Fair payload.isWrapped payload.units v ∧
      Session.course.order u v ∧ ends (runOp op) s = (.ok (), w.addStep op.name answer) ∧ answer.tells payload := by
  obtain ⟨v, closed, fair⟩ := begun.closes start_fair entry ran quiet
  have left := ends_leave ⟨count, .error payload⟩ closed
  have routine : ends (asRoutine (runBody op.body)) s = (.error payload, v) := by
    rw [Op.entered_of_stops entry stops] at ran
    rw [ends_asRoutine ran, left]
  have onward := onward_closeFrame u
  rw [closed] at onward
  rw [ends_runOp entry ran] at quiet ⊢
  suffices answered : ∃ (w : Session α) (answer : Answer α),
      ends (afterBody op s ⟨count, .error payload⟩) u = (.ok answer, w) ∧ answer.tells payload by
    obtain ⟨w, answer, answered, tells⟩ := answered
    exact ⟨v, w, answer, routine, fair, onward, ends_recorded_ok answered, tells⟩
  have calm := Session.course.quiet_of_order (order_recorded _ _ u) quiet
  cases op with
  | act action => cases entry
  | attempt name body keep =>
    obtain ⟨err, rfl⟩ := Op.native_of_stops rfl stops
    exact ⟨_, .handle err.handle, ends_bind_ok (ends_hostTrap_native left), rfl⟩
  | hostTrap name body keep =>
    obtain ⟨err, rfl⟩ := Op.native_of_stops rfl stops
    exact ⟨_, .handle err.handle, ends_bind_ok (ends_hostTrap_native left), rfl⟩
  | runRoutine name body keep => cases stops
  | trap body value keep =>
    obtain ⟨err, rfl⟩ := Op.native_of_stops rfl stops
    rw [afterBody, ends_bind_ok (ends_trap_native left)] at calm ⊢
    exact ends_caught_fair fair (fun _ same => same) calm
  | guarded body value => cases stops
  | scope body => cases stops
  | «scoped» name body => cases stops
  | thread body value =>
    rw [afterBody, ends_bind, ends_outcomeOf, left] at calm ⊢
    exact ends_conclude_fair fair (fun _ tells => tells) calm
  | trapFuture body value keep =>
    obtain ⟨err, rfl⟩ := Op.native_of_stops rfl stops
    rw [afterBody, ends_bind_ok closed] at calm ⊢
    exact ends_caught_fair fair (fun _ same => same) calm
  | spawn body value keep =>
    rw [afterBody, ends_bind, ends_outcomeOf] at calm ⊢
    by_cases native : ∃ err, payload = .native err
    · obtain ⟨err, rfl⟩ := native
      rw [ends_trap_native left] at calm ⊢
      exact ends_caught_fair fair (fun _ same => same) calm
    · rw [ends_trap_foreign (fun err same => native ⟨err, same⟩) left] at calm ⊢
      exact ends_conclude_fair fair (fun _ tells => tells) calm

theorem ends_className_fair (wrapper : Wrapper) (fair : Fair false 0 v)
    (quiet : (ends (lift wrapper.className : Run α String) v).2.Quiet) :
    ∃ className w, ends (lift wrapper.className : Run α String) v = (.ok className, w) ∧ Fair false 0 w := by
  obtain ⟨bound, -, linked⟩ := fair
  have sim : Sim Session.course (Session.Linked (α := α) false bound 0) (lift wrapper.className)
      (lift wrapper.className) Eq (fun _ _ => Session.Linked false bound 0) fun _ _ _ => False :=
    sim_lift_keeps wrapper.keeps_className
  rcases ends_alone sim linked quiet with ⟨className, w, named, -, met⟩ | ⟨_, _, _, never⟩
  · exact ⟨className, w, named, met.settled⟩
  · exact never.elim

/-- An operation whose body ran to its end answers with its own value, or with null. -/
theorem Begun.completes (start_fair : Fair false 0 start) (begun : Begun program start above op s)
    (entry : op.entry? s = some entered) {count : Nat}
    (ran : ends (runBody op.body) entered = (.ok ⟨count, .ok ()⟩, u)) (quiet : (ends (runOp op) s).2.Quiet) :
    ∃ (w : Session α) (answer : Answer α), ends (runOp op) s = (.ok (), w.addStep op.name answer) ∧
      op.completes count answer := by
  obtain ⟨v, closed, fair⟩ := begun.closes start_fair entry ran quiet
  have left := ends_leave ⟨count, .ok ()⟩ closed
  rw [ends_runOp entry ran] at quiet ⊢
  suffices answered : ∃ (w : Session α) (answer : Answer α),
      ends (afterBody op s ⟨count, .ok ()⟩) u = (.ok answer, w) ∧ op.completes count answer by
    obtain ⟨w, answer, answered, completes⟩ := answered
    exact ⟨w, answer, ends_recorded_ok answered, completes⟩
  cases op with
  | act action => cases entry
  | attempt name body keep => exact ⟨_, _, ends_bind_ok (ends_hostTrap_ok left), rfl⟩
  | hostTrap name body keep => exact ⟨_, _, ends_bind_ok (ends_hostTrap_ok left), rfl⟩
  | runRoutine name body keep => exact ⟨_, _, ends_bind_ok left, rfl⟩
  | trap body value keep => exact ⟨v, _, ends_bind_ok (ends_trap_ok left), rfl⟩
  | guarded body value => exact ⟨v, _, ends_bind_ok left, rfl⟩
  | scope body => exact ⟨v, _, ends_bind_ok left, rfl⟩
  | «scoped» name body =>
    obtain ⟨⟨taken, frames⟩, found, -⟩ := Option.map_eq_some_iff.mp entry
    have calm := Session.course.quiet_of_order (order_recorded _ _ u) quiet
    rw [afterBody, found] at calm ⊢
    dsimp only at calm ⊢
    rw [ends_bind, ends_outcomeOf, ends_bind_ok left] at calm ⊢
    have closing (outcome : Except Unwind (Answer α)) :
        Onward Session.course (do closeFrame; settle outcome : Run α (Answer α)) :=
      onward_closeFrame.bind fun _ => .settle _
    have asked : (ends (lift taken.className : Run α String) v).2.Quiet :=
      Session.course.quiet_of_order (order_then (Session.course.refl _) fun _ => .pure _)
        (Session.course.quiet_of_order (closing _ _) calm)
    obtain ⟨className, w, named, fair⟩ := ends_className_fair taken fair asked
    have answered : ends (do return Answer.className (← taken.className) : Run α (Answer α)) v = (.ok (.className className), w) :=
      ends_bind_ok named
    rw [answered] at calm ⊢
    obtain ⟨last, again, -⟩ := ends_closeFrame_fair fair
      (Session.course.quiet_of_order (order_then (Session.course.refl _) fun _ => .settle _) calm)
    exact ⟨last, _, (ends_bind_ok again).trans (ends_settle _ last), className, rfl⟩
  | thread body value =>
    rw [afterBody, ends_bind, ends_outcomeOf, left]
    exact ⟨v, _, rfl, rfl⟩
  | trapFuture body value keep => exact ⟨v, _, ends_bind_ok closed, rfl⟩
  | spawn body value keep =>
    rw [afterBody, ends_bind, ends_outcomeOf, ends_trap_ok left]
    exact ⟨v, _, rfl, rfl⟩

end CountBridge.Program
