import CountBridge.Proofs.Enclosing

/-! Programs that heed what is asked of callers. Wherever one of their operations
begins, nothing is in hand and all that happened is told; the same is so when it
ends, or else something unwinds that nobody is to blame for. -/

namespace CountBridge.Program

variable {α : Type} {strict : Bool} {op : Op α} {s t entered start : Session α} {program body : List (Op α)}
  {above : List (Op α × Session α)}

theorem Op.entered_opened (entry : op.entry? s = some entered) : entered.frames ≠ [] := by
  cases op with
  | act action => cases entry
  | attempt name body keep =>
    simp only [Op.entry?] at entry
    split at entry
    next heap found =>
      split at entry
      next booted => cases entry; exact List.cons_ne_nil _ _
      next => cases entry
    next => cases entry
  | hostTrap name body keep =>
    obtain ⟨heap, found, rfl⟩ := Option.map_eq_some_iff.mp entry
    exact List.cons_ne_nil _ _
  | runRoutine name body keep =>
    obtain ⟨heap, found, rfl⟩ := Option.map_eq_some_iff.mp entry
    exact List.cons_ne_nil _ _
  | «scoped» name body =>
    obtain ⟨⟨taken, frames⟩, found, rfl⟩ := Option.map_eq_some_iff.mp entry
    exact List.cons_ne_nil _ _
  | trap | guarded | scope | thread | trapFuture | spawn => cases entry; exact List.cons_ne_nil _ _

theorem Op.ready_entry (entry : op.entry? s = some entered) (ready : Ready strict s) : Ready strict entered := by
  obtain ⟨frames, same, rfl⟩ := Op.entry_eq entry
  obtain ⟨⟨bound, told, balanced⟩, silent⟩ := ready
  refine ⟨⟨bound, told, balanced.rebook ?_ ?_ fun unknown wrapper member => ?_⟩, silent⟩
  · rw [Session.holdings, same]
  · rw [same]
  · exact balanced.idle unknown wrapper (same ▸ member)

/-- An operation that is not entered is refused, if its caller heeds what is asked. -/
theorem refused_of_unentered (missing : op.entry? s = none) (composed : ∀ action, op ≠ .act action) (heeds : op.Heeds s) :
    ∃ refusal, refusal ≠ .deadHandle ∧ ends (runOp op) s = ends (recorded op.name (refuse refusal)) s := by
  cases op with
  | act action => exact absurd rfl (composed action)
  | attempt name body keep =>
    cases found : lookup name s.heaps with
    | none => exact ⟨.noSuchHeap, by decide, ends_recorded_congr _ (by rw [ends_withHeap, found])⟩
    | some heap =>
      have booted : (s.world.heaps[heap]?.getD {}).booted = true := heeds heap found
      simp only [Op.entry?, found, booted, if_true] at missing
      cases missing
  | hostTrap name body keep =>
    exact ⟨.noSuchHeap, by decide, ends_recorded_congr _ (by rw [ends_withHeap, Option.map_eq_none_iff.mp missing])⟩
  | runRoutine name body keep =>
    exact ⟨.noSuchHeap, by decide, ends_recorded_congr _ (by rw [ends_withHeap, Option.map_eq_none_iff.mp missing])⟩
  | «scoped» name body =>
    exact ⟨.noSuchWrapper, by decide, ends_recorded_congr _ (by rw [ends_taking, Option.map_eq_none_iff.mp missing])⟩
  | trap | guarded | scope | thread | trapFuture | spawn => cases missing

/-- What is asked of callers is done wherever an operation begins. -/
def Heeded (strict : Bool) (program : List (Op α)) (start : Session α) : Prop :=
  ∀ above op s, Begun program start above op s → op.Heeds s ∧ (strict = true → op.Plain s)

abbrev Conducts (strict : Bool) (op : Op α) (s : Session α) : Prop :=
  Ready strict s → Session.course.quiet' (ends (runOp op) s).2 → Met (fun _ => Ready strict) (Left strict) (ends (runOp op) s)

abbrev ConductsAll (strict : Bool) (body : List (Op α)) (s : Session α) : Prop :=
  Ready strict s → Session.course.quiet' (ends (runBody body) s).2 →
    Met (fun progress => progress.Came strict) Nowhere (ends (runBody body) s)

theorem conducts_act {action : Action} (heeds : action.Heeds s) (plain : strict = true → action.Plain s) :
    Conducts strict (.act action) s := by
  intro ready quiet
  by_cases raises : ∃ name, action = .raise name
  · obtain ⟨name, rfl⟩ := raises
    exact (upholds_raise name).met s ready quiet
  · have others (name : Name) : action ≠ .raise name := fun same => raises ⟨name, same⟩
    have unraised : action.name ≠ "raise" := by
      cases action <;> first | (exact absurd rfl (others _)) | simp [Action.name]
    exact (upholds_recorded unraised (upholds_perform action others)).met s ⟨ready.1, heeds, plain⟩ quiet

theorem Op.unraised (composed : ∀ action, op ≠ .act action) : op.name ≠ "raise" := by
  cases op <;> first | (exact absurd rfl (composed _)) | simp [Op.name]

theorem conducts_enclosing (composed : ∀ action, op ≠ .act action) (heeds : op.Heeds s)
    (encloses : ∀ entered, op.entry? s = some entered → ConductsAll strict op.body entered) : Conducts strict op s := by
  intro ready quiet
  cases entry : op.entry? s with
  | none =>
    obtain ⟨refusal, alive, refused⟩ := refused_of_unentered entry composed heeds
    rw [refused] at quiet ⊢
    exact (upholds_recorded (Op.unraised composed) (upholds_refuse refusal alive fun _ tidy => tidy)).met s ready.1 quiet
  | some entered =>
    obtain ⟨progress, u, ran⟩ := runBody_returns op.body entered
    have calm := Session.course.quiet_of_order' (order_runOp entry) quiet
    have came := encloses entered entry (Op.ready_entry entry ready) calm
    have guards := guards_runBody op.body entered (Op.entered_opened entry)
    rw [ran] at came guards
    rw [ends_runOp entry ran] at quiet ⊢
    exact (upholds_recorded (Op.unraised composed) (upholds_afterBody entry progress)).met u ⟨came, guards⟩ quiet

-- By recursion on the operations. That each of a body begins in the program, and so heeds what is
-- asked of its caller, is carried along the body.
mutual

theorem conducts_op (heeded : Heeded strict program start) :
    (op : Op α) → ∀ {above s}, Begun program start above op s → Conducts strict op s
  | .act _ => fun begun => conducts_act (heeded _ _ _ begun).1 (heeded _ _ _ begun).2
  | .attempt _ body _ | .hostTrap _ body _ | .runRoutine _ body _ | .trap body _ _ | .guarded body _ | .scope body
  | .scoped _ body | .thread body _ | .trapFuture body _ _ | .spawn body _ _ => fun begun =>
    conducts_enclosing (fun _ same => by cases same) (heeded _ _ _ begun).1 fun _ entry =>
      conducts_body heeded body _ fun _ _ along => ⟨_, begun.inside entry along⟩

theorem conducts_body (heeded : Heeded strict program start) :
    (body : List (Op α)) → ∀ s, (∀ inner t, Along runOp body s inner t → ∃ above, Begun program start above inner t) →
      ConductsAll strict body s
  | [] => fun _ _ ready _ => ready.1
  | op :: rest => fun s begins ready quiet => by
    obtain ⟨above, begun⟩ := begins op s .here
    have met := conducts_op heeded op begun ready (Session.course.quiet_of_order' Along.here.order_end quiet)
    rw [runBody, ends_bind, ends_outcomeOf] at quiet ⊢
    rcases ended : ends (runOp op) s with ⟨payload | value, t⟩
    · rw [ended] at met
      exact met.1
    · rw [ended] at met quiet
      obtain ⟨progress, u, ran⟩ := runBody_returns rest t
      dsimp only at quiet ⊢
      rw [ends_bind_ok ran] at quiet ⊢
      have further := conducts_body heeded rest t (fun inner t along => begins inner t (.later ended along)) met (by rw [ran]; exact quiet)
      rw [ran] at further
      exact further

end

/-- What unwinds to the program itself is told there, and dropped. -/
theorem upholds_uncaught (payload : Unwind) :
    Upholds Session.course (Adrift (α := α) strict payload) (do
        let ending ← conclude payload
        update (·.addStep "uncaught" (.uncaught ending)) : Run α Unit)
      (fun _ => Ready strict) Nowhere := by
  apply (upholds_conclude payload).bind
  intro ending
  refine (upholds_addStep (by decide)).strengthen fun session concluded => ?_
  refine Tidy.answered concluded.1 ⟨by decide, by decide⟩ fun cause told => concluded.2 cause ?_
  cases ending <;> cases told
  rfl

theorem conducts_top (heeded : Heeded strict program start) (begun : Begun program start [] op s) (ready : Ready strict s)
    (quiet : Session.course.quiet' (ends (runTop op) s).2) :
    Met (fun _ => Ready strict) Nowhere (ends (runTop op) s) := by
  have onward : Session.course.order (ends (runOp op) s).2 (ends (runTop op) s).2 := by
    apply order_then (order_outcomeOf (Session.course.refl _))
    intro outcome
    cases outcome with
    | ok value => exact .pure _
    | error payload =>
      have told : Upholds Session.course (Adrift (α := α) strict payload) _ (fun _ => Ready strict) Nowhere := upholds_uncaught payload
      exact told.onward
  have met := conducts_op heeded op begun ready (Session.course.quiet_of_order' onward quiet)
  rw [runTop, ends_bind, ends_outcomeOf] at quiet ⊢
  rcases ended : ends (runOp op) s with ⟨payload | value, t⟩
  · rw [ended] at met quiet
    exact (upholds_uncaught payload).met t met.1 quiet
  · rw [ended] at met
    exact met

theorem onward_runEach (program : List (Op α)) : Onward Session.course (runEach program) := by
  have sim : Sim Session.course (Settled (α := α) false 0) (runEach program) (runEach program) Eq (fun _ _ => Settled false 0)
      fun _ _ _ => False := sim_runEach (FollowsAll.refl program)
  exact sim.onward

theorem conducts_each (heeded : Heeded strict program start) (rest : List (Op α))
    (begins : ∀ inner t, Along runTop rest s inner t → Begun program start [] inner t) (ready : Ready strict s)
    (quiet : Session.course.quiet' (ends (runEach rest) s).2) : Met (fun _ => Ready strict) Nowhere (ends (runEach rest) s) := by
  induction rest generalizing s with
  | nil => exact ready
  | cons op rest ih =>
    have met := conducts_top heeded (begins op s .here) ready
      (Session.course.quiet_of_order' (Onward.order_bind (fun _ => onward_runEach rest) (runTop op) s) quiet)
    obtain ⟨value, t, ended, still⟩ := met.returns
    rw [runEach, ends_bind_ok ended] at quiet ⊢
    exact ih (fun inner u along => begins inner u (.later ended along)) still quiet

theorem upholds_last :
    Upholds Session.course (Ready (α := α) strict) (do closeFrame; update (·.addStep "end" .done) : Run α Unit)
      (fun _ => Ready strict) Nowhere := by
  refine Upholds.bind (upholds_closeFrame.strengthen fun _ ready => ready.1) fun _ => (upholds_addStep (by decide)).strengthen ?_
  exact fun _ tidy => Tidy.answered tidy ⟨by decide, by decide⟩ (Answer.blameless_of_none rfl)

theorem ready_start (origin : Nat) {watched : Bool} (seen : strict = true → watched = true) :
    Ready strict (Session.start α origin watched) := by
  have empty : contents (Session.start α origin watched).frames = 0 := by simp [Session.start, Frame.contents]
  have nothing : (Session.start α origin watched).holdings = 0 := by rw [Session.holdings, empty]; rfl
  refine ⟨⟨false, Bool.noConfusion, ⟨?_, ?_, ?_, seen, fun _ => trivial, ?_⟩⟩, rfl⟩
  · rw [nothing, empty]
    have free (binding : Binding) : (Session.start α origin watched).world.binding? ≠ some binding := by simp [Session.start]
    refine ⟨⟨?_, fun binding found => absurd found (free binding), Bool.noConfusion⟩, rfl, rfl,
      fun binding found => absurd found (free binding), rfl, fun _ => ⟨rfl, ?_, trivial, rfl⟩⟩
    · simpa [World.queued, Session.start] using Store.Exact.empty
    · intro id object mess found
      cases found
  · intro _ wrapper member
    rw [empty] at member
    cases member
  · intro name heap found
    simp only [Session.start, lookup] at found
    split at found
    · cases found
      exact Nat.zero_lt_one
    · cases found
  · intro step member
    exact absurd member (Array.not_mem_empty step)

/-- A whole run keeps the books, if what is asked of callers is done wherever an operation begins. -/
theorem conducts_all {origin : Nat} {watched : Bool} (seen : strict = true → watched = true)
    (heeded : Heeded strict program (Session.start α origin watched))
    (quiet : Session.course.quiet' (ends (runAll program) (Session.start α origin watched)).2) :
    Met (fun _ => Ready strict) Nowhere (ends (runAll program) (Session.start α origin watched)) := by
  have last : Upholds Session.course (Ready (α := α) strict) _ (fun _ => Ready strict) Nowhere := upholds_last
  have calm := Session.course.quiet_of_order' (Onward.order_bind (fun _ => last.onward) (runEach program) _) quiet
  have met := conducts_each heeded program (fun _ _ along => .top along) (ready_start origin seen) calm
  obtain ⟨value, t, ended, still⟩ := met.returns
  rw [runAll, ends_bind_ok ended] at quiet ⊢
  exact last.met t still quiet

end CountBridge.Program
