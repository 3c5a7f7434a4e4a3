import CountBridge.Proofs.Running

/-! A program beside one that collects in more places. Both end alike, whatever
their bodies hold, and so does every program beside itself. -/

namespace CountBridge.Program

open World

variable {α : Type} {late : Bool}

mutual

/-- The second operation is the first one, but if `late` its bodies may collect in more
places; then no operation opens another heap. -/
inductive Follows (late : Bool) : Op α → Op α → Prop
  | act {action} (single : late = true → ∀ name, action ≠ .openHeap name) : Follows late (.act action) (.act action)
  | attempt {heap body body' keep} (bodies : FollowsAll late body body') :
      Follows late (.attempt heap body keep) (.attempt heap body' keep)
  | hostTrap {heap body body' keep} (bodies : FollowsAll late body body') :
      Follows late (.hostTrap heap body keep) (.hostTrap heap body' keep)
  | runRoutine {heap body body' keep} (bodies : FollowsAll late body body') :
      Follows late (.runRoutine heap body keep) (.runRoutine heap body' keep)
  | trap {body body' value keep} (bodies : FollowsAll late body body') :
      Follows late (.trap body value keep) (.trap body' value keep)
  | guarded {body body' value} (bodies : FollowsAll late body body') :
      Follows late (.guarded body value) (.guarded body' value)
  | scope {body body'} (bodies : FollowsAll late body body') : Follows late (.scope body) (.scope body')
  | scoped {wrapper body body'} (bodies : FollowsAll late body body') :
      Follows late (.scoped wrapper body) (.scoped wrapper body')
  | thread {body body' value} (bodies : FollowsAll late body body') :
      Follows late (.thread body value) (.thread body' value)
  | trapFuture {body body' value keep} (bodies : FollowsAll late body body') :
      Follows late (.trapFuture body value keep) (.trapFuture body' value keep)
  | spawn {body body' value keep} (bodies : FollowsAll late body body') :
      Follows late (.spawn body value keep) (.spawn body' value keep)

inductive FollowsAll (late : Bool) : List (Op α) → List (Op α) → Prop
  | nil : FollowsAll late [] []
  | cons {op op' rest rest'} (first : Follows late op op') (others : FollowsAll late rest rest') :
      FollowsAll late (op :: rest) (op' :: rest')
  | collect {body body'} (further : late = true) (others : FollowsAll late body body') :
      FollowsAll late body (.act .collect :: body')

end

mutual

theorem Follows.refl : (op : Op α) → Follows false op op
  | .act _ => .act nofun
  | .attempt _ body _ => .attempt (FollowsAll.refl body)
  | .hostTrap _ body _ => .hostTrap (FollowsAll.refl body)
  | .runRoutine _ body _ => .runRoutine (FollowsAll.refl body)
  | .trap body _ _ => .trap (FollowsAll.refl body)
  | .guarded body _ => .guarded (FollowsAll.refl body)
  | .scope body => .scope (FollowsAll.refl body)
  | .scoped _ body => .scoped (FollowsAll.refl body)
  | .thread body _ => .thread (FollowsAll.refl body)
  | .trapFuture body _ _ => .trapFuture (FollowsAll.refl body)
  | .spawn body _ _ => .spawn (FollowsAll.refl body)

theorem FollowsAll.refl : (body : List (Op α)) → FollowsAll false body body
  | [] => .nil
  | op :: rest => .cons (Follows.refl op) (FollowsAll.refl rest)

end

/-- A collection on the right gives back all that waits, and nothing else is told. -/
theorem ends_collect_further {bound : Bool} {s t : Session α} (linked : Session.Linked true bound 0 s t) :
    ∃ after, ends (runOp (.act .collect)) t = (.ok (), after) ∧ Session.Linked true true 0 s after ∧
      after.world.queued = 0 := by
  obtain ⟨config, config', queue, present, -, found, -⟩ := (linked.world.behind rfl).binding
  have linked : Session.Linked true true 0 s t := linked.upgrade (by simp [isBound, found])
  obtain ⟨count, after, collected, eased, empty⟩ := returns_collect linked.world.sound
  have performed : ends (perform .collect) t = (.ok (.collected count), { t with world := after }) := by
    rw [perform, ends_withBinding, found]
    change ends (lift collect >>= _) t = _
    rw [ends_bind, ends_lift, collected]
    rfl
  have ended : ends (runOp (.act .collect)) t =
      (.ok (), { t with world := after }.addStep Action.collect.name (.collected count)) := by
    rw [runOp, recorded, ends_bind, ends_outcomeOf, performed]
    rfl
  have goes : t.world.Continues after := by
    have reached := goes_collect t.world
    rwa [collected] at reached
  have moved : Session.Linked true true 0 s { t with world := after } := by
    have nothing : s.world.Released s.world 0 := .nothing present
    have sound : after.Sound true (t.holdings + 0) := eased.sound (linked.world.sound.congr (zero_add _).symm)
    exact linked.moved goes ⟨sound, Bool.noConfusion, fun _ => (linked.world.behind rfl).ease nothing eased⟩ id
  refine ⟨_, ended, ⟨moved.world.journal Bool.noConfusion, moved.idle, moved.inside, moved.single, moved.shape, Bool.noConfusion, ?_⟩, empty⟩
  rw [Session.addStep, told_push, ← moved.told]
  simp [told]

theorem sim_collect_further {unwound : Unwind → Session α → Session α → Prop} :
    Sim Session.course (Settled true 0) (pure ()) (runOp (.act .collect)) Eq (fun _ _ => Settled true 0) unwound := by
  have runs : Runs (α := α) false (runOp (.act .collect)) (runOp (.act .collect)) :=
    runs_recorded _ (sim_held fun _ _ => performs_collect)
  have onward := runs.onward
  refine ⟨.pure (), onward, ?_⟩
  rintro s t ⟨bound, -, linked⟩ - -
  obtain ⟨after, ended, moved, -⟩ := ends_collect_further linked
  rw [ended]
  exact .value rfl ⟨true, fun _ => rfl, moved⟩

/-- A body may begin with a collection that the other one does not make. -/
theorem bodies_collect (further : late = true) {body body' : Run α Progress} (bodies : Bodies late body body') :
    Bodies late body (do
      match ← outcomeOf (runOp (.act .collect)) with
      | .error payload => pure ⟨1, .error payload⟩
      | .ok () =>
        let progress ← body'
        pure { progress with begun := progress.begun + 1 }) := by
  subst further
  have begun : body = (do
      match ← outcomeOf (pure () : Run α Unit) with
      | .error payload => pure ⟨1, .error payload⟩
      | .ok () => body >>= pure) := (bind_pure body).symm
  have collected : Runs (α := α) true (pure ()) (runOp (.act .collect)) := sim_collect_further
  rw [begun]
  apply collected.outcomeOf_eq.bind_eq
  intro outcome
  cases outcome with
  | error payload => exact .pure ⟨nofun, rfl⟩ fun _ _ met => met
  | ok value =>
    apply bodies.bind (fun _ => ⟨fun _ => rfl, rfl⟩)
    intro progress progress' same
    exact .pure ⟨nofun, same.2⟩ fun _ _ met => met

mutual

theorem Follows.runs {op op' : Op α} : Follows late op op' → Runs late (runOp op) (runOp op')
  | .act single => runs_recorded _ (sim_held fun _ _ => performs _ single)
  | .attempt bodies => runs_recorded _ (answers_attempt bodies.bodies)
  | .hostTrap bodies => runs_recorded _ (answers_hostTrapped bodies.bodies)
  | .runRoutine bodies => runs_recorded _ (answers_runRoutine bodies.bodies)
  | .trap bodies => runs_recorded _ (answers_caught (runs_asRoutine bodies.bodies) _ _)
  | .guarded bodies => runs_recorded _ ((runs_asRoutine bodies.bodies).bind_eq fun _ => answers_pure _)
  | .scope bodies => runs_recorded _ ((runs_asRoutine bodies.bodies).bind_eq fun _ => answers_pure _)
  | .scoped bodies => runs_recorded _ (answers_scoped bodies.bodies)
  | .thread bodies => runs_recorded _ (answers_thread bodies.bodies _ _)
  | .trapFuture bodies => runs_recorded _ (answers_trapFuture bodies.bodies _)
  | .spawn bodies => runs_recorded _ (answers_spawn bodies.bodies _ _ _)

theorem FollowsAll.bodies {body body' : List (Op α)} : FollowsAll late body body' →
    Bodies late (runBody body) (runBody body')
  | .nil => .pure ⟨fun _ => rfl, rfl⟩ fun _ _ met => met
  | .cons first others => by
    apply first.runs.outcomeOf_eq.bind_eq
    intro outcome
    cases outcome with
    | error payload => exact .pure ⟨fun _ => rfl, rfl⟩ fun _ _ met => met
    | ok value =>
      apply others.bodies.bind (fun _ => ⟨fun _ => rfl, rfl⟩)
      intro progress progress' same
      exact .pure ⟨fun never => by rw [same.1 never], same.2⟩ fun _ _ met => met
  | .collect further others => bodies_collect further others.bodies

end

section Whole

variable {unwound : Unwind → Session α → Session α → Prop}

/-- What unwinds out of an operation of the program itself is shown and dropped. -/
theorem sim_shown {first second : Run α Unit} (runs : Runs late first second) :
    Sim Session.course (Settled late 0)
      (do match ← outcomeOf first with
        | .ok () => pure ()
        | .error payload =>
          let ending ← conclude payload
          update (·.addStep "uncaught" (.uncaught ending)))
      (do match ← outcomeOf second with
        | .ok () => pure ()
        | .error payload =>
          let ending ← conclude payload
          update (·.addStep "uncaught" (.uncaught ending)))
      Eq (fun _ _ => Settled late 0) unwound := by
  apply runs.outcomeOf_eq.bind_eq
  intro outcome
  cases outcome with
  | ok value => exact .pure rfl fun _ _ met => met
  | error payload => exact (sim_conclude payload).bind_eq fun ending => sim_addStep_held "uncaught" (.uncaught ending)

theorem sim_runTop {op op' : Op α} (follows : Follows late op op') :
    Sim Session.course (Settled late 0) (runTop op) (runTop op') Eq (fun _ _ => Settled late 0) unwound :=
  sim_shown follows.runs

theorem sim_runTop_collect (further : late = true) :
    Sim Session.course (Settled (α := α) late 0) (pure ()) (runTop (.act .collect)) Eq (fun _ _ => Settled late 0)
      unwound := by
  subst further
  exact sim_shown sim_collect_further

theorem sim_runEach {program program' : List (Op α)} : FollowsAll late program program' →
    Sim Session.course (Settled late 0) (runEach program) (runEach program') Eq (fun _ _ => Settled late 0) unwound
  | .nil => .pure rfl fun _ _ met => met
  | .cons first others => (sim_runTop first).bind_eq fun _ => sim_runEach others
  | .collect further others => (sim_runTop_collect further).bind_eq fun _ => sim_runEach others

theorem sim_runAll {program program' : List (Op α)} (follows : FollowsAll late program program') :
    Sim Session.course (Settled late 0) (runAll program) (runAll program') Eq (fun _ _ => Settled late 0) unwound :=
  (sim_runEach follows).bind_eq fun _ => sim_closeFrame_held.bind_eq fun _ => sim_addStep_held "end" .done

end Whole

end CountBridge.Program
