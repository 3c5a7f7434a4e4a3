import Mathlib
import CountBridge.Proofs.Programs

/-! Putting releases off changes nothing in the end. Units that wait in the queue
keep objects alive for longer, wherever the queue is emptied in between; once all
of them are given back, the heap is the one that giving back at once leaves. -/

namespace CountBridge

open World

/-- Nothing waits any longer, so nothing keeps the right side apart. -/
theorem World.Behind.level {left right : World} (behind : left.Behind right) (empty : right.queued = 0) :
    right.store = left.store ∧ right.heaps = left.heaps := by
  have same : left.store = right.store := behind.store.of_nothing empty
  have heaps : left.heaps = _ := behind.counted
  have heaps' : right.heaps = _ := behind.counted'
  exact ⟨same.symm, by rw [heaps, heaps', same]⟩

namespace Program

variable {α : Type}

def Session.bootstrapped (α : Type) (origin : Nat) (watched : Bool) (config : Config) : Session α :=
  (ends (runTop (.act (.bootstrap mainHeap config hookVersion))) (Session.start α origin watched)).2

/-- A valid configuration is bound, and nothing else has come of that. -/
theorem bootstrapped_eq (origin : Nat) (watched : Bool) {config : Config} (valid : config.validate = .ok config) :
    ∃ steps, told steps = [("bootstrap", .current)] ∧ Session.bootstrapped α origin watched config =
      { Session.start α origin watched with
        world := { origin, heaps := #[{ booted := true }], binding? := some { heap := 0, config } }
        steps } := by
  have accepted : checkVersion hookVersion = .ok () := rfl
  have free : (Session.start α origin watched).world.binding? = none := rfl
  obtain ⟨journal, bound⟩ := ends_bootstrap_free 0 valid accepted free
  have performed : ends (perform (.bootstrap mainHeap config hookVersion)) (Session.start α origin watched) =
      (.ok (.bound config), { Session.start α origin watched with
        world := { origin, heaps := #[{ booted := true }], binding? := some { heap := 0, config }, journal } }) := by
    change ends (lift (bootstrap 0 config hookVersion) >>= _) (Session.start α origin watched) = _
    rw [ends_bind, ends_lift, bound]
    rfl
  have ran : ends (runOp (.act (.bootstrap mainHeap config hookVersion))) (Session.start α origin watched) =
      (.ok (), { Session.start α origin watched with
        world := { origin, heaps := #[{ booted := true }], binding? := some { heap := 0, config }, journal } }.addStep
          "bootstrap" (.bound config)) := by
    rw [runOp, recorded, ends_bind, ends_outcomeOf, performed]
    rfl
  rw [Session.bootstrapped, runTop, ends_bind, ends_outcomeOf, ran]
  exact ⟨_, rfl, rfl⟩

theorem linked_bootstrapped (origin : Nat) (watched : Bool) {immediate deferred : Config}
    (valid : immediate.validate = .ok immediate) (valid' : deferred.validate = .ok deferred)
    (prompt : immediate.policy = .immediate) (limit : immediate.maxTextBytes = deferred.maxTextBytes) :
    Session.Linked true true 0 (Session.bootstrapped α origin watched immediate)
      (Session.bootstrapped α origin watched deferred) := by
  obtain ⟨steps, telling, started⟩ := bootstrapped_eq (α := α) origin watched valid
  obtain ⟨steps', telling', started'⟩ := bootstrapped_eq (α := α) origin watched valid'
  rw [started, started']
  refine ⟨⟨⟨?_, ?_, fun _ => rfl⟩, nofun, fun _ => ?_⟩, nofun, ?_, ?_, rfl, nofun, telling.trans telling'.symm⟩
  · simpa [queued, Session.start, Session.holdings, Frame.contents] using Store.Exact.empty
  · intro binding found
    cases found
    rfl
  · exact ⟨.done, rfl, rfl, ⟨immediate, deferred, {}, rfl, prompt, rfl, limit⟩, rfl, rfl⟩
  · intro name heap found
    simp only [Session.start, lookup] at found
    split at found
    · cases found
      exact Nat.zero_lt_one
    · cases found
  · intro _ name heap found
    simp only [Session.start, lookup] at found
    split at found
    · cases found
      rfl
    · cases found

theorem runEach_append (before after : List (Op α)) :
    runEach (before ++ after) = runEach before >>= fun _ => runEach after := by
  induction before with
  | nil => rfl
  | cons op rest ih => rw [List.cons_append, runEach, runEach, ih, bind_assoc]

theorem sim_collect_last {unwound : Unwind → Session α → Session α → Prop} :
    Sim Session.course (Settled true 0) (pure ()) (runEach [.act .collect]) Eq
      (fun _ _ s t => Settled true 0 s t ∧ t.world.queued = 0) unwound := by
  have runs : Sim Session.course (Settled (α := α) false 0) (runEach [.act .collect]) (runEach [.act .collect]) Eq
      (fun _ _ => Settled false 0) unwound := sim_runEach (FollowsAll.refl [.act .collect])
  have onward := runs.onward
  refine ⟨.pure (), onward, ?_⟩
  rintro s t ⟨bound, -, linked⟩ - -
  obtain ⟨after, ended, moved, empty⟩ := ends_collect_further linked
  have whole : ends (runEach [.act .collect]) t = (.ok (), after) := by
    rw [runEach, runTop, ends_bind, ends_bind, ends_outcomeOf, ended]
    rfl
  rw [whole]
  exact .value rfl ⟨⟨true, fun _ => rfl, moved⟩, empty⟩

/-- A program whose releases wait in the queue, and which collects wherever it likes and once
in the end, leaves the heap and the answers that it leaves with immediate release. -/
theorem deferred_refines_immediate (origin : Nat) (watched : Bool) (config : Config) (threshold : UInt64)
    (valid : config.validate = .ok config) (positive : threshold ≠ 0) {program program' : List (Op α)}
    (collecting : FollowsAll true program program') {immediate deferred : Session α}
    (ran : immediate = (ends (runEach program)
      (Session.bootstrapped α origin watched { config with policy := .immediate })).2)
    (ran' : deferred = (ends (runEach (program' ++ [.act .collect]))
      (Session.bootstrapped α origin watched { config with policy := .deferred, flushThreshold := threshold })).2)
    (lawful : immediate.world.breached = false) (fits : immediate.world.turnedOver = false)
    (fits' : deferred.world.turnedOver = false) :
    deferred.world.store = immediate.world.store ∧ deferred.world.heaps = immediate.world.heaps ∧
      told deferred.steps = told immediate.steps := by
  obtain ⟨-, positive'⟩ := config.validate_eq_ok.mp valid
  have start : Settled true 0 (Session.bootstrapped α origin watched { config with policy := .immediate })
      (Session.bootstrapped α origin watched { config with policy := .deferred, flushThreshold := threshold }) := by
    refine ⟨true, fun _ => rfl, linked_bootstrapped origin watched ?_ ?_ rfl rfl⟩
    · exact Config.validate_eq_ok _ |>.mpr (config.validate_eq_ok.mp valid)
    · exact Config.validate_eq_ok _ |>.mpr ⟨positive, positive'⟩
  have sim : Sim Session.course (Settled true 0) (runEach program >>= fun _ => pure ())
      (runEach (program' ++ [.act .collect])) Eq (fun _ _ s t => Settled true 0 s t ∧ t.world.queued = 0)
      fun _ _ _ => False := by
    rw [runEach_append]
    exact (sim_runEach collecting).bind_eq fun _ => sim_collect_last
  have begun : (runEach program >>= fun _ => pure ()) = runEach program := bind_pure _
  rw [begun] at sim
  subst ran ran'
  rcases (sim.together _ _ start ⟨fits, lawful⟩ fits').cases with
    ⟨_, _, s, t, left, right, _, ⟨bound, _, linked⟩, empty⟩ | ⟨_, _, _, _, _, never⟩
  · rw [left, right]
    obtain ⟨store, heaps⟩ := (linked.world.behind rfl).level empty
    exact ⟨store, heaps, linked.told.symm⟩
  · exact never.elim

/-- A clone of an error waits in the queue while the other one is raised and trapped. -/
theorem deferred_refines_immediate_clone :
    let program : List (Op Unit) :=
      [.act (.makeError "boom" (some "e")), .act (.clone "e" (some "f")), .act (.dropWrapper "f"),
        .trap [.act (.raise "e")] () none]
    let program' : List (Op Unit) :=
      [.act (.makeError "boom" (some "e")), .act (.clone "e" (some "f")), .act (.dropWrapper "f"),
        .trap [.act .collect, .act (.raise "e")] () none]
    let immediate := (ends (runEach program)
      (Session.bootstrapped Unit Address.spacing false { policy := .immediate })).2
    let deferred := (ends (runEach (program' ++ [.act .collect]))
      (Session.bootstrapped Unit Address.spacing false { policy := .deferred, flushThreshold := 2 })).2
    deferred.world.store = immediate.world.store ∧ deferred.world.heaps = immediate.world.heaps ∧
      told deferred.steps = told immediate.steps := by
  refine deferred_refines_immediate Address.spacing false {} 2 rfl (by decide) ?_ rfl rfl ?_ ?_ ?_
  · refine .cons (.act nofun) (.cons (.act nofun) (.cons (.act nofun) (.cons (.trap ?_) .nil)))
    exact .collect rfl (.cons (.act nofun) .nil)
  · cbv
  · cbv
  · cbv

end Program

end CountBridge
