import CountBridge.Proofs.Heeding

/-! The contract of the object system. Whatever a program makes of the bridge, each
call on the bound system is in order when it is made, as long as callers and native
code heed what is asked of them. Safe code is asked nothing. -/

namespace CountBridge

namespace Exchange

def boots : Exchange → Bool
  | .called call _ => call.isBoot
  | _ => false

end Exchange

namespace Ledger

theorem booted_after (ledger : Ledger) (passed : List Exchange) :
    (ledger.after passed).booted = (ledger.booted || passed.any Exchange.boots) := by
  induction passed generalizing ledger with
  | nil => simp [after]
  | cons exchange rest ih =>
    change ((ledger.next exchange).after rest).booted = _
    rw [ih, List.any_cons, ← Bool.or_assoc]
    cases exchange <;> simp [next, Exchange.boots]

end Ledger

/-- The units that the bridge owns after all that passed: those that it took over and those that
its calls brought, but for those that it gave up and handed out. -/
def ownedAfter (passed : List Exchange) : Multiset ObjectId := (({} : Ledger).after passed).owned

namespace Program

variable {α : Type} {strict : Bool} {op : Op α} {s t start : Session α} {program : List (Op α)}
  {above : List (Op α × Session α)}

/-- Nothing is asked of the caller: neither a handle is named that might be that of a destroyed
object, nor does native code raise. -/
def Action.isSafe : Action → Bool
  | .newString .. | .newError .. | .increment .. | .decrement .. | .push .. | .look .. | .toString .. | .messageOf ..
  | .throwHandle .. | .hostRaise .. | .throwMessage .. | .extract .. | .stub _ | .burst .. | .hammer .. | .adopt ..
  | .ofRaw .. | .retain .. => false
  | _ => true

mutual

def Op.isSafe : Op α → Bool
  | .act action => action.isSafe
  | .attempt .. => false
  | .hostTrap _ body _ | .runRoutine _ body _ | .trap body _ _ | .guarded body _ | .scope body | .scoped _ body
  | .thread body _ | .trapFuture body _ _ | .spawn body _ _ => allSafe body

def allSafe : List (Op α) → Bool
  | [] => true
  | op :: rest => op.isSafe && allSafe rest

end

theorem Op.heeds_of_safe (safe : op.isSafe = true) : op.Heeds s ∧ op.Plain s := by
  cases op with
  | act action =>
    rw [Op.isSafe] at safe
    cases action <;> first | (cases safe; done) | exact ⟨trivial, trivial⟩
  | attempt => rw [Op.isSafe] at safe; cases safe
  | _ => exact ⟨trivial, trivial⟩

theorem Op.safe_body (safe : op.isSafe = true) : allSafe op.body = true := by
  cases op with
  | act action => rw [Op.body, allSafe]
  | attempt => rw [Op.isSafe] at safe; cases safe
  | _ => rwa [Op.isSafe] at safe

theorem Along.safe {run : Op α → Run α Unit} {body : List (Op α)} (along : Along run body s op t) (safe : allSafe body = true) :
    op.isSafe = true := by
  induction along with
  | here => exact (Bool.and_eq_true_iff.mp (by rwa [allSafe] at safe)).1
  | later ended further ih => exact ih (Bool.and_eq_true_iff.mp (by rwa [allSafe] at safe)).2

theorem Begun.safe (begun : Begun program start above op s) (safe : allSafe program = true) : op.isSafe = true := by
  induction begun with
  | top along => exact along.safe safe
  | inside outer entry along ih => exact along.safe (Op.safe_body ih)

/-- Safe code heeds what is asked of callers, whatever it does. -/
theorem heeded_of_safe (safe : allSafe program = true) (start : Session α) : Heeded strict program start := by
  intro above op s begun
  obtain ⟨heeds, plain⟩ := Op.heeds_of_safe (s := s) (begun.safe safe)
  exact ⟨heeds, fun _ => plain⟩

/-- What begins in a program begins in its first operation, or after it. -/
theorem Begun.of_cons {inner : Op α} {rest : List (Op α)} (begun : Begun (op :: rest) start above inner s) :
    Begun [op] start above inner s ∨ Begun rest (ends (runTop op) start).2 above inner s := by
  induction begun with
  | top along =>
    cases along with
    | here => exact .inl (.top .here)
    | later ended further => exact .inr (.top (by rw [ended]; exact further))
  | inside outer entry along ih => exact ih.imp (fun first => first.inside entry along) fun later => later.inside entry along

theorem Begun.of_act {action : Action} (begun : Begun [.act action] start above op s) : op = .act action ∧ s = start := by
  induction begun with
  | top along =>
    cases along with
    | here => exact ⟨rfl, rfl⟩
    | later ended further => cases further
  | inside outer entry along ih =>
    obtain ⟨rfl, -⟩ := ih
    cases entry

theorem Session.usable_of_named {name : Name} (handle : Handle) (named : s.handleNamed name = .ok handle) : s.Usable name := by
  rw [Session.Usable, named]
  exact nofun

theorem Session.canRaise_of_found {name : Name} (heap : HeapId) (found : lookup name s.heaps = some heap)
    (can : s.world.CanRaise heap) : s.CanRaise name := by
  intro other same
  rw [found] at same
  cases same
  exact can

/-- Safe code is followed by what heeds what is asked of callers. -/
theorem heeded_after_safe {rest : List (Op α)} (safe : op.isSafe = true) (further : Heeded strict rest (ends (runTop op) start).2) :
    Heeded strict (op :: rest) start := by
  intro above inner s begun
  rcases begun.of_cons with first | later
  · exact heeded_of_safe (by rw [allSafe, safe, allSafe]; rfl) start above inner s first
  · exact further above inner s later

theorem heeded_after_act {action : Action} {rest : List (Op α)} (heeds : action.Heeds start)
    (plain : strict = true → action.Plain start) (further : Heeded strict rest (ends (runTop (.act action)) start).2) :
    Heeded strict (.act action :: rest) start := by
  intro above inner s begun
  rcases begun.of_cons with first | later
  · obtain ⟨rfl, rfl⟩ := first.of_act
    exact ⟨heeds, plain⟩
  · exact further above inner s later

/-- A call that was made was in order: what the system asks of its caller held, it was booted once
before all others, no null was given to it, and the bridge owned the units that it gave up. -/
structure InOrder (passed : List Exchange) (call : Call) (lawful : Bool) : Prop where
  lawful : lawful = true
  timely : call.Timely (passed.any Exchange.boots)
  given : ¬ call.GivesNull
  owned : call.spends ≤ ownedAfter passed

theorem Ledger.Allows.inOrder {passed : List Exchange} {call : Call} {lawful : Bool}
    (allows : (({} : Ledger).after passed).Allows (.called call lawful)) : InOrder passed call lawful := by
  obtain ⟨kept, timely, given, owned⟩ := allows
  rw [Ledger.booted_after, Bool.false_or] at timely
  exact ⟨kept, timely, given, owned⟩

/-- Where callers and native code heed what is asked of them, and no counter turns over, each call
that the bridge makes is in order when it is made. None is left by a fault, which would have been
told; a fault that is told is that of native code which raises null. -/
theorem calls_in_order {origin : Nat} (heeded : Heeded true program (Session.start α origin true))
    (fits : (ends (runAll program) (Session.start α origin true)).2.world.turnedOver = false) :
    ∃ t, ends (runAll program) (Session.start α origin true) = (.ok (), t) ∧ t.world.breached = false ∧
      (∀ step ∈ t.steps, ∀ cause, step.answer.fault? = some cause → cause = .invalidError) ∧
      ∀ passed call lawful later, exchanges t.steps = passed ++ .called call lawful :: later → InOrder passed call lawful := by
  obtain ⟨value, t, ran, ⟨bound, -, balanced⟩, -⟩ := (conducts_all (fun _ => rfl) heeded fits).returns
  refine ⟨t, ran, balanced.world.unbroken, balanced.blameless, fun passed call lawful later divided => ?_⟩
  have honours := balanced.honours rfl
  rw [divided] at honours
  exact Ledger.Allows.inOrder honours.allows

/-- A native error without a message is adopted and raised. Unwinding drops a clone of it, and
dropping the error flushes both units inline: the last call gives back a unit that the bridge
still owned. -/
theorem calls_in_order_flushed :
    let program : List (Op Unit) := [.act (.bootstrap mainHeap { policy := .deferred, flushThreshold := 2 } hookVersion),
      .act (.newError mainHeap nullName (some "n")), .act (.adopt .error "n" (some "e")),
      .trap [.act (.clone "e" (some "f")), .act (.raise "e")] () (some "g"), .act (.dropWrapper "g")]
    ∃ t passed, ends (runAll program) (Session.start Unit Address.spacing true) = (.ok (), t) ∧
      exchanges t.steps = passed ++ [.called (.decrement 0 0) true] ∧ InOrder passed (.decrement 0 0) true := by
  intro program
  have heeded : Heeded true program (Session.start Unit Address.spacing true) := by
    refine heeded_after_safe rfl (heeded_after_act ?_ (fun _ => ?_) (heeded_after_act ?_ (fun _ => trivial) (heeded_of_safe (by decide) _)))
    · exact nofun
    · exact nofun
    · exact Session.usable_of_named (some 0) (by cbv)
  have fits : (ends (runAll program) (Session.start Unit Address.spacing true)).2.world.turnedOver = false := by cbv
  have last : (exchanges (ends (runAll program) (Session.start Unit Address.spacing true)).2.steps).getLast? =
      some (.called (.decrement 0 0) true) := by cbv
  obtain ⟨t, ran, -, -, orderly⟩ := calls_in_order heeded fits
  rw [ran] at last
  obtain ⟨passed, divided⟩ := List.getLast?_eq_some_iff.mp last
  exact ⟨t, passed, ran, divided, orderly passed _ _ [] divided⟩

end Program

end CountBridge
