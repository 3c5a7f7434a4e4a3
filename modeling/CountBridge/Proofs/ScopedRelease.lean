import CountBridge.Proofs.Deferral
import CountBridge.Proofs.Faults
import CountBridge.Proofs.Scopes

/-! Scopes that guard a wrapper. Whichever way such a scope is left, its wrapper is released
after all that ran within, at once and whatever the policy. Of scopes within each other the
innermost is the first to release its own. -/

namespace CountBridge

open Bridge World

/-- These were the first handles to be decremented. -/
def World.Tells (told : List ObjectId) (world : World) : Prop := told <+: decrements world.journal

section Tells

variable {told : List ObjectId}

theorem World.Tells.push {world : World} (tells : world.Tells told) (entry : Entry) :
    Tells told { world with journal := world.journal.push entry } := by
  rw [Tells, decrements_push]
  exact tells.trans (List.prefix_append _ _)

theorem World.Tells.unspent (told : List ObjectId) : Unspent (fun _ => True) (Tells told) where
  event _ tells := tells.push _
  ask _ _ _ tells := tells.push _
  breach tells := tells
  share _ _ tells := tells
  word _ _ tells := tells
  complain _ _ tells := tells
  spend _ _ tells := tells

theorem tells_record (entry : Entry) : Lasts (Tells told) (record entry) := fun _ tells => tells.push entry

theorem tells_releaseHandle (id : ObjectId) : Lasts (Tells told) (releaseHandle id) := by
  have unspent := Tells.unspent told
  have spent : Lasts (Tells told) (Bound.decrement id) :=
    lasts_get.bind fun _ => (lasts_onBound (fun _ _ => trivial) fun heap within => unspent.decrement heap within (some id)).bind fun _ =>
      (tells_record _).bind fun _ => .pure _
  exact spent.bind fun _ => tells_record _

theorem tells_releaseAll (ids : List ObjectId) : Lasts (Tells told) (releaseAll ids) := by
  induction ids with
  | nil => exact .pure ()
  | cons id rest ih => exact (tells_releaseHandle id).bind fun _ => ih

theorem tells_modifyQueue (change : Queue ObjectId → Queue ObjectId) : Lasts (Tells told) (modifyQueue change) := fun _ => id

theorem tells_collect : Lasts (Tells told) collect := by
  refine (Tells.unspent told).binding.bind fun binding => (tells_modifyQueue _).bind fun _ => ?_
  refine (tells_releaseAll _).bind fun _ => ?_
  split
  · exact (tells_record _).bind fun _ => .pure _
  · exact .pure _

theorem tells_dispose (id : ObjectId) : Lasts (Tells told) (dispose id) := by
  have asked := (Tells.unspent told).binding
  refine asked.bind fun binding => ?_
  split
  · exact tells_releaseHandle id
  · refine (tells_modifyQueue _).bind fun _ => asked.bind fun _ => (tells_record _).bind fun _ => asked.bind fun _ => ?_
    split
    · exact tells_collect.bind fun _ => .pure _
    · exact .pure _

theorem tells_drop (wrapper : Wrapper) : Lasts (Tells told) wrapper.drop := by
  obtain ⟨kind, handle⟩ := wrapper
  cases handle with
  | none => exact .pure ()
  | some id => exact tells_dispose id

theorem tells_dropAll (wrappers : List Wrapper) : Lasts (Tells told) (Wrapper.dropAll wrappers) := by
  induction wrappers with
  | nil => exact .pure ()
  | cons wrapper rest ih => exact (tells_drop wrapper).bind fun _ => ih

theorem tells_release (wrapper : Wrapper) : Lasts (Tells told) wrapper.release := by
  obtain ⟨kind, handle⟩ := wrapper
  cases handle with
  | none => exact .pure false
  | some id => exact (tells_releaseHandle id).bind fun _ => .pure true

end Tells

/-- A unit is given back by one call, which is in order; what waits in the queue goes on waiting. -/
structure World.GivesBack (id : ObjectId) (before after : World) : Prop where
  released : before.Released after {id}
  told : ∃ remaining, after.journal =
    (before.journal.push (.call (.decrement id remaining) true)).push (.event (.released id remaining))

theorem givesBack_releaseHandle {world : World} {id : ObjectId} {held : Multiset ObjectId}
    (sound : world.Sound true ({id} + held)) :
    ∃ after, ends (releaseHandle id) world = (.ok (), after) ∧ world.GivesBack id after := by
  obtain ⟨binding, found⟩ := sound.exists_binding
  obtain ⟨object, live⟩ : ∃ object, world.store.find? id = some object := sound.live_of_held (by simp)
  obtain ⟨spent, ended, repaid, silent⟩ :=
    ends_decrement_exact binding.heap (sound.exact.congr (add_left_comm _ _ _)) live
  have lawful : world.meets (.live id) = true := by simp [meets, isBound, found, Store.isLive, live]
  have asked : ends (Bound.heap >>= fun heap => Native.decrement heap (some id)) world =
      (.ok object.decrement.count, spent) := by
    have bound : ends Bound.heap world = (.ok binding.heap, world) := ends_bind_ok (ends_binding found)
    exact (ends_bind_ok bound).trans ended
  have called : ends (Bound.decrement id) world = (.ok object.decrement.count,
      { spent with journal := world.journal.push (.call (.decrement id object.decrement.count) true) }) := by
    rw [Bound.decrement, ends_after, asked, lawful, ← silent]
  exact ⟨_, (ends_bind_ok called).trans (ends_record _ _), ⟨binding, found, repaid.journal _⟩, _, rfl⟩

theorem World.GivesBack.decrements {id : ObjectId} {before after : World} (gives : before.GivesBack id after) :
    decrements after.journal = decrements before.journal ++ [id] := by
  obtain ⟨remaining, told⟩ := gives.told
  simp [told, Entry.call?, Call.given?]

/-- A guarding wrapper has been released: once, if it was not released before. -/
inductive World.Relieved : Handle → World → World → Prop
  | before {world} : Relieved none world world
  | atOnce {id before after} (gives : before.GivesBack id after) : Relieved (some id) before after

theorem World.Relieved.decrements {handle : Handle} {before after : World} (relieved : Relieved handle before after) :
    decrements after.journal = decrements before.journal ++ handle.toList := by
  cases relieved with
  | before => exact (List.append_nil _).symm
  | atOnce gives => exact gives.decrements

namespace Program

variable {α β : Type}

def Session.decremented (session : Session α) : List ObjectId :=
  session.steps.toList.flatMap (fun step => decrements step.journal) ++ decrements session.world.journal

@[simp] theorem Session.decremented_addStep (session : Session α) (name : String) (answer : Answer α) :
    (session.addStep name answer).decremented = session.decremented := by
  simp [decremented, addStep, decrements]

def telling : Course (Session α) where
  order before after := before.decremented <+: after.decremented
  refl _ := List.prefix_refl _
  trans := List.IsPrefix.trans
  quiet _ := True
  quiet' _ := True
  quiet_of_order _ _ := trivial
  quiet_of_order' _ _ := trivial

theorem telling_lift {action : Bridge β} (tells : ∀ told, Lasts (Tells told) action) :
    Onward telling (lift action : Run α β) :=
  fun session => (List.prefix_append_right_inj _).mpr (tells _ session.world (List.prefix_refl _))

theorem telling_closeFrame : Onward telling (closeFrame : Run α Unit) := by
  intro session
  rw [ends_closeFrame]
  split
  next => exact List.prefix_refl _
  next frame outer _ =>
    exact onward_leave (fun _ => telling_lift fun _ => tells_dropAll _) (fun _ => telling_lift fun _ => tells_release _) frame
      { session with frames := outer }

variable {program : List (Op α)} {start s t u v w entered left : Session α} {above between : List (Op α × Session α)}
  {op inner : Op α} {name : Name} {body : List (Op α)} {taken : Wrapper} {frames : List Frame} {payload : Unwind}
  {outcome : Except Unwind (Answer α)}

def within (taken : Wrapper) (body : List (Op α)) : Run α (Answer α) := do
  asRoutine (runBody body)
  return .className (← taken.className)

theorem guard_spared {named : List Name} {frames' : List Frame}
    (spared : List.Forall₂ (Frame.Spares named) ({ guard? := some taken } :: frames) frames') :
    ∃ outer, frames' = { guard? := some taken } :: outer := by
  cases spared with
  | @cons _ frame' _ outer spares further =>
    obtain ⟨guard?, wrappers⟩ := frame'
    obtain rfl : guard? = some taken := spares.guard
    obtain rfl : wrappers = [] := List.length_eq_zero_iff.mp (Nat.le_zero.mp spares.fewer)
    exact ⟨outer, rfl⟩

/-- The wrapper is all that is left in the scope that guards it. -/
theorem guard_within (ran : ends (within taken body) (s.opened { guard? := some taken }) = (outcome, left)) :
    ∃ outer, left.frames = { guard? := some taken } :: outer := by
  have spared := spares_asRoutine (arranges_runBody body (List.Subset.refl _)) (s.opened { guard? := some taken })
  have looked : Onward (framing (α := α)) (do return .className (← taken.className) : Run α (Answer α)) :=
    Onward.bind (fun _ => rfl) fun _ => .pure _
  have same := Onward.order_bind (fun _ => looked) (asRoutine (runBody body)) (s.opened { guard? := some taken })
  rw [← within, ran] at same
  exact guard_spared (same ▸ spared)

/-- The guarding wrapper is released at once, whatever the policy. -/
theorem Fair.relieves {wrapped : Bool} {held : Multiset ObjectId} (fair : Fair wrapped held left) {outer : List Frame}
    (guarded : left.frames = { guard? := some taken } :: outer) :
    ∃ last, ends closeFrame left = (.ok (), { left with world := last, frames := outer }) ∧
      World.Relieved taken.handle left.world last := by
  obtain ⟨bound, -, linked⟩ := fair
  obtain ⟨uncovered, known⟩ := linked.uncover guarded
  suffices released : ∃ answer last, ends taken.release left.world = (.ok answer, last) ∧
      World.Relieved taken.handle left.world last by
    obtain ⟨answer, last, released, relieved⟩ := released
    have ended : ends (lift taken.release : Run α Bool) { left with frames := outer } =
        (.ok answer, { left with world := last, frames := outer }) := by
      rw [ends_lift]
      dsimp only
      rw [released]
    refine ⟨last, ?_, relieved⟩
    rw [ends_closeFrame, guarded]
    exact ends_bind_ok ended
  obtain ⟨kind, handle⟩ := taken
  cases handle with
  | none => exact ⟨false, left.world, rfl, .before⟩
  | some id =>
    obtain rfl : bound = true := known ⟨kind, some id⟩ (by simp [Frame.contents]) nofun
    have sound : left.world.Sound true ({id} + (({ left with frames := outer } : Session α).holdings + held)) :=
      uncovered.world.sound.congr (by simp [Frame.contents])
    obtain ⟨last, released, gives⟩ := givesBack_releaseHandle sound
    exact ⟨true, last, ends_bind_ok released, .atOnce gives⟩

theorem Op.entry_scoped (found : takeWrapper name s.frames = some (taken, frames)) :
    Op.entry? (Op.scoped name body) s = some (({ s with frames }.opened { guard? := some taken }).opened {}) := by
  rw [Op.entry?, found]
  rfl

/-- How a scope is left that guards a wrapper. When what ran within has ended, the scope holds
the wrapper and nothing else; the wrapper is released; and then the operation ends as that did. -/
structure LeavesGuarded (name : Name) (body : List (Op α)) (begun : Session α) (taken : Wrapper) (frames : List Frame)
    (outcome : Except Unwind (Answer α)) (left : Session α) (last : World) : Prop where
  ran : ends (within taken body) ({ begun with frames }.opened { guard? := some taken }) = (outcome, left)
  guarded : ∃ outer, left.frames = { guard? := some taken } :: outer
  relieved : World.Relieved taken.handle left.world last
  ended : ends (runOp (.scoped name body)) begun = (outcome.map fun _ => (),
    { left with world := last, frames := left.frames.tail }.addStep "scoped" (outcome.toOption.getD .unwound))

section Guarded

variable (found : takeWrapper name s.frames = some (taken, frames))
  (ran : ends (within taken body) ({ s with frames }.opened { guard? := some taken }) = (outcome, left))

include found ran

theorem ends_scoped : ends (runOp (.scoped name body)) s = ends (recorded "scoped" do closeFrame; settle outcome) left := by
  rw [runOp]
  apply ends_recorded_congr
  rw [ends_taking, found]
  exact ends_inFrame ran

theorem Begun.fair_within (start_fair : Fair false 0 start) (begun : Begun program start above (.scoped name body) s)
    (quiet : (ends (runOp (.scoped name body)) s).2.Quiet) : ∃ wrapped held, Fair wrapped held left := by
  have calm : s.Quiet := Session.course.quiet_of_order ((runs_op (.scoped name body)).onward s) quiet
  obtain ⟨bound, known, linked⟩ := begun.fair start_fair calm
  have opened : Fair false 0 ({ s with frames }.opened { guard? := some taken }) :=
    ⟨bound, known, linked.reframed (by simp [contents_take found, Frame.contents])⟩
  have onward : Session.course.order left (ends (recorded "scoped" do closeFrame; settle outcome) left).2 :=
    Session.course.trans ((onward_closeFrame.bind fun _ => .settle _) left) (order_recorded _ _ left)
  rw [ends_scoped found ran] at quiet
  have closure : Answers false (within taken body) (within taken body) := answers_naming taken (FollowsAll.refl body).bodies
  rcases ends_alone closure opened (by rw [ran]; exact Session.course.quiet_of_order onward quiet) with
    ⟨answer, t, ended, -, fair⟩ | ⟨payload, t, ended, fair⟩
  · rw [ran] at ended
    cases ended
    exact ⟨_, _, fair⟩
  · rw [ran] at ended
    cases ended
    exact ⟨_, _, fair⟩

omit ran

theorem Begun.leaves_guarded (start_fair : Fair false 0 start) (begun : Begun program start above (.scoped name body) s)
    (quiet : (ends (runOp (.scoped name body)) s).2.Quiet) :
    ∃ outcome left last, LeavesGuarded name body s taken frames outcome left last := by
  rcases ran : ends (within taken body) ({ s with frames }.opened { guard? := some taken }) with ⟨outcome, left⟩
  obtain ⟨wrapped, held, fair⟩ := begun.fair_within found ran start_fair quiet
  obtain ⟨outer, guarded⟩ := guard_within ran
  obtain ⟨last, closed, relieved⟩ := fair.relieves guarded
  refine ⟨outcome, left, last, ran, ⟨outer, guarded⟩, relieved, ?_⟩
  have settled : ends (do closeFrame; settle outcome : Run α (Answer α)) left =
      (outcome, { left with world := last, frames := outer }) := (ends_bind_ok closed).trans (ends_settle _ _)
  rw [ends_scoped found ran, guarded]
  cases outcome with
  | ok answer => exact ends_recorded_ok settled
  | error payload => exact ends_recorded_error settled

end Guarded

def guardOf (op : Op α) (session : Session α) : List ObjectId :=
  match op with
  | .scoped name _ => (takeWrapper name session.frames).elim [] (·.1.handle.toList)
  | _ => []

/-- Operations are left with a payload, the innermost first. Of each, its wrappers are dropped
and then its guard is released, before the next one is left. -/
inductive Leaving (payload : Unwind) : List (Op α × Session α) → Session α → Session α → Prop
  | done {t : Session α} : Leaving payload [] t t
  | next {op : Op α} {s t u left : Session α} {rest : List (Op α × Session α)} (dropped : List ObjectId)
      (ended : ends (runOp op) s = (.error payload, left))
      (told : left.decremented = t.decremented ++ dropped ++ guardOf op s)
      (further : Leaving payload rest left u) : Leaving payload ((op, s) :: rest) t u

theorem Leaving.in_order (leaving : Leaving payload between t u) :
    ∃ given, u.decremented = t.decremented ++ given ∧ (between.flatMap fun (op, s) => guardOf op s).Sublist given := by
  induction leaving with
  | done => exact ⟨[], (List.append_nil _).symm, .slnil⟩
  | @next op s _ _ _ _ dropped ended told further ih =>
    obtain ⟨given, later, within⟩ := ih
    refine ⟨dropped ++ guardOf op s ++ given, ?_, ?_⟩
    · rw [later, told]
      simp only [List.append_assoc]
    · exact (List.sublist_append_right dropped (guardOf op s)).append within

theorem decremented_unguard (entry : op.entry? s = some entered) {progress : Progress}
    (ran : ends (runBody op.body) entered = (.ok progress, u)) (closed : ends closeFrame u = (.ok (), v)) {wrapped : Bool}
    {held : Multiset ObjectId} (fair : Fair wrapped held v) (unguarded : ends op.unguard v = (.ok (), w)) :
    w.decremented = v.decremented ++ guardOf op s := by
  cases op with
  | «scoped» name body =>
    obtain ⟨⟨taken, frames⟩, found, rfl⟩ := Option.map_eq_some_iff.mp entry
    have arranged := arranges_runBody body (List.Subset.refl _)
      (({ s with frames }.opened { guard? := some taken }).opened {}) (List.cons_ne_nil _ _)
    rw [show ends (runBody body) _ = _ from ran] at arranged
    have left := frames_closeFrame u
    rw [closed] at left
    obtain ⟨outer, guarded⟩ := guard_spared (left ▸ arranged.further)
    obtain ⟨last, released, relieved⟩ := fair.relieves guarded
    rw [show ends closeFrame v = _ from unguarded] at released
    cases released
    simp only [Session.decremented, relieved.decrements, guardOf, found, Option.elim_some, List.append_assoc]
  | _ =>
    cases unguarded
    exact (List.append_nil _).symm

theorem Passed.leaving (passed : Passed payload between t u) : Leaving payload between t u := by
  induction passed with
  | none => exact .done
  | @next op s entered t u v w rest count entry ran closed fair unguarded left further ih =>
    have dropping := telling_closeFrame t
    rw [closed] at dropping
    obtain ⟨dropped, told⟩ := dropping
    refine .next dropped left ?_ ih
    rw [Session.decremented_addStep, decremented_unguard entry ran closed fair unguarded, ← told]

/-- Whenever control leaves a scope that guards a wrapper, the unit that the wrapper had is given
back by one decrement, after all that ran within, and none if it was released before; the queue is
passed by, and the value or the payload is passed on. What unwinds through several such scopes, up
to the body of any operation above, finds them releasing from the innermost on; if that operation
stops it, all have done so before it is trapped. -/
theorem Begun.guards_released_on_exit (origin : Nat) (watched : Bool)
    (begun : Begun program (Session.start α origin watched) above op s)
    (fits : (ends (runOp op) s).2.world.turnedOver = false) (lawful : (ends (runOp op) s).2.world.breached = false) :
    (∀ name body taken frames, op = .scoped name body → takeWrapper name s.frames = some (taken, frames) →
      ∃ outcome left last, LeavesGuarded name body s taken frames outcome left last) ∧
    ∀ between inner t payload raised, Begun program (Session.start α origin watched) (between ++ (op, s) :: above) inner t →
      ends (runOp inner) t = (.error payload, raised) →
      (∀ enclosing ∈ between, enclosing.1.stops payload = false) →
      ∃ entered count out, op.entry? s = some entered ∧
        ends (runBody op.body) entered = (.ok ⟨count, .error payload⟩, out) ∧ Leaving payload between raised out ∧
        (∃ given, out.decremented = raised.decremented ++ given ∧
          (between.flatMap fun (op, s) => guardOf op s).Sublist given) ∧
        (op.stops payload = true → ∃ arrived last answer,
          out.decremented <+: arrived.decremented ∧ Delivered op s payload raised arrived last answer) := by
  have fair := fair_start (α := α) origin watched
  have quiet : (ends (runOp op) s).2.Quiet := ⟨fits, lawful⟩
  refine ⟨?_, fun between inner t payload raised beneath left passes => ?_⟩
  · rintro name body taken frames rfl found
    exact begun.leaves_guarded found fair quiet
  · obtain ⟨entered, count, out, entry, ran, passed⟩ := beneath.reaches fair left passes quiet
    have leaving := passed.leaving
    refine ⟨entered, count, out, entry, ran, leaving, leaving.in_order, fun stops => ?_⟩
    obtain ⟨arrived, last, answer, delivered⟩ := beneath.delivered fair left passes stops quiet
    refine ⟨arrived, last, answer, ?_, delivered⟩
    have closed : (ends closeFrame out).2 = arrived := by
      obtain ⟨v, closes, -⟩ := begun.closes fair entry ran quiet
      rw [Op.entered_of_stops entry stops] at ran
      have arrives := delivered.arrives
      rw [ends_asRoutine ran, ends_leave _ closes] at arrives
      cases arrives
      rw [closes]
    exact closed ▸ telling_closeFrame out

/-- Two guarded scopes are left with a native error, while releases are deferred. -/
theorem Begun.guards_released_on_exit_nested :
    let start := Session.start Unit Address.spacing false
    let earlier : List (Op Unit) := [
      .act (.bootstrap mainHeap { policy := .deferred, flushThreshold := 8 } hookVersion),
      .act (.newPlain mainHeap "A" (some "x")), .act (.newPlain mainHeap "B" (some "y")),
      .act (.adopt .object "x" (some "a")), .act (.adopt .hash "y" (some "b")), .act (.makeError "boom" (some "e"))]
    let op : Op Unit := .trap [.scoped "a" [.scoped "b" [.act (.raise "e")]]] () none
    ∃ (s raised out arrived last : Session Unit) (answer : Answer Unit) (given : List ObjectId),
      Begun (earlier ++ [op]) start [] op s ∧
      out.decremented = raised.decremented ++ given ∧ [1, 0].Sublist given ∧ out.decremented <+: arrived.decremented ∧
      Delivered op s (.native ⟨.error, some 3⟩) raised arrived last answer := by
  intro start earlier op
  have ran : (ends (runEach earlier) start).1 = .ok () := by cbv
  have frames : (ends (runEach earlier) start).2.frames =
      [{ wrappers := [("e", ⟨.error, some 3⟩), ("b", ⟨.hash, some 1⟩), ("a", ⟨.object, some 0⟩)] }] := by cbv
  have left : (ends (runOp (.act (.raise "e"))) { (ends (runEach earlier) start).2 with
      frames := [{}, { guard? := some ⟨.hash, some 1⟩ }, {}, { guard? := some ⟨.object, some 0⟩ }, {},
        { wrappers := [("e", ⟨.error, some 3⟩)] }] }).1 = .error (.native ⟨.error, some 3⟩) := by cbv
  have fits : (ends (runOp op) (ends (runEach earlier) start).2).2.world.turnedOver = false := by cbv
  have lawful : (ends (runOp op) (ends (runEach earlier) start).2).2.world.breached = false := by cbv
  rcases making : ends (runEach earlier) start with ⟨outcome, s⟩
  rw [making] at ran frames left fits lawful
  cases ran
  rcases raising : ends (runOp (.act (.raise "e"))) { s with
      frames := [{}, { guard? := some ⟨.hash, some 1⟩ }, {}, { guard? := some ⟨.object, some 0⟩ }, {},
        { wrappers := [("e", ⟨.error, some 3⟩)] }] } with ⟨outcome, raised⟩
  rw [raising] at left
  cases left
  have begun : Begun (earlier ++ [op]) start [] op s := .top (.of_runEach making)
  have first : takeWrapper "a" (s.opened {}).frames = some (⟨.object, some 0⟩,
      [{}, { wrappers := [("e", ⟨.error, some 3⟩), ("b", ⟨.hash, some 1⟩)] }]) := by
    rw [Session.opened, frames]
    rfl
  have second : takeWrapper "b" [{}, { guard? := some ⟨.object, some 0⟩ }, {},
      { wrappers := [("e", ⟨.error, some 3⟩), ("b", ⟨.hash, some 1⟩)] }] = some (⟨.hash, some 1⟩,
      [{}, { guard? := some ⟨.object, some 0⟩ }, {}, { wrappers := [("e", ⟨.error, some 3⟩)] }]) := rfl
  have beneath := Begun.inside (.inside (.inside begun rfl .here) (Op.entry_scoped first) .here)
    (Op.entry_scoped second) .here
  obtain ⟨_, _, out, -, -, -, ⟨given, told, order⟩, trapped⟩ :=
    (begun.guards_released_on_exit Address.spacing false fits lawful).2 [_, _] _ _ _ _ beneath raising (by simp [Op.stops])
  obtain ⟨arrived, last, answer, later, delivered⟩ := trapped rfl
  simp only [List.flatMap_cons, guardOf, first] at order
  exact ⟨s, raised, out, arrived, last, answer, given, begun, told, order, later, delivered⟩

end Program

end CountBridge
