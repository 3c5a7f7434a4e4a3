import CountBridge.Proofs.Sessions

/-! Two sessions of the same program alongside each other. They differ in nothing
but their worlds and steps; the steps of one that is behind tell the same, apart
from counts and from what a collection finds. -/

namespace CountBridge.Program

open World

variable {α β : Type}

/-- An answer without the counts in it, nor the configuration. Whether a handle is alive is
a count too. -/
def Answer.blur : Answer α → Answer α
  | .counted subject _ => .counted subject 0
  | .remaining _ => .remaining 0
  | .heap counters => .heap { counters with live := 0 }
  | .object id found => .object id { found with count := 0 }
  | .alive _ => .alive false
  | .bound _ => .current
  | .binding _ => .current
  | .collected _ => .collected 0
  | .burst .. => .burst 0 0
  | .hammered equal _ => .hammered equal 0
  | .polled outcome _ => .polled outcome 0
  | answer => answer

/-- The answers of a run, without those to collections. -/
def told (steps : Array (Step α)) : List (String × Answer α) :=
  (steps.toList.filter (·.op ≠ Action.collect.name)).map fun step => (step.op, step.answer.blur)

theorem told_push (steps : Array (Step α)) (step : Step α) :
    told (steps.push step) = told steps ++ told #[step] := by
  simp [told]

/-- Answers that differ at most in counts, and only if one run is behind. -/
abbrev Alike (late : Bool) : Answer α → Answer α → Prop := Agree late fun first second => first.blur = second.blur

theorem Alike.refl {late : Bool} (answer : Answer α) : Alike late answer answer :=
  ⟨fun _ => rfl, rfl⟩

namespace Session

structure Linked (late bound : Bool) (held : Multiset ObjectId) (left right : Session α) : Prop where
  world : World.Linked late bound (right.holdings + held) left.world right.world
  idle : bound = false → ∀ wrapper ∈ contents right.frames, wrapper.handle = none
  inside : ∀ name heap, lookup name right.heaps = some heap → heap < right.world.heaps.size
  single : late = true → ∀ name heap, lookup name right.heaps = some heap → heap = 0
  shape : left = { right with world := left.world, steps := left.steps }
  steps : late = false → left.steps = right.steps
  told : told left.steps = told right.steps

def course : Course (Session α) where
  order first second := first.world.Continues second.world
  refl session := World.Continues.refl session.world
  trans := World.Continues.trans
  quiet session := World.course.quiet session.world
  quiet' session := World.course.quiet' session.world
  quiet_of_order := World.course.quiet_of_order
  quiet_of_order' := World.course.quiet_of_order'

variable {late bound : Bool} {held more : Multiset ObjectId} {left right : Session α}

theorem Linked.same (linked : Linked late bound held left right) (prompt : late = false) : left = right := by
  rw [linked.shape, linked.world.same prompt, linked.steps prompt]

theorem Linked.congr (linked : Linked late bound held left right) (same : held = more) :
    Linked late bound more left right := same ▸ linked

theorem Linked.heaps (linked : Linked late bound held left right) : left.heaps = right.heaps := by
  rw [linked.shape]

theorem Linked.units (linked : Linked late bound held left right) : left.units = right.units := by
  rw [linked.shape]

theorem Linked.frames (linked : Linked late bound held left right) : left.frames = right.frames := by
  rw [linked.shape]

theorem Linked.watched (linked : Linked late bound held left right) : left.watched = right.watched := by
  rw [linked.shape]

theorem Linked.meaning? (linked : Linked late bound held left right) (name : Name) :
    left.meaning? name = right.meaning? name := by
  rw [linked.shape]
  rfl

/-- A world that is known to be bound may be relied on to be. -/
theorem Linked.upgrade (linked : Linked late bound held left right) (known : right.world.isBound = true) :
    Linked late true held left right :=
  ⟨linked.world.upgrade known, nofun, linked.inside, linked.single, linked.shape, linked.steps,
    linked.told⟩

/-- A change of what the program itself keeps, which may take units in hand or hand some out. -/
theorem Linked.rebook (linked : Linked late bound held left right) (change : Session α → Session α)
    (apart : ∀ session world steps, change { session with world, steps } = { change session with world, steps })
    (heaps : (change right).heaps = right.heaps)
    (paid : (change right).holdings + more = right.holdings + held)
    (idle : bound = false → ∀ wrapper ∈ contents (change right).frames, wrapper.handle = none) :
    Linked late bound more (change left) (change right) := by
  have shape : change left = { change right with world := left.world, steps := left.steps } := by
    rw [linked.shape, apart]
  have own : change right = { change right with world := right.world, steps := right.steps } := apart right _ _
  have world : (change right).world = right.world := by rw [own]
  have steps : (change right).steps = right.steps := by rw [own]
  refine ⟨?_, idle, ?_, ?_, ?_, ?_, ?_⟩
  · rw [shape, world, paid]
    exact linked.world
  · rw [heaps, world]
    exact linked.inside
  · rw [heaps]
    exact linked.single
  · rw [shape]
  · rw [shape, steps]
    exact linked.steps
  · rw [shape, steps]
    exact linked.told

/-- What happens to the worlds leaves the rest as it is. -/
theorem Linked.moved {known : Bool} {before after : World} (linked : Linked late bound held left right)
    (onward : right.world.Continues after) (met : World.Linked late known (right.holdings + more) before after)
    (learnt : known = false → bound = false) :
    Linked late known more { left with world := before } { right with world := after } := by
  refine ⟨met, fun unknown => linked.idle (learnt unknown), fun name heap found => ?_, linked.single, ?_, linked.steps, linked.told⟩
  · exact (linked.inside name heap found).trans_le onward.heaps
  · rw [linked.shape]

end Session

open Session

variable {late bound : Bool} {needs held : Multiset ObjectId} {agree : β → β → Prop}
  {gives : β → Multiset ObjectId} {post : Answer α → Answer α → Session α → Session α → Prop}
  {unwound : Unwind → Session α → Session α → Prop}

def Held (late wrapped : Bool) (held : Multiset ObjectId) (left right : Session α) : Prop :=
  ∃ bound, (wrapped = true → bound = true) ∧ Session.Linked late bound held left right

abbrev Settled (late : Bool) (held : Multiset ObjectId) : Session α → Session α → Prop := Held late false held

abbrev Flown (late : Bool) (payload : Unwind) : Session α → Session α → Prop :=
  Held late payload.isWrapped payload.units

abbrev Performs (late bound : Bool) (held : Multiset ObjectId) (routine : Run α (Answer α)) : Prop :=
  Sim Session.course (Session.Linked late bound held) routine routine (Alike late) (fun _ _ => Settled late 0)
    (Flown late)

theorem ends_lift (action : Bridge β) (session : Session α) :
    ends (lift action : Run α β) session =
      ((ends action session.world).1, { session with world := (ends action session.world).2 }) := rfl

theorem ends_update (change : Session α → Session α) (session : Session α) :
    ends (update change) session = (.ok (), change session) := rfl

theorem ends_session (session : Session α) : ends CountBridge.Program.session session = (.ok session, session) := rfl

theorem goes_lift {action : Bridge β} (goes : Goes action) : Onward Session.course (lift action : Run α β) :=
  fun session => goes session.world

/-- A routine of the bridge inside of a program. -/
theorem sim_lift {first second : Bridge β} {exit : Exit} (keeps : Keeps late bound exit needs first second agree gives)
    (slacken : ∀ payload left right (s t : Session α), Session.Linked late bound (needs + held) s t →
      t.world.Continues right → exit (t.holdings + held) payload left right →
      unwound payload { s with world := left } { t with world := right }) :
    Sim Session.course (Session.Linked late bound (needs + held)) (lift first : Run α β) (lift second) agree
      (fun value _ => Session.Linked late bound (gives value + held)) unwound := by
  refine ⟨goes_lift (keeps 0).onward, goes_lift (keeps 0).onward', fun s t linked quiet quiet' => ?_⟩
  have world : World.Linked late bound (needs + (t.holdings + held)) s.world t.world :=
    linked.world.congr (add_left_comm _ _ _)
  have onward' := (keeps (t.holdings + held)).onward' t.world
  have together := (keeps (t.holdings + held)).together s.world t.world world quiet quiet'
  rw [ends_lift, ends_lift]
  generalize ends first s.world = left at together
  generalize ends second t.world = right at together onward'
  cases together with
  | value same met => exact .value same (linked.moved onward' (met.congr (add_left_comm _ _ _)) id)
  | unwind met => exact .unwind (slacken _ _ _ s t linked onward' met)

/-- What is in hand besides is there afterwards. -/
theorem sim_lift_spends {first second : Bridge β} (settles : Settles late bound needs first second agree fun _ => 0) :
    Sim Session.course (Session.Linked late bound (needs + held)) (lift first : Run α β) (lift second) agree
      (fun _ _ => Session.Linked late bound held) unwound := by
  have sim : Sim Session.course (Session.Linked late bound (needs + held)) (lift first : Run α β) (lift second) agree
      (fun _ _ => Session.Linked late bound (0 + held)) unwound :=
    sim_lift settles fun _ _ _ _ _ _ _ never => never.elim
  simpa only [zero_add] using sim

theorem sim_lift_keeps {first second : Bridge β} (settles : Settles late bound 0 first second agree fun _ => 0) :
    Sim Session.course (Session.Linked late bound held) (lift first : Run α β) (lift second) agree
      (fun _ _ => Session.Linked late bound held) unwound := by
  have sim : Sim Session.course (Session.Linked late bound (0 + held)) (lift first : Run α β) (lift second) agree
      (fun _ _ => Session.Linked late bound held) unwound := sim_lift_spends settles
  simpa only [zero_add] using sim

theorem sim_lift_escapes {first second : Bridge β}
    (keeps : Keeps late bound (Escapes late bound) needs first second agree gives) :
    Sim Session.course (Session.Linked late bound needs) (lift first : Run α β) (lift second) agree
      (fun value _ => Session.Linked late bound (gives value)) (Flown late) := by
  have sim : Sim Session.course (Session.Linked late bound (needs + 0)) (lift first : Run α β) (lift second) agree
      (fun value _ => Session.Linked late bound (gives value + 0)) (Flown late) := by
    apply sim_lift keeps
    intro payload left right s t linked onward escaped
    refine ⟨bound || payload.isWrapped, by simp +contextual, linked.moved onward ?_ ?_⟩
    · exact escaped.congr (by rw [add_zero, add_comm])
    · simp +contextual
  simpa only [add_zero] using sim

end CountBridge.Program
