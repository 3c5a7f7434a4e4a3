import CountBridge.Proofs.RoundTrip
import CountBridge.Proofs.ScopedRelease

/-! The life of a wrapper, from the unit that it is made with. Whatever is done with it, and
whatever happens in between, that one unit leaves it: it is given back at once, put into the
queue, or handed out. From then on nothing comes of using the wrapper. -/

namespace CountBridge

open Bridge World

inductive World.Defers (binding : Binding) (id : ObjectId) (before : World) : World → Prop
  | waits (few : (binding.queue.defer id).pending < binding.config.flushThreshold.toNat) :
      Defers binding id before (before.deferring binding id)
  | overflows {after : World} (many : binding.config.flushThreshold.toNat ≤ (binding.queue.defer id).pending)
      (collected : ends collect (before.deferring binding id) = (.ok (binding.queue.defer id).pending, after)) :
      Defers binding id before after

theorem defers_deferRelease {world after : World} {binding : Binding} {id : ObjectId} (found : world.binding? = some binding)
    (ended : ends (deferRelease id) world = (.ok (), after)) : world.Defers binding id after := by
  rw [ends_deferRelease found] at ended
  split at ended
  next many =>
    obtain ⟨count, last, collected, done⟩ := ends_bind_eq_ok ended
    obtain rfl : last = after := congrArg Prod.snd done
    have all := (passes_collect (binding_deferring found id) collected).1
    exact .overflows many (all ▸ collected)
  next few =>
    obtain rfl : world.deferring binding id = after := congrArg Prod.snd ended
    exact .waits (Nat.lt_of_not_le few)

/-- If the wrapper points at an object, it has one unit of that, and the accounts are exact. -/
def Wrapper.Stands (wrapper : Wrapper) (world : World) : Prop :=
  ∀ id, wrapper.handle = some id → ∃ others, world.Sound true ({id} + others)

namespace Lifetime

inductive Source where
  | adopt (kind : WrapperKind) (id : ObjectId)
  | ofRaw (kind : WrapperKind) (id : ObjectId)
  | retain (kind : WrapperKind) (id : ObjectId)
  | clone (kind : WrapperKind) (id : ObjectId)
  | newString (text : String)
  | newError (text : String)
  | trap (id : ObjectId)

namespace Source

def takes : Source → Multiset ObjectId
  | .adopt _ id | .ofRaw _ id | .trap id => {id}
  | .retain .. | .clone .. | .newString _ | .newError _ => 0

def carryOut : Source → Bridge (Option Wrapper)
  | .adopt kind id => pure (Wrapper.adopt kind (some id)).toOption
  | .ofRaw kind id => pure (Wrapper.ofRaw? kind (some id))
  | .retain kind id => Except.toOption <$> Wrapper.retain kind (some id)
  | .clone kind id => some <$> Wrapper.clone ⟨kind, some id⟩
  | .newString text => Except.toOption <$> CountBridge.newString text
  | .newError text => some <$> CountBridge.newError text
  | .trap id => do
    match ← CountBridge.trap (hostRaise (some id) : Bridge Unit) with
    | .ok () => pure none
    | .error err => pure (some err)

theorem settles (source : Source) :
    Settles false true source.takes source.carryOut source.carryOut Eq fun made => made.elim 0 (unitOf ·.handle) := by
  cases source with
  | adopt kind id => exact .pure rfl rfl
  | ofRaw kind id => exact .pure rfl rfl
  | retain kind id => exact (Wrapper.keeps_retain kind (some id) fun _ => rfl).map fun _ => rfl
  | clone kind id => exact (Wrapper.keeps_clone ⟨kind, some id⟩ fun _ => rfl).map fun _ => rfl
  | newString text => exact (keeps_newString text).map fun _ => rfl
  | newError text => exact (keeps_newError text).map fun _ => rfl
  | trap id =>
    have raises : Raises false true {id} (hostRaise (some id) : Bridge Unit) (hostRaise (some id)) Eq fun _ => 0 :=
      raises_hostRaise id
    refine raises.trap.bind_eq fun outcome => ?_
    cases outcome with
    | ok value => exact .pure rfl rfl
    | error err => exact .pure rfl rfl

/-- What is made points at an object. -/
theorem made_some {world after : World} {wrapper : Wrapper} {source : Source} (bound : world.isBound = true)
    (ended : ends source.carryOut world = (.ok (some wrapper), after)) : ∃ id, wrapper.handle = some id := by
  obtain ⟨binding, found⟩ := Option.isSome_iff_exists.mp bound
  cases source with
  | adopt kind id => cases ended; exact ⟨id, rfl⟩
  | ofRaw kind id => cases ended; exact ⟨id, rfl⟩
  | retain kind id =>
    rw [carryOut, map_eq_pure_bind] at ended
    obtain ⟨made, middle, retained, same⟩ := ends_bind_eq_ok ended
    obtain ⟨_, last, taken, done⟩ := ends_bind_eq_ok retained
    cases done
    cases same
    exact ⟨id, rfl⟩
  | clone kind id =>
    rw [carryOut, map_eq_pure_bind] at ended
    obtain ⟨made, middle, cloned, same⟩ := ends_bind_eq_ok ended
    obtain ⟨_, last, taken, done⟩ := ends_bind_eq_ok cloned
    cases done
    cases same
    exact ⟨id, rfl⟩
  | newString text =>
    rw [carryOut, ends_map, ends_newString found] at ended
    split at ended
    · cases ended
    · cases ended
      exact ⟨_, rfl⟩
  | newError text =>
    rw [carryOut, map_eq_pure_bind] at ended
    obtain ⟨made, middle, worded, same⟩ := ends_bind_eq_ok ended
    obtain ⟨binding', limited, known, worded⟩ := ends_bind_eq_ok worded
    obtain ⟨mess, written, texted, worded⟩ := ends_bind_eq_ok worded
    obtain ⟨id, last, called, done⟩ := ends_bind_eq_ok worded
    cases done
    cases same
    exact ⟨id, rfl⟩
  | trap id =>
    have raised : ends (outcomeOf (hostRaise (some id) : Bridge Unit)) world =
        ends (outcomeOf (raise ⟨.error, some id⟩)) world := by
      rw [ends_outcomeOf, ends_outcomeOf, ends_hostRaise found]
    rw [carryOut, CountBridge.trap, bind_assoc, ends_bind, raised] at ended
    cases ended
    exact ⟨id, rfl⟩

end Source

/-- The last three end its life. A scope that guards it is left with `leave`. -/
inductive Use where
  | release
  | clone
  | handle
  | className
  | message
  | convert (kind : WrapperKind)
  | raise
  | trap
  | drop
  | leave
  | intoRaw
deriving DecidableEq

inductive Reply where
  | done
  | released (given : Bool)
  | copy (made : Wrapper)
  | handle (found : Handle)
  | text (text : String)
  | handedOut (handle : Handle)
deriving DecidableEq

def Reply.units : Reply → Multiset ObjectId
  | .copy made => unitOf made.handle
  | .handedOut given => unitOf given
  | .done | .released _ | .handle _ | .text _ => 0

namespace Use

def isLast : Use → Bool
  | .drop | .leave | .intoRaw => true
  | _ => false

/-- Answers with the wrapper as it is afterwards. One that is raised travels with what unwinds.
What is left of a wrapper when its life ends, is dropped in any case. -/
def carryOut (wrapper : Wrapper) : Use → Bridge (Reply × Wrapper)
  | .release => return (.released (← wrapper.release), wrapper.released)
  | .clone => return (.copy (← wrapper.clone), wrapper)
  | .handle => pure (.handle wrapper.handle, wrapper)
  | .className => return (.text (← wrapper.className), wrapper)
  | .message => return (.text (← wrapper.message), wrapper)
  | .convert kind => pure (.done, wrapper.convert kind)
  | .raise => do
    match ← outcomeOf (CountBridge.raise wrapper : Bridge Unit) with
    | .ok () => pure (.done, wrapper)
    | .error (.native err) => pure (.done, err)
    | .error payload => throw payload
  | .trap => return (.done, ← intercept (.native wrapper))
  | .drop => do
    wrapper.drop
    pure (.done, wrapper.released)
  | .leave => do
    let _ ← wrapper.release
    wrapper.released.drop
    pure (.done, wrapper.released)
  | .intoRaw => do
    wrapper.released.drop
    pure (.handedOut wrapper.handle, wrapper.released)

/-- Raising and trapping leave nothing but an entry in the journal. -/
theorem carryOut_raise (wrapper : Wrapper) :
    carryOut wrapper .raise = (do report (.raising wrapper.handle); pure (.done, wrapper)) := rfl

theorem carryOut_trap (wrapper : Wrapper) :
    carryOut wrapper .trap = (do report (.trapped wrapper.handle); pure (.done, wrapper)) := rfl

/-- The unit of the wrapper is either still there, or it is accounted for otherwise. -/
theorem settles (wrapper : Wrapper) (use : Use) :
    Settles false true (unitOf wrapper.handle) (use.carryOut wrapper) (use.carryOut wrapper) Eq
      fun told => told.1.units + unitOf told.2.handle := by
  have lends {β : Type} {routine : Bridge β} {gives : β → Multiset ObjectId}
      (keeps : Settles false true 0 routine routine Eq gives) :
      Settles false true (unitOf wrapper.handle) routine routine Eq fun value => gives value + unitOf wrapper.handle := by
    simpa only [zero_add] using keeps.frame (unitOf wrapper.handle)
  cases use with
  | release => exact (wrapper.keeps_release fun _ => rfl).bind_eq fun _ => .pure rfl (zero_add _)
  | clone => exact (lends (wrapper.keeps_clone fun _ => rfl)).bind_eq fun _ => .pure rfl rfl
  | handle => exact .pure rfl (zero_add _)
  | className => exact wrapper.keeps_className.bind_eq fun _ => .pure rfl (zero_add _)
  | message => exact (lends (wrapper.keeps_message fun _ => rfl)).bind_eq fun _ => .pure rfl rfl
  | convert kind => exact .pure rfl (zero_add _)
  | raise =>
    rw [carryOut_raise]
    exact (keeps_record fun _ => rfl).bind_eq fun _ => .pure rfl (zero_add _)
  | trap =>
    rw [carryOut_trap]
    exact (keeps_record fun _ => rfl).bind_eq fun _ => .pure rfl (zero_add _)
  | drop => exact (wrapper.keeps_drop fun _ => rfl).bind_eq fun _ => .pure rfl (zero_add _)
  | leave =>
    exact (wrapper.keeps_release fun _ => rfl).bind_eq fun _ =>
      (wrapper.released.keeps_drop fun _ => rfl).bind_eq fun _ => .pure rfl (zero_add _)
  | intoRaw => exact .pure rfl (add_zero _)

def idle (wrapper : Wrapper) : Use → Reply
  | .release => .released false
  | .clone => .copy wrapper
  | .handle => .handle none
  | .className | .message => .text ""
  | .convert _ | .raise | .trap | .drop | .leave => .done
  | .intoRaw => .handedOut none

def noted : Use → Array Entry
  | .raise => #[.event (.raising none)]
  | .trap => #[.event (.trapped none)]
  | _ => #[]

end Use

/-- A use in some world. Whatever happened since the one before, may have changed the world. -/
structure Moment where
  use : Use
  world : World

structure Passage where
  use : Use
  wrapper : Wrapper
  before : World
  reply : Reply
  left : Wrapper
  after : World

inductive Lives : Wrapper → List Moment → List Passage → Wrapper → Prop
  | over {wrapper} : Lives wrapper [] [] wrapper
  | on {use wrapper before reply left after moments passages last}
      (ended : ends (Use.carryOut wrapper use) before = (.ok (reply, left), after))
      (further : Lives left moments passages last) :
      Lives wrapper (⟨use, before⟩ :: moments) (⟨use, wrapper, before, reply, left, after⟩ :: passages) last

/-- Whenever the wrapper is used it has its unit, and nothing goes wrong that a caller has to see to. -/
def Fits : Wrapper → List Moment → Prop
  | _, [] => True
  | wrapper, ⟨use, world⟩ :: rest =>
    wrapper.Stands world ∧ World.course.quiet (ends (use.carryOut wrapper) world).2 ∧
      ∀ reply left after, ends (use.carryOut wrapper) world = (.ok (reply, left), after) → Fits left rest

namespace Passage

/-- The unit that the wrapper had is still there, or the caller has it, or nobody has; the same goes
for units that came in. -/
def Balanced (passage : Passage) : Prop :=
  ∀ others, passage.before.Sound true (unitOf passage.wrapper.handle + others) →
    passage.after.Sound true (passage.reply.units + unitOf passage.left.handle + others)

structure Keeps (id : ObjectId) (passage : Passage) : Prop where
  wrapper : passage.wrapper.handle = some id
  left : passage.left.handle = some id
  reply : passage.reply ≠ .released true

/-- The unit leaves the wrapper, in one of three forms: it is given back at once, it is put into the
queue, or the caller gets it. -/
inductive Departs (id : ObjectId) : Passage → Prop
  | released {wrapper before after} (gives : before.GivesBack id after) :
      Departs id ⟨.release, wrapper, before, .released true, wrapper.released, after⟩
  | left {wrapper before after} (gives : before.GivesBack id after) :
      Departs id ⟨.leave, wrapper, before, .done, wrapper.released, after⟩
  | dropped {wrapper before after binding} (found : before.binding? = some binding)
      (policy : binding.config.policy = .immediate) (gives : before.GivesBack id after) :
      Departs id ⟨.drop, wrapper, before, .done, wrapper.released, after⟩
  | deferred {wrapper before after binding} (found : before.binding? = some binding)
      (policy : binding.config.policy = .deferred) (defers : before.Defers binding id after) :
      Departs id ⟨.drop, wrapper, before, .done, wrapper.released, after⟩
  | handedOut {wrapper before} : Departs id ⟨.intoRaw, wrapper, before, .handedOut (some id), wrapper.released, before⟩

structure Idle (passage : Passage) : Prop where
  wrapper : passage.wrapper.handle = none
  left : passage.left.handle = none
  reply : passage.reply = passage.use.idle passage.wrapper
  silent : passage.after = { passage.before with journal := passage.before.journal ++ passage.use.noted }

end Passage

section Uses

variable {wrapper left : Wrapper} {use : Use} {before after : World} {reply : Reply} {id : ObjectId}
  {others : Multiset ObjectId}

theorem idle_of_released (nothing : wrapper.handle = none)
    (ended : ends (use.carryOut wrapper) before = (.ok (reply, left), after)) :
    Passage.Idle ⟨use, wrapper, before, reply, left, after⟩ := by
  obtain ⟨kind, handle⟩ := wrapper
  obtain rfl : handle = none := nothing
  cases use <;> cases ended <;> exact ⟨rfl, rfl, rfl, by simp [Use.noted]⟩

theorem keeps_or_departs (held : wrapper.handle = some id) (sound : before.Sound true ({id} + others))
    (ended : ends (use.carryOut wrapper) before = (.ok (reply, left), after)) :
    Passage.Keeps id ⟨use, wrapper, before, reply, left, after⟩ ∨
      Passage.Departs id ⟨use, wrapper, before, reply, left, after⟩ := by
  obtain ⟨kind, handle⟩ := wrapper
  obtain rfl : handle = some id := held
  obtain ⟨last, released, gives⟩ := givesBack_releaseHandle sound
  cases use with
  | handle => cases ended; exact .inl ⟨rfl, rfl, nofun⟩
  | convert kind => cases ended; exact .inl ⟨rfl, rfl, nofun⟩
  | raise => cases ended; exact .inl ⟨rfl, rfl, nofun⟩
  | trap => cases ended; exact .inl ⟨rfl, rfl, nofun⟩
  | clone =>
    obtain ⟨copy, middle, -, done⟩ := ends_bind_eq_ok ended
    cases done
    exact .inl ⟨rfl, rfl, nofun⟩
  | className =>
    obtain ⟨className, middle, -, done⟩ := ends_bind_eq_ok ended
    cases done
    exact .inl ⟨rfl, rfl, nofun⟩
  | message =>
    obtain ⟨text, middle, -, done⟩ := ends_bind_eq_ok ended
    cases done
    exact .inl ⟨rfl, rfl, nofun⟩
  | release =>
    have given : ends (Wrapper.release ⟨kind, some id⟩) before = (.ok true, last) := ends_bind_ok released
    rw [Use.carryOut, ends_bind_ok given] at ended
    cases ended
    exact .inr (.released gives)
  | leave =>
    have given : ends (Wrapper.release ⟨kind, some id⟩) before = (.ok true, last) := ends_bind_ok released
    rw [Use.carryOut, ends_bind_ok given] at ended
    cases ended
    exact .inr (.left gives)
  | drop =>
    obtain ⟨_, middle, dropped, done⟩ := ends_bind_eq_ok ended
    cases done
    change ends (dispose id) before = _ at dropped
    obtain ⟨binding, found⟩ := sound.exists_binding
    rw [dispose, ends_bind_ok (ends_binding found)] at dropped
    cases policy : binding.config.policy with
    | immediate =>
      rw [policy, show ends (releaseHandle id) before = _ from released] at dropped
      cases dropped
      exact .inr (.dropped found policy gives)
    | deferred =>
      rw [policy] at dropped
      exact .inr (.deferred found policy (defers_deferRelease found dropped))
  | intoRaw => cases ended; exact .inr .handedOut

theorem released_of_isLast (final : use.isLast = true)
    (ended : ends (use.carryOut wrapper) before = (.ok (reply, left), after)) : left.handle = none := by
  cases use with
  | drop =>
    obtain ⟨_, middle, -, done⟩ := ends_bind_eq_ok ended
    cases done
    rfl
  | leave =>
    obtain ⟨_, middle, -, done⟩ := ends_bind_eq_ok ended
    cases done
    rfl
  | intoRaw => cases ended; rfl
  | _ => cases final

theorem returns (stands : wrapper.Stands before) (quiet : World.course.quiet (ends (use.carryOut wrapper) before).2) :
    ∃ reply left after, ends (use.carryOut wrapper) before = (.ok (reply, left), after) := by
  obtain ⟨kind, handle⟩ := wrapper
  cases handle with
  | none => cases use <;> exact ⟨_, _, _, rfl⟩
  | some id =>
    obtain ⟨others, sound⟩ := stands id rfl
    obtain ⟨⟨reply, left⟩, after, ended, -⟩ := (Use.settles ⟨kind, some id⟩ use).returns sound quiet
    exact ⟨reply, left, after, ended⟩

theorem balanced_of_ends (ended : ends (use.carryOut wrapper) before = (.ok (reply, left), after))
    (quiet : World.course.quiet (ends (use.carryOut wrapper) before).2) :
    Passage.Balanced ⟨use, wrapper, before, reply, left, after⟩ := by
  intro others sound
  obtain ⟨_, last, again, kept⟩ := (Use.settles wrapper use).returns sound quiet
  rw [ended] at again
  cases again
  exact kept

end Uses

theorem Passage.Departs.left_none {id : ObjectId} {passage : Passage} (departs : passage.Departs id) :
    passage.left.handle = none := by
  cases departs <;> rfl

/-- The wrapper keeps its unit until that departs, and is idle afterwards. -/
def Parts (id : ObjectId) (passages : List Passage) : Prop :=
  ∃ early departing late, passages = early ++ departing :: late ∧ (∀ passage ∈ early, passage.Keeps id) ∧
    departing.Departs id ∧ ∀ passage ∈ late, passage.Idle

theorem Parts.released_once {id : ObjectId} {passages : List Passage} (parts : Parts id passages) :
    passages.countP (·.reply = .released true) ≤ 1 := by
  obtain ⟨early, departing, late, rfl, kept, -, idle⟩ := parts
  have before : early.countP (·.reply = .released true) = 0 :=
    List.countP_eq_zero.mpr fun passage member => by simpa using (kept passage member).reply
  have after : late.countP (·.reply = .released true) = 0 := by
    refine List.countP_eq_zero.mpr fun passage member => ?_
    rw [(idle passage member).reply]
    cases passage.use <;> simp [Use.idle]
  rw [List.countP_append, List.countP_cons, before, after]
  split <;> decide

variable {wrapper last : Wrapper} {moments : List Moment} {passages : List Passage}

/-- By induction on the uses: each one keeps the unit or lets it depart, and one that is released stays so. -/
theorem lives_of_fits (fits : Fits wrapper moments) :
    ∃ passages last, Lives wrapper moments passages last ∧ (∀ passage ∈ passages, passage.Balanced) ∧
      (wrapper.handle = none → last.handle = none ∧ ∀ passage ∈ passages, passage.Idle) ∧
      ∀ id, wrapper.handle = some id →
        last.handle = some id ∧ (∀ passage ∈ passages, passage.Keeps id) ∨ last.handle = none ∧ Parts id passages := by
  induction moments generalizing wrapper with
  | nil =>
    exact ⟨[], wrapper, .over, List.forall_mem_nil _, fun nothing => ⟨nothing, List.forall_mem_nil _⟩,
      fun id held => .inl ⟨held, List.forall_mem_nil _⟩⟩
  | cons moment rest ih =>
    obtain ⟨use, world⟩ := moment
    obtain ⟨stands, quiet, continues⟩ := fits
    obtain ⟨reply, left, after, ended⟩ := returns stands quiet
    obtain ⟨passages, last, further, balanced, idle, parts⟩ := ih (continues reply left after ended)
    refine ⟨_ :: passages, last, .on ended further, List.forall_mem_cons.mpr ⟨balanced_of_ends ended quiet, balanced⟩,
      fun nothing => ?_, fun id held => ?_⟩
    · have first := idle_of_released nothing ended
      obtain ⟨nothing', later⟩ := idle first.left
      exact ⟨nothing', List.forall_mem_cons.mpr ⟨first, later⟩⟩
    · obtain ⟨others, sound⟩ := stands id held
      rcases keeps_or_departs held sound ended with keeps | departs
      · rcases parts id keeps.left with ⟨held', later⟩ | ⟨nothing, early, departing, late, rfl, kept, rest⟩
        · exact .inl ⟨held', List.forall_mem_cons.mpr ⟨keeps, later⟩⟩
        · exact .inr ⟨nothing, _ :: early, departing, late, rfl, List.forall_mem_cons.mpr ⟨keeps, kept⟩, rest⟩
      · obtain ⟨nothing, later⟩ := idle departs.left_none
        exact .inr ⟨nothing, [], _, passages, rfl, List.forall_mem_nil _, departs, later⟩

theorem Lives.released {final : Moment} (lives : Lives wrapper (moments ++ [final]) passages last)
    (isLast : final.use.isLast = true) : last.handle = none := by
  induction moments generalizing wrapper passages with
  | nil =>
    cases lives with
    | on ended further =>
      cases further
      exact released_of_isLast isLast ended
  | cons moment rest ih =>
    cases lives with
    | on ended further => exact ih further

end Lifetime

open Lifetime

namespace Program

/-- In whatever state a program comes through, its wrappers have their units. -/
theorem Reached.stands {α : Type} {program : List (Op α)} {start session : Session α} {hand : List Wrapper}
    (reached : Reached program start session hand) (fair : Fair false 0 start) (quiet : session.Quiet) {wrapper : Wrapper}
    (member : wrapper ∈ contents session.frames + ↑hand) : wrapper.Stands session.world := by
  intro id held
  obtain ⟨bound, sound, known⟩ := reached.standing fair quiet
  obtain rfl : bound = true := known wrapper member (by simp [held])
  obtain ⟨rest, same⟩ := Multiset.exists_cons_of_mem member
  refine ⟨↑session.units + unitsIn rest, sound.congr ?_⟩
  have units : unitsIn (contents session.frames) + unitsIn ↑hand = {id} + unitsIn rest := by
    rw [← unitsIn_add, same, ← Multiset.singleton_add, unitsIn_add, unitsIn_singleton, held, unitOf_some]
  rw [Session.holdings, add_assoc, units, add_left_comm]

/-- Whatever makes a wrapper, the wrapper points at an object and has a unit of that. Whatever is
done with it until its life ends, that unit leaves it exactly once, in one of three forms, and no
other unit does; a release tells so once, and from then on nothing is called and nothing changes.
Wherever a program comes through, its wrappers have their units, as that asks for; scopes drop the
wrappers they have in whichever way they are left; and an operation leaves all wrappers as they are
that it does not name, and of several with the name that it takes all but the newest. -/
theorem one_unit_leaves_each_wrapper :
    (∀ (source : Source) (world : World) (others : Multiset ObjectId), world.Sound true (source.takes + others) →
      World.course.quiet (ends source.carryOut world).2 →
      ∃ made after, ends source.carryOut world = (.ok made, after) ∧
        after.Sound true (made.elim 0 (unitOf ·.handle) + others) ∧
        ∀ wrapper, made = some wrapper → ∃ id, wrapper.handle = some id) ∧
    (∀ (wrapper : Wrapper) (id : ObjectId) (moments : List Moment) (final : Moment), wrapper.handle = some id →
      Fits wrapper (moments ++ [final]) → final.use.isLast = true →
      ∃ passages last, Lives wrapper (moments ++ [final]) passages last ∧ last.handle = none ∧ Parts id passages ∧
        passages.countP (·.reply = .released true) ≤ 1 ∧ ∀ passage ∈ passages, passage.Balanced) ∧
    (∀ (α : Type) (program : List (Op α)) (origin : Nat) (watched : Bool) (session : Session α) (hand : List Wrapper),
      Reached program (Session.start α origin watched) session hand → session.world.turnedOver = false →
      session.world.breached = false → ∀ wrapper ∈ contents session.frames + ↑hand, wrapper.Stands session.world) ∧
    (∀ (α β : Type) (frame innermost : Frame) (outer : List Frame) (routine : Run α β) (s t : Session α)
      (outcome : Except Unwind β), ends routine (s.opened frame) = (outcome, t) → t.frames = innermost :: outer →
      ends (inFrame frame routine) s =
        ends (do lift (Parting.carryOutAll innermost.partings); settle outcome) { t with frames := outer }) ∧
    (∀ (α : Type) (op : Op α) (s : Session α), s.frames ≠ [] → Arranged op.takes s.frames (ends (runOp op) s).2.frames) ∧
    ∀ (name : Name) (frames : List Frame) (wrapper : Wrapper), findWrapper name frames = some wrapper →
      (∃ rest, takeWrapper name frames = some (wrapper, rest) ∧ Touched name wrapper [] frames rest) ∧
        ∀ instead, Touched name wrapper [(name, instead)] frames (replaceWrapper name instead frames) := by
  refine ⟨fun source world others sound quiet => ?_, fun wrapper id moments final held fits isLast => ?_, ?_, ?_, ?_, ?_⟩
  · obtain ⟨made, after, ended, kept⟩ := source.settles.returns sound quiet
    refine ⟨made, after, ended, kept, ?_⟩
    rintro wrapper rfl
    exact Source.made_some (sound.bound rfl) ended
  · obtain ⟨passages, last, lives, balanced, -, parts⟩ := lives_of_fits fits
    have nothing := lives.released isLast
    rcases parts id held with ⟨held', -⟩ | ⟨-, parts⟩
    · rw [nothing] at held'
      cases held'
    · exact ⟨passages, last, lives, nothing, parts, parts.released_once, balanced⟩
  · intro α program origin watched session hand reached fits lawful wrapper member
    exact reached.stands (fair_start origin watched) ⟨fits, lawful⟩ member
  · intro α β frame innermost outer routine s t outcome ran opened
    have closed := ends_closeFrame_partings opened
    rw [ends_inFrame ran, ends_bind, closed, ends_bind]
  · exact fun α op s opened => arranges_runOp op (List.Subset.refl _) s opened
  · exact fun name frames wrapper found => touched_newest found

/-- A wrapper of a new string is cloned and looked at; then it is dropped, and its unit waits. -/
theorem one_unit_leaves_each_wrapper_deferred :
    let bare : World := {
      heaps := #[{ booted := true }]
      binding? := some { heap := 0, config := { policy := .deferred, flushThreshold := 2 } } }
    let world := bare.written 0 "hi"
    let wrapper : Wrapper := ⟨.text, some 0⟩
    ends (Source.newString "hi").carryOut bare = (.ok (some wrapper), world) ∧
      ∃ passages last, Lives wrapper [⟨.clone, world⟩, ⟨.className, world⟩, ⟨.drop, world⟩] passages last ∧
        Parts 0 passages := by
  intro bare world wrapper
  obtain ⟨sources, lives, -⟩ := one_unit_leaves_each_wrapper
  have empty : bare.Sound true 0 := by
    refine ⟨?_, fun binding found => ?_, fun _ => rfl⟩
    · simpa [bare, queued] using Store.Exact.empty
    · cases found
      rfl
  have written : ends (Source.newString "hi").carryOut bare = (.ok (some wrapper), world) := by
    rw [Source.carryOut, ends_map, ends_newString rfl]
    rfl
  obtain ⟨made, after, ended, sound, -⟩ := sources (.newString "hi") bare 0 empty (by rw [written]; exact ⟨rfl, rfl⟩)
  rw [written] at ended
  cases ended
  have stands : wrapper.Stands world := by
    rintro id ⟨⟩
    exact ⟨0, sound⟩
  have fits : Fits wrapper ([⟨.clone, world⟩, ⟨.className, world⟩] ++ [⟨.drop, world⟩]) := by
    refine ⟨stands, by cbv, ?_⟩
    rintro reply left after ⟨⟩
    refine ⟨stands, by cbv, ?_⟩
    rintro reply left after ⟨⟩
    exact ⟨stands, by cbv, fun _ _ _ _ => trivial⟩
  obtain ⟨passages, last, lived, -, parts, -⟩ := lives wrapper 0 _ ⟨.drop, world⟩ rfl fits rfl
  exact ⟨written, passages, last, lived, parts⟩

end Program

end CountBridge
