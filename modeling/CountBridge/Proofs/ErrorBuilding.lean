import CountBridge.Proofs.Clamping
import CountBridge.Proofs.Sparing

/-! Errors made of a text. A text of any length will do: as many characters are kept as fit in a
string, and that is what the error tells from then on. -/

namespace CountBridge

open Bridge World

namespace World

/-- The world with a new error, which the journal tells of by the two calls that made it. -/
def withError (world : World) (heap : HeapId) (text : String) : World :=
  { world.reporting heap text with
    journal := (world.journal.push (.call (.newString text.utf8ByteSize world.store.allocated) true)).push
      (.call (.newError (some world.store.allocated) (world.store.allocated + 1)) true) }

/-- The message of an error is read as the text, and nothing but entries in the journal is left of that. -/
structure Conveys (world : World) (err : Wrapper) (text : String) : Prop where
  tries : ∃ journal, ends err.tryMessage world = (.ok (.ok text), { world with journal })
  read : ∃ journal, ends err.message world = (.ok text, { world with journal })

end World

section Building

variable {world after : World} {binding : Binding} {id mess : ObjectId} {object other : Object} {text : String}

theorem ends_newError (found : world.binding? = some binding) (text : String) :
    ends (newError text) world = (.ok ⟨.error, some (world.store.allocated + 1)⟩,
      world.withError binding.heap (Text.clamp text binding.config.maxTextBytes.toNat)) := by
  rw [newError, ends_bind_ok (ends_binding found)]
  generalize Text.clamp text binding.config.maxTextBytes.toNat = kept
  let middle := world.written binding.heap kept
  have still : middle.binding? = some binding := found
  have grown : middle.store.allocated = world.store.allocated + 1 := by
    simp [middle, written, born, Store.allocate, Store.allocated]
  have made : ends (do Native.newError (← Bound.heap) (some world.store.allocated)) middle =
      (.ok (world.store.allocated + 1), middle.born binding.heap (.error (some world.store.allocated))) := by
    rw [Bound.heap, bind_assoc, ends_bind_ok (ends_binding still), pure_bind, Native.newError, ends_allocate, grown]
    rfl
  have string : middle.isString world.store.allocated = true := by
    have present : middle.store.find? world.store.allocated = some { payload := .string kept.toUTF8 } := Store.find?_newborn _ _
    rw [isString, present]
    rfl
  have lawful : middle.meets (.stringOrNull (some world.store.allocated)) = true := by
    rw [meets, isBound, still, Option.all_some, string]
    rfl
  rw [ends_bind_ok (ends_newStringUnchecked_written found kept)]
  dsimp only
  rw [ends_bind, Bound.newError, ends_after, made]
  dsimp only
  rw [lawful]
  rfl

theorem conveys_message (found : world.store.find? id = some object) (message : object.message = some mess)
    (present : world.store.find? mess = some other) (string : other.payload = .string text.toUTF8)
    (plain : world.stubs = {}) (kind : WrapperKind) : world.Conveys ⟨kind, some id⟩ text := by
  have looked : ends (do return (← objectAt id).message) world = (.ok (some mess), world) := by
    rw [ends_bind_ok (ends_objectAt found), message]
    rfl
  obtain ⟨journal, asked⟩ : ∃ journal, ends (Bound.messageOf id) world = (.ok (some mess), { world with journal }) :=
    ⟨_, by rw [Bound.messageOf, ends_after, looked]⟩
  have there : { world with journal }.store.find? mess = some other := present
  obtain ⟨journal', read⟩ := (reads_string there string plain kind).extracts
  have tries : ends (Wrapper.tryMessage ⟨kind, some id⟩) world = (.ok (.ok text), { world with journal := journal' }) :=
    (ends_bind_ok asked).trans read
  exact ⟨⟨journal', tries⟩, journal', by rw [Wrapper.message, ends_bind_ok tries]; rfl⟩

theorem reported_withError (world : World) (heap : HeapId) (text : String) :
    world.Reported heap text (world.withError heap text) :=
  (reported world heap text).journal _

theorem message_of_continues {heap : HeapId} (continues : (world.withError heap text).Continues after)
    (found : after.store.find? (world.store.allocated + 1) = some object) : object.message = some world.store.allocated := by
  have error := (reported_withError world heap text).error
  obtain ⟨earlier, there, becomes⟩ := continues.store.payload _ object (Store.lt_allocated_of_find? error) found
  rw [error] at there
  cases there
  rw [Object.message]
  generalize object.payload = payload at becomes
  cases becomes
  rfl

/-- An error and its message stay what they are as long as they live. -/
theorem conveys_of_continues {heap : HeapId} (continues : (world.withError heap text).Continues after)
    (found : after.store.find? (world.store.allocated + 1) = some object)
    (present : after.store.find? world.store.allocated = some other) (plain : after.stubs = {}) (kind : WrapperKind) :
    after.Conveys ⟨kind, some (world.store.allocated + 1)⟩ text := by
  have message := (reported_withError world heap text).message
  obtain ⟨earlier, there, becomes⟩ := continues.store.payload _ other (Store.lt_allocated_of_find? message) present
  rw [message] at there
  cases there
  have string : other.payload = .string text.toUTF8 := by
    generalize other.payload = payload at becomes
    cases becomes
    rfl
  exact conveys_message found (message_of_continues continues found) present string plain kind

theorem Reported.conveys {heap : HeapId} (reported : world.Reported heap text after) (plain : after.stubs = {}) (kind : WrapperKind) :
    after.Conveys ⟨kind, some (world.store.allocated + 1)⟩ text :=
  conveys_message reported.error rfl reported.message rfl plain kind

end Building

namespace Program

variable {α : Type} {s session : Session α} {program : List (Op α)} {hand : List Wrapper} {binding : Binding}

/-- The error and its message are there when the operation that makes them ends. -/
theorem order_makeError (found : s.world.binding? = some binding) (text : String) (keep : Option Name) :
    (s.world.withError binding.heap (Text.clamp text binding.config.maxTextBytes.toNat)).Continues
      (ends (runOp (.act (.makeError text keep))) s).2.world := by
  let middle := s.world.withError binding.heap (Text.clamp text binding.config.maxTextBytes.toNat)
  let err : Wrapper := ⟨.error, some (s.world.store.allocated + 1)⟩
  have ended : ends (liftM (newError text) : Run α Wrapper) s = (.ok err, { s with world := middle }) := by
    change ends (lift (newError text)) s = _
    rw [ends_lift, ends_newError found]
  have kept : Performs (α := α) false true (unitOf err.handle) (keepMade keep (.ok err)) :=
    performs_keepMade keep (.ok err) fun _ _ _ => rfl
  have performed : middle.Continues (ends (perform (.makeError text keep)) s).2.world := by
    rw [perform, ends_withBinding, found]
    dsimp only
    rw [ends_bind_ok ended]
    exact kept.onward { s with world := middle }
  rw [runOp]
  exact performed.trans (order_recorded _ _ s)

/-- An error can be made of any text. That makes two objects, and the error tells the longest beginning
of the text that fits, the whole of it if that does: at once, after it was raised and trapped, and in
whatever state a program that made it so comes through. The last asks for the error and its message to
live, which they do while the error is held unless a condition was broken or a counter turned over.
Releasing the error leaves all as it was, but for the number of objects ever made. -/
theorem newError_conveys_longest (found : s.world.binding? = some binding) (text : String) :
    String.Pos.Raw.IsValid text ⟨Text.cutPosition text binding.config.maxTextBytes.toNat⟩ ∧
    ∃ kept err after,
      Text.LongestFitting text binding.config.maxTextBytes.toNat kept ∧
      (kept = text ↔ text.utf8ByteSize ≤ binding.config.maxTextBytes.toNat) ∧
      ends (newError text) s.world = (.ok err, after) ∧ err = ⟨.error, some (s.world.store.allocated + 1)⟩ ∧
      s.world.Reported binding.heap kept after ∧
      (∃ journal, ends (trap (raise err : Bridge Unit)) after = (.ok (.error err), { after with journal }) ∧
        (s.world.stubs = {} → after.Conveys err kept ∧ { after with journal }.Conveys err kept)) ∧
      (∃ back, ends err.release after = (.ok true, back) ∧ s.world.Spared binding.heap 2 back) ∧
      ∀ (origin : Nat) watched program above keep session hand,
        Begun program (Session.start α origin watched) above (.act (.makeError text keep)) s →
        Reached program (Session.start α origin watched) session hand → session.world.stubs = {} →
        ∀ wrapper ∈ contents session.frames + ↑hand, wrapper.handle = err.handle →
          (session.world.turnedOver = false ∧ session.world.breached = false) ∨
            (session.world.store.isLive (s.world.store.allocated + 1) = true ∧
              session.world.store.isLive s.world.store.allocated = true) →
          session.world.Conveys wrapper kept := by
  have longest := Text.clamp_longest text binding.config.maxTextBytes.toNat
  have begins := order_makeError found text
  generalize made : Text.clamp text binding.config.maxTextBytes.toNat = kept at longest begins
  have reported := reported_withError s.world binding.heap kept
  refine ⟨Text.isValid_cutPosition _ _, kept, _, _, longest, longest.eq_iff, made ▸ ends_newError found text, rfl, reported, ?_, ?_, ?_⟩
  · refine ⟨_, rfl, fun plain => ⟨Reported.conveys reported plain _, ?_⟩⟩
    exact Reported.conveys (reported.journal _) plain _
  · obtain ⟨back, released, spared⟩ := reported.ends_releaseHandle found
    exact ⟨back, ends_bind_ok released, spared⟩
  · intro origin watched program above keep session hand begun reached plain wrapper holds points intact
    obtain ⟨kind, handle⟩ := wrapper
    cases points
    have exact (quiet : session.world.turnedOver = false ∧ session.world.breached = false) :=
      reached.exact (fair_start origin watched) quiet
    obtain ⟨object, found⟩ : ∃ object, session.world.store.find? (s.world.store.allocated + 1) = some object := by
      rcases intact with quiet | ⟨lives, -⟩
      · refine (exact quiet).live_of_held ?_
        have member : s.world.store.allocated + 1 ∈ unitsIn (contents session.frames + ↑hand) :=
          Multiset.mem_bind.mpr ⟨_, holds, Multiset.mem_singleton_self _⟩
        rw [unitsIn_add] at member
        rw [Session.holdings]
        grind
      · exact Option.isSome_iff_exists.mp lives
    rcases reached.before_or_after begun with before | later
    · exact absurd (Nat.lt_of_succ_lt (Store.lt_allocated_of_find? found)) (Nat.not_lt.mpr before.store.allocated)
    · have continues := (begins keep).trans later
      obtain ⟨other, present⟩ : ∃ other, session.world.store.find? s.world.store.allocated = some other := by
        rcases intact with quiet | ⟨-, lives⟩
        · exact (exact quiet).live_message found (message_of_continues continues found)
        · exact Option.isSome_iff_exists.mp lives
      exact conveys_of_continues continues found present plain kind

/-- An error of a text that is too long is raised and trapped. The limit falls inside the last snowman. -/
def trimmed : List (Op Unit) :=
  [.act (.makeError "☃☃☃☃" (some "e")), .trap [.act (.raise "e")] () (some "t")]

/-- What was trapped tells of three snowmen. -/
theorem newError_conveys_longest_trimmed :
    ∃ session, Reached (narrow ++ trimmed ++ [.act .collect]) (Session.start Unit Address.spacing false) session [] ∧
      (⟨.error, some 1⟩ : Wrapper) ∈ contents session.frames ∧ session.world.Conveys ⟨.error, some 1⟩ "☃☃☃" := by
  rcases booting : ends (runEach narrow) (Session.start Unit Address.spacing false) with ⟨outcome, s⟩
  have booted : let ended := ends (runEach narrow) (Session.start Unit Address.spacing false)
      (ended.1, ended.2.world.binding?, ended.2.world.store.allocated) =
        (.ok (), some ⟨0, { policy := .deferred, flushThreshold := 2, maxTextBytes := 11 }, {}⟩, 0) := by cbv
  rcases running : ends (runEach (narrow ++ trimmed)) (Session.start Unit Address.spacing false) with ⟨outcome', session⟩
  have ran : let ended := ends (runEach (narrow ++ trimmed)) (Session.start Unit Address.spacing false)
      (ended.1, ended.2.world.turnedOver, ended.2.world.breached, ended.2.world.stubs, ended.2.frames) =
        (.ok (), false, false, {}, [{ wrappers := [("t", ⟨.error, some 1⟩)] }]) := by cbv
  simp only [booting, running, Prod.mk.injEq] at booted ran
  obtain ⟨rfl, binding, first⟩ := booted
  obtain ⟨rfl, fits, lawful, stubs, frames⟩ := ran
  have held : (⟨.error, some 1⟩ : Wrapper) ∈ contents session.frames := by rw [frames]; simp [Frame.contents]
  have reached : Reached (narrow ++ trimmed ++ [.act .collect]) (Session.start Unit Address.spacing false) session [] :=
    .begins (.top (.of_runEach running))
  have begun : Begun (narrow ++ trimmed ++ [.act .collect]) (Session.start Unit Address.spacing false) []
      (.act (.makeError "☃☃☃☃" (some "e"))) s := .top (.of_runEach booting)
  obtain ⟨-, kept, err, after, longest, -, -, rfl, -, -, -, tells⟩ := newError_conveys_longest binding "☃☃☃☃"
  have cut : Text.clamp "☃☃☃☃" 11 = "☃☃☃" := by cbv
  have same : kept = "☃☃☃" := cut ▸ longest.unique (Text.clamp_longest _ _)
  exact ⟨session, reached, held, same ▸ tells Address.spacing false _ [] (some "e") session [] begun reached stubs _
    (Multiset.mem_add.mpr (.inl held)) (by rw [first]) (.inl ⟨fits, lawful⟩)⟩

end Program

end CountBridge
