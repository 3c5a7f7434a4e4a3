import CountBridge.Proofs.TextIntegrity
import CountBridge.Proofs.Timeline

/-! Text that goes out and comes back. A text that is short enough becomes a new string,
and as long as a wrapper holds a unit of that, it is read back as it was, whatever the
program does meanwhile. A text that is too long is refused before anything is done. -/

namespace CountBridge

open Bridge World

theorem Text.decode_toUTF8 (text : String) : Text.decode text.toUTF8 = text := by
  have read : String.fromUTF8? text.toUTF8 = some text := by
    simp only [String.fromUTF8?, String.toUTF8_eq_toByteArray, dif_pos text.isValidUTF8]
    rfl
  rw [Text.decode, read]

namespace World

def written (world : World) (heap : HeapId) (text : String) : World :=
  { world.born heap (.string text.toUTF8) with
    journal := world.journal.push (.call (.newString text.utf8ByteSize world.store.allocated) true) }

/-- All readings of a string give its text, and leave nothing but entries in the journal. -/
structure Reads (world : World) (string : Wrapper) (text : String) : Prop where
  extracts : ∃ journal, ends (extractText string.handle) world = (.ok (.ok text), { world with journal })
  displays : ∃ journal, ends string.display world = (.ok text, { world with journal })

end World

section Writing

variable {world after : World} {binding : Binding} {id : ObjectId} {object : Object} {text : String}

theorem ends_newStringUnchecked_written (found : world.binding? = some binding) (text : String) :
    ends (newStringUnchecked text) world = (.ok ⟨.text, some world.store.allocated⟩, world.written binding.heap text) := by
  have made : ends (do Native.newString (← Bound.heap) text.toUTF8) world =
      (.ok world.store.allocated, world.born binding.heap (.string text.toUTF8)) := by
    rw [Bound.heap, bind_assoc, ends_bind_ok (ends_binding found)]
    simp only [pure_bind, Native.newString, valid_toUTF8 text, if_true]
    exact ends_allocate _ _ _
  have bound : world.meets .bound = true := by rw [meets, isBound, found]; rfl
  rw [newStringUnchecked, ends_bind, Bound.newString, ends_after, made]
  dsimp only
  rw [bound]
  rfl

/-- Only the length decides whether a text is taken. -/
theorem ends_newString (found : world.binding? = some binding) (text : String) :
    ends (newString text) world =
      if binding.config.maxTextBytes.toNat < text.utf8ByteSize then
        (.ok (.error (.textTooLong text.utf8ByteSize binding.config.maxTextBytes.toNat)), world)
      else (.ok (.ok ⟨.text, some world.store.allocated⟩), world.written binding.heap text) := by
  rw [newString, ends_bind_ok (ends_binding found)]
  dsimp only
  split
  · rfl
  · rw [ends_map, ends_newStringUnchecked_written found]
    rfl

/-- Nothing that happens to a string makes another text of it. -/
theorem string_of_continues {heap : HeapId} (continues : (world.written heap text).Continues after)
    (found : after.store.find? world.store.allocated = some object) : object.payload = .string text.toUTF8 := by
  have inside : world.store.allocated < (world.written heap text).store.allocated := by
    simp [written, born, Store.allocate, Store.allocated]
  obtain ⟨earlier, present, becomes⟩ := continues.store.payload _ object inside found
  have new : (world.written heap text).store.find? world.store.allocated = some { payload := .string text.toUTF8 } := by
    rw [written, born, Store.find?_allocate, if_pos rfl]
  rw [new] at present
  cases present
  generalize object.payload = payload at becomes
  cases becomes
  rfl

theorem reads_string (found : world.store.find? id = some object) (string : object.payload = .string text.toUTF8)
    (plain : world.stubs = {}) (kind : WrapperKind) : world.Reads ⟨kind, some id⟩ text := by
  have shown : object.stringBytes? = some text.toUTF8 := by rw [Object.stringBytes?, string]
  obtain ⟨journal, read⟩ := ends_extractText_string found shown plain
  rw [Text.decode_toUTF8] at read
  refine ⟨⟨journal, read⟩, journal, ?_⟩
  rw [Wrapper.display, ends_bind_ok read]
  rfl

end Writing

namespace Program

variable {α : Type} {s session : Session α} {program : List (Op α)} {start : Session α} {above : List (Op α × Session α)}
  {hand : List Wrapper} {binding : Binding}

/-- The string is there when the operation that makes it ends. -/
theorem order_makeString (found : s.world.binding? = some binding) {text : String}
    (short : text.utf8ByteSize ≤ binding.config.maxTextBytes.toNat) (keep : Option Name) :
    (s.world.written binding.heap text).Continues (ends (runOp (.act (.makeString text keep))) s).2.world := by
  let made : Except BridgeError Wrapper := .ok ⟨.text, some s.world.store.allocated⟩
  have ended : ends (liftM (newString text) : Run α (Except BridgeError Wrapper)) s =
      (.ok made, { s with world := s.world.written binding.heap text }) := by
    change ends (lift (newString text)) s = _
    rw [ends_lift, ends_newString found, if_neg (Nat.not_lt.mpr short)]
  have kept : Performs (α := α) false true (made.toOption.elim 0 fun wrapper => unitOf wrapper.handle) (keepMade keep made) :=
    performs_keepMade keep made fun _ _ _ => rfl
  have performed : (s.world.written binding.heap text).Continues (ends (perform (.makeString text keep)) s).2.world := by
    rw [perform, ends_withBinding, found]
    dsimp only
    rw [ends_bind_ok ended]
    exact kept.onward { s with world := s.world.written binding.heap text }
  rw [runOp]
  exact performed.trans (order_recorded _ _ s)

/-- A text is taken exactly if it is no longer than allowed. Then one string with one unit comes
into being, by one call and without unwinding; and in whatever state a program that made it so
comes through, a wrapper that points at it reads the text as it was. That asks for the string to
live, which it does unless a condition was broken or a counter turned over. Otherwise the length
and the limit are told, and nothing is done. -/
theorem newString_round_trip (found : s.world.binding? = some binding) (text : String) :
    ((∃ made after, ends (newString text) s.world = (.ok (.ok made), after)) ↔
      text.utf8ByteSize ≤ binding.config.maxTextBytes.toNat) ∧
    (binding.config.maxTextBytes.toNat < text.utf8ByteSize → ends (newString text) s.world =
      (.ok (.error (.textTooLong text.utf8ByteSize binding.config.maxTextBytes.toNat)), s.world)) ∧
    (text.utf8ByteSize ≤ binding.config.maxTextBytes.toNat →
      ends (newString text) s.world =
        (.ok (.ok ⟨.text, some s.world.store.allocated⟩), s.world.written binding.heap text) ∧
      (s.world.written binding.heap text).store.find? s.world.store.allocated =
        some { count := 1, payload := .string text.toUTF8 } ∧
      ∀ (origin : Nat) watched program above keep session hand,
        Begun program (Session.start α origin watched) above (.act (.makeString text keep)) s →
        Reached program (Session.start α origin watched) session hand → session.world.stubs = {} →
        ∀ wrapper ∈ contents session.frames + ↑hand, wrapper.handle = some s.world.store.allocated →
          (session.world.turnedOver = false ∧ session.world.breached = false) ∨
            session.world.store.isLive s.world.store.allocated = true →
          session.world.Reads wrapper text) := by
  have whole := ends_newString found text
  refine ⟨⟨fun ⟨made, after, ended⟩ => ?_, fun short => ?_⟩, fun long => ?_, fun short => ⟨?_, ?_, ?_⟩⟩
  · by_contra long
    rw [whole, if_pos (Nat.lt_of_not_le long)] at ended
    cases ended
  · exact ⟨_, _, whole.trans (if_neg (Nat.not_lt.mpr short))⟩
  · exact whole.trans (if_pos long)
  · exact whole.trans (if_neg (Nat.not_lt.mpr short))
  · rw [written, born, Store.find?_allocate, if_pos rfl]
  · intro origin watched program above keep session hand begun reached plain wrapper holds points intact
    obtain ⟨object, present⟩ : ∃ object, session.world.store.find? s.world.store.allocated = some object := by
      rcases intact with quiet | lives
      · refine (reached.exact (fair_start origin watched) quiet).live_of_held ?_
        have member : s.world.store.allocated ∈ unitsIn (contents session.frames + ↑hand) :=
          Multiset.mem_bind.mpr ⟨wrapper, holds, by rw [points, unitOf_some]; exact Multiset.mem_singleton_self _⟩
        rw [unitsIn_add] at member
        rw [Session.holdings]
        grind
      · exact Option.isSome_iff_exists.mp lives
    obtain ⟨kind, handle⟩ := wrapper
    cases points
    rcases reached.before_or_after begun with before | later
    · exact absurd (Store.lt_allocated_of_find? present) (Nat.not_lt.mpr before.store.allocated)
    · exact reads_string present (string_of_continues ((order_makeString found short keep).trans later) present) plain kind

def narrow : List (Op Unit) :=
  [.act (.bootstrap mainHeap { policy := .deferred, flushThreshold := 2, maxTextBytes := 11 } hookVersion)]

/-- A text of eleven bytes is made a string, and in the end a clone alone holds that. -/
def recloned : List (Op Unit) :=
  [.act (.makeString "a\x00é☃😀" (some "t")), .act (.clone "t" (some "u")), .act (.dropWrapper "t"), .act (.makeString "b" none)]

/-- The text is read by the clone, after the queue was emptied. -/
theorem newString_round_trip_clone :
    ∃ session, Reached (narrow ++ recloned ++ [.act .collect]) (Session.start Unit Address.spacing false) session [] ∧
      (⟨.text, some 0⟩ : Wrapper) ∈ contents session.frames ∧ session.world.Reads ⟨.text, some 0⟩ "a\x00é☃😀" := by
  rcases booting : ends (runEach narrow) (Session.start Unit Address.spacing false) with ⟨outcome, s⟩
  have booted : let ended := ends (runEach narrow) (Session.start Unit Address.spacing false)
      (ended.1, ended.2.world.binding?, ended.2.world.store.allocated) =
        (.ok (), some ⟨0, { policy := .deferred, flushThreshold := 2, maxTextBytes := 11 }, {}⟩, 0) := by cbv
  rcases running : ends (runEach (narrow ++ recloned)) (Session.start Unit Address.spacing false) with ⟨outcome', session⟩
  have ran : let ended := ends (runEach (narrow ++ recloned)) (Session.start Unit Address.spacing false)
      (ended.1, ended.2.world.turnedOver, ended.2.world.breached, ended.2.world.stubs, ended.2.frames) =
        (.ok (), false, false, {}, [{ wrappers := [("u", ⟨.text, some 0⟩)] }]) := by cbv
  simp only [booting, running, Prod.mk.injEq] at booted ran
  obtain ⟨rfl, binding, first⟩ := booted
  obtain ⟨rfl, fits, lawful, stubs, frames⟩ := ran
  have held : (⟨.text, some 0⟩ : Wrapper) ∈ contents session.frames := by rw [frames]; simp [Frame.contents]
  have reached : Reached (narrow ++ recloned ++ [.act .collect]) (Session.start Unit Address.spacing false) session [] :=
    .begins (.top (.of_runEach running))
  have begun : Begun (narrow ++ recloned ++ [.act .collect]) (Session.start Unit Address.spacing false) []
      (.act (.makeString "a\x00é☃😀" (some "t"))) s := .top (.of_runEach booting)
  obtain ⟨-, -, taken⟩ := newString_round_trip binding "a\x00é☃😀"
  obtain ⟨-, -, reads⟩ := taken (by decide)
  exact ⟨session, reached, held, reads Address.spacing false _ [] (some "t") session [] begun reached stubs _
    (Multiset.mem_add.mpr (.inl held)) (by rw [first]) (.inl ⟨fits, lawful⟩)⟩

end Program

end CountBridge
