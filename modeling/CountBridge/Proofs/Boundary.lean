import CountBridge.Proofs.ObjectSystem

/-! The bridge keeps the accounts: calls on the bound system, wrappers, release by
either policy, and text and errors across the boundary. -/

namespace CountBridge

open Bridge World

variable {α β : Type} {late bound : Bool} {exit : Exit} {needs : Multiset ObjectId} {agree : α → α → Prop}
  {gives : α → Multiset ObjectId}

namespace Bound

theorem goes_heap : Goes heap := goes_binding.bind fun _ => .pure _

/-- Whatever is done with the heap that is bound. -/
theorem sim_heap {next : HeapId → Bridge α} {held : Multiset ObjectId}
    {after : Bool → α → α → World → World → Prop} {unwound : Bool → Unwind → World → World → Prop}
    (each : ∀ late heap, (late = true → heap = 0) →
      Sim World.course (Linked late true held) (next heap) (next heap) Eq (after late) (unwound late)) :
    Sim World.course (Linked late true held) (do next (← heap)) (do next (← heap)) Eq (after late) (unwound late) := by
  have onward : Goes (do next (← heap)) := goes_heap.bind fun heap =>
    (each false heap fun never => by cases never).onward
  refine ⟨onward, onward, fun s t linked quiet quiet' => ?_⟩
  obtain ⟨found, left, ended, rfl, binding, present, same⟩ := returns_heap linked.sound'
  obtain ⟨found', right, ended', rfl, binding', present', same'⟩ := returns_heap linked.sound
  have agreed : found = found' ∧ (late = true → found = 0) := by
    cases late with
    | false =>
      rw [linked.same rfl, present'] at present
      cases present
      exact ⟨same.symm.trans same', fun never => by cases never⟩
    | true =>
      obtain ⟨config, config', queue, bound, -, bound', -⟩ := (linked.behind rfl).binding
      rw [bound] at present
      rw [bound'] at present'
      cases present
      cases present'
      exact ⟨same.symm.trans same', fun _ => same.symm⟩
  rw [ends_bind_ok ended] at quiet ⊢
  rw [ends_bind_ok ended'] at quiet' ⊢
  rw [← agreed.1] at quiet' ⊢
  exact (each late found agreed.2).together _ _ linked quiet quiet'

theorem keeps_after {first second : Bridge α} {demand : Demand} {call : α → Call}
    (settles : Keeps late bound exit needs first second Eq gives) :
    Keeps late bound exit needs (after demand call first) (after demand call second) Eq gives :=
  fun held => (settles held).after (fun never _ _ linked => linked.same never) fun _ _ same _ => same

theorem keeps_increment (id : ObjectId) :
    Keeps late true exit 0 (increment id) (increment id) Eq fun _ => {id} :=
  fun held => (Native.keeps_increment (some id) held).before

theorem keeps_newString {bytes : ByteArray} (valid : bytes.validateUTF8 = true) :
    Keeps late true exit 0 (newString bytes) (newString bytes) Eq fun made => {made} :=
  keeps_after fun held => sim_heap fun _ _ single => Native.keeps_newString valid single held

theorem keeps_newError (mess : Handle) :
    Keeps late true exit (unitOf mess) (newError mess) (newError mess) Eq fun made => {made} :=
  keeps_after fun held => sim_heap fun _ _ single => Native.keeps_newError mess single held

/-- What is read of an object without its count is the same on both sides. -/
theorem keeps_look {id : ObjectId} {read : Object → Bridge α}
    (same : ∀ object object' : Object, object.Alike object' → read object = read object')
    (settles : ∀ object, Keeps late bound exit needs (read object) (read object) Eq fun _ => needs) :
    Keeps late bound exit needs (do read (← objectAt id)) (do read (← objectAt id)) Eq fun _ => needs := by
  apply (keeps_objectAt id).bind (Agree.refl Object.Alike.refl)
  intro object object' agreed
  rw [same object object' agreed.2]
  exact settles object'

theorem keeps_messageOf (id : ObjectId) :
    Keeps late bound exit needs (messageOf id) (messageOf id) Eq fun _ => needs :=
  keeps_after <| keeps_look (fun _ _ alike => by rw [alike.message]) fun _ => .pure rfl rfl

theorem keeps_isString (id : ObjectId) :
    Keeps late bound exit needs (isString id) (isString id) Eq fun _ => needs :=
  keeps_after <| keeps_look (fun _ _ alike => by rw [alike.isString]) fun _ =>
    keeps_get fun _ _ _ linked => by rw [linked.stubs]

theorem keeps_stringBytes (id : ObjectId) :
    Keeps late bound exit needs (stringBytes id) (stringBytes id) Eq fun _ => needs := by
  refine keeps_after (keeps_look (fun object object' alike => ?_) fun object => ?_)
  · simp only [alike.stringBytes?]
  · exact keeps_get fun _ _ _ linked => by rw [linked.stubs]

theorem keeps_className (id : ObjectId) :
    Keeps late bound exit needs (className id) (className id) Eq fun _ => needs := by
  have looked : Keeps late bound exit needs (do return (← objectAt id).className) (do return (← objectAt id).className)
      Eq fun _ => needs := keeps_look (fun _ _ alike => by rw [alike.className]) fun _ => .pure rfl rfl
  exact fun held => (looked held).before

theorem raises_toString (id : ObjectId) :
    Raises late true 0 (toString id) (toString id) Eq fun made => {made} := by
  refine Keeps.bind_eq (fun held => Sim.before (sim_heap fun _ _ single => Native.raises_toString id single held)) ?_
  exact fun made held => (Keeps.pure rfl rfl held).before

end Bound

theorem goes_releaseHandle (id : ObjectId) : Goes (releaseHandle id) :=
  (goes_after (Bound.goes_heap.bind fun heap => Native.goes_decrement heap (some id))).bind fun _ => goes_record _

theorem goes_releaseAll (ids : List ObjectId) : Goes (releaseAll ids) := by
  induction ids with
  | nil => exact .pure _
  | cons id rest ih => exact (goes_releaseHandle id).bind fun _ => ih

theorem goes_collect : Goes collect := by
  apply goes_binding.bind
  intro binding
  apply (goes_modifyQueue _).bind
  intro _
  apply (goes_releaseAll _).bind
  intro _
  split
  · exact (goes_record _).bind fun _ => .pure _
  · exact (Onward.pure ()).bind fun _ => .pure _

theorem goes_dispose (id : ObjectId) : Goes (dispose id) := by
  apply goes_binding.bind
  intro binding
  split
  · exact goes_releaseHandle id
  · apply (goes_modifyQueue _).bind
    intro _
    apply goes_binding.bind
    intro _
    apply (goes_record _).bind
    intro _
    apply goes_binding.bind
    intro _
    split
    · exact goes_collect.bind fun _ => .pure _
    · exact .pure _

def World.Prompt (world : World) : Prop :=
  ∃ config, world.binding? = some { heap := 0, config } ∧ config.policy = .immediate

/-- What gives back at once on the left may be put off on the right. -/
theorem keeps_ease {routine : Bridge α} {units : Multiset ObjectId} (goes : Goes routine)
    (prompt : ∀ world held, world.Sound true (units + held) → world.Prompt →
      Returns routine world fun _ after => world.Released after units)
    (put_off : ∀ world held, world.Sound true (units + held) →
      Returns routine world fun _ after => world.Eased after units) :
    Keeps late true exit units routine routine (Told late) fun _ => 0 := by
  refine fun held => ⟨goes, goes, fun s t linked _ _ => ?_⟩
  obtain ⟨value', right, ended', eased⟩ := put_off t held linked.sound
  have sound : right.Sound true (0 + held) := (eased.sound linked.sound).congr (zero_add held).symm
  cases late with
  | false =>
    rw [linked.same rfl, ended']
    exact .value (Told.refl _) ⟨sound, fun _ => rfl, fun never => by cases never⟩
  | true =>
    have behind := linked.behind rfl
    obtain ⟨config, config', queue, found, policy, -⟩ := behind.binding
    obtain ⟨value, left, ended, released⟩ := prompt s held linked.sound' ⟨config, found, policy⟩
    rw [ended, ended']
    refine .value ⟨?_, trivial⟩ ⟨sound, ?_, fun _ => behind.ease released eased⟩
    · exact fun never => by cases never
    · exact fun never => by cases never

theorem keeps_releaseHandle (id : ObjectId) :
    Keeps late true exit {id} (releaseHandle id) (releaseHandle id) Eq fun _ => 0 := by
  refine (keeps_ease (goes_releaseHandle id) ?_ ?_).conseq Told.unit fun _ _ _ => rfl
  · exact fun world held sound _ => returns_releaseHandle sound
  · exact fun world held sound => (returns_releaseHandle sound).mono fun _ _ released => released.eased

theorem keeps_dispose (id : ObjectId) :
    Keeps late true exit {id} (dispose id) (dispose id) Eq fun _ => 0 := by
  refine (keeps_ease (goes_dispose id) ?_ fun _ _ => returns_dispose).conseq Told.unit fun _ _ _ => rfl
  rintro world held sound ⟨config, found, policy⟩
  unfold dispose
  refine .step (ends_binding found) ?_
  simp only [policy]
  exact returns_releaseHandle sound

theorem keeps_collect : Keeps late true exit 0 collect collect (Told late) fun _ => 0 := by
  refine keeps_ease goes_collect ?_ fun world held sound => ?_
  · rintro world held sound ⟨config, found, policy⟩
    have same : world.withQueue {} = world := withQueue_self found
    have moved : ends (modifyQueue fun _ => {}) world = (.ok (), world) := by
      have ended := ends_modifyQueue found fun _ => {}
      rwa [same] at ended
    unfold collect
    refine .step (ends_binding found) (.step moved ?_)
    exact ⟨0, world, rfl, .nothing found⟩
  · exact (returns_collect (sound.congr (zero_add held))).mono fun _ _ collected => collected.1

namespace Wrapper

theorem keeps_retain (kind : WrapperKind) (handle : Handle) (known : handle ≠ none → bound = true) :
    Keeps late bound exit 0 (retain kind handle) (retain kind handle) Eq
      fun made => made.toOption.elim 0 fun wrapper => unitOf wrapper.handle := by
  cases handle with
  | none => exact .pure rfl rfl
  | some id =>
    rw [known (by simp)]
    exact (Bound.keeps_increment id).bind_eq fun _ => .pure rfl (by rfl)

theorem keeps_clone (wrapper : Wrapper) (known : wrapper.handle ≠ none → bound = true) :
    Keeps late bound exit 0 wrapper.clone wrapper.clone Eq fun copy => unitOf copy.handle := by
  obtain ⟨kind, handle⟩ := wrapper
  cases handle with
  | none => exact .pure rfl rfl
  | some id =>
    rw [known (by simp)]
    exact (Bound.keeps_increment id).bind_eq fun _ => .pure rfl (by rfl)

theorem keeps_release (wrapper : Wrapper) (known : wrapper.handle ≠ none → bound = true) :
    Keeps late bound exit (unitOf wrapper.handle) wrapper.release wrapper.release Eq fun _ => 0 := by
  obtain ⟨kind, handle⟩ := wrapper
  cases handle with
  | none => exact .pure rfl rfl
  | some id =>
    rw [known (by simp)]
    exact (keeps_releaseHandle id).bind_eq fun _ => .pure rfl (by rfl)

theorem keeps_drop (wrapper : Wrapper) (known : wrapper.handle ≠ none → bound = true) :
    Keeps late bound exit (unitOf wrapper.handle) wrapper.drop wrapper.drop Eq fun _ => 0 := by
  obtain ⟨kind, handle⟩ := wrapper
  cases handle with
  | none => exact .pure rfl rfl
  | some id =>
    rw [known (by simp)]
    exact keeps_dispose id

theorem keeps_dropAll (wrappers : List Wrapper) (known : ∀ wrapper ∈ wrappers, wrapper.handle ≠ none → bound = true) :
    Keeps late bound exit (unitsOf (wrappers.map (·.handle))) (dropAll wrappers) (dropAll wrappers) Eq fun _ => 0 := by
  induction wrappers with
  | nil => exact .pure rfl rfl
  | cons wrapper rest ih =>
    have dropped : Settles late bound (unitOf wrapper.handle) wrapper.drop wrapper.drop Eq fun _ => 0 :=
      keeps_drop wrapper (known wrapper (by simp))
    have framed := dropped.frame (unitsOf (rest.map (·.handle)))
    simp only [zero_add] at framed
    rw [List.map_cons, unitsOf_cons]
    exact framed.settled.bind_eq fun _ => ih fun other member => known other (by simp [member])

theorem keeps_className (wrapper : Wrapper) :
    Keeps late bound exit needs wrapper.className wrapper.className Eq fun _ => needs := by
  obtain ⟨kind, handle⟩ := wrapper
  cases handle with
  | none => exact .pure rfl rfl
  | some id => exact Bound.keeps_className id

end Wrapper

end CountBridge
