import CountBridge.Proofs.Calls

/-! What the bridge does by its calls keeps worlds in balance: release by either
policy, wrappers, text and errors, and whatever is done many times over. -/

namespace CountBridge

open Bridge World

variable {α β : Type} {terms : Terms} {bound : Bool} {held held' mine mine' : Multiset ObjectId} {heap : HeapId} {id : ObjectId}
  {before : World → Prop} {after : α → World → Prop} {unwound : Unwind → World → Prop}

theorem upholds_releaseHandle (id : ObjectId) :
    Upholds World.course (fun world => world.Balanced terms true ({id} + held) ({id} + mine)) (releaseHandle id)
      (fun _ world => world.Balanced terms true held mine) unwound :=
  (Bound.upholds_decrement id).bind fun _ => upholds_note rfl

theorem upholds_releaseAll (ids : List ObjectId) :
    Upholds World.course (fun world => world.Balanced terms true (↑ids + held) (↑ids + mine)) (releaseAll ids)
      (fun _ world => world.Balanced terms true held mine) unwound := by
  induction ids with
  | nil => exact .pure fun _ balanced => balanced.congr (zero_add held) (zero_add mine)
  | cons id rest ih =>
    have split (others : Multiset ObjectId) : (↑(id :: rest) : Multiset ObjectId) + others = {id} + (↑rest + others) := by
      rw [← Multiset.cons_coe, ← Multiset.singleton_add, add_assoc]
    have first : Upholds World.course (fun world => world.Balanced terms true (↑(id :: rest) + held) (↑(id :: rest) + mine))
        (releaseHandle id) (fun _ world => world.Balanced terms true (↑rest + held) (↑rest + mine)) unwound :=
      (upholds_releaseHandle id).strengthen fun _ balanced => balanced.congr (split held) (split mine)
    exact first.bind fun _ => ih

theorem upholds_modifyQueue {change : Queue ObjectId → Queue ObjectId}
    (shared : ∀ world binding, before world → world.binding? = some binding →
      ↑binding.queue.items.toList + held = ↑(change binding.queue).items.toList + held' ∧
        ↑binding.queue.items.toList + mine = ↑(change binding.queue).items.toList + mine') :
    Upholds World.course (fun world => world.Balanced terms true held mine ∧ before world) (modifyQueue change)
      (fun _ world => world.Balanced terms true held' mine') unwound := by
  refine ⟨goes_modifyQueue change, fun world ⟨balanced, known⟩ _ => ?_⟩
  obtain ⟨binding, found⟩ := balanced.sound.exists_binding
  obtain ⟨same, same'⟩ := shared world binding known found
  rw [← queued_of_bound found] at same same'
  rw [ends_modifyQueue found]
  exact balanced.share found same same'

theorem upholds_collect :
    Upholds World.course (fun world => world.Balanced terms true held mine) collect
      (fun _ world => world.Balanced terms true held mine) unwound := by
  apply upholds_binding
  intro binding
  have emptied : Upholds World.course (fun world => world.Balanced terms true held mine ∧ world.binding? = some binding)
      (modifyQueue fun _ => binding.queue.takeAll.2)
      (fun _ world => world.Balanced terms true (↑binding.queue.items.toList + held) (↑binding.queue.items.toList + mine))
      unwound := by
    refine upholds_modifyQueue fun world other found present => ?_
    rw [found] at present
    cases present
    exact ⟨(zero_add _).symm, (zero_add _).symm⟩
  apply emptied.bind
  intro _
  apply (upholds_releaseAll binding.queue.items.toList).bind
  intro _
  dsimp only
  split
  · exact (upholds_note rfl).bind fun _ => .pure fun _ balanced => balanced
  · exact .pure fun _ balanced => balanced

theorem upholds_deferRelease (id : ObjectId) :
    Upholds World.course (fun world => world.Balanced terms true ({id} + held) ({id} + mine)) (deferRelease id)
      (fun _ world => world.Balanced terms true held mine) unwound := by
  have pushed (queue : Queue ObjectId) (others : Multiset ObjectId) :
      (↑queue.items.toList : Multiset ObjectId) + ({id} + others) = ↑(queue.defer id).items.toList + others := by
    rw [Queue.items_defer, Array.toList_push, ← Multiset.coe_add, add_assoc]
    rfl
  have waits : Upholds World.course (fun world => world.Balanced terms true ({id} + held) ({id} + mine))
      (modifyQueue (·.defer id)) (fun _ world => world.Balanced terms true held mine) unwound :=
    (upholds_modifyQueue fun _ binding _ _ => ⟨pushed binding.queue held, pushed binding.queue mine⟩).strengthen
      fun _ balanced => ⟨balanced, trivial⟩
  apply waits.bind
  intro _
  apply upholds_binding
  intro _
  refine ((upholds_note rfl).strengthen fun _ known => known.1).bind fun _ => ?_
  apply upholds_binding
  intro _
  split
  · exact (upholds_collect.strengthen fun _ known => known.1).bind fun _ => .pure fun _ balanced => balanced
  · exact .pure fun _ known => known.1

theorem upholds_dispose (id : ObjectId) :
    Upholds World.course (fun world => world.Balanced terms true ({id} + held) ({id} + mine)) (dispose id)
      (fun _ world => world.Balanced terms true held mine) unwound := by
  apply upholds_binding
  intro binding
  split
  · exact (upholds_releaseHandle id).strengthen fun _ known => known.1
  · exact (upholds_deferRelease id).strengthen fun _ known => known.1

namespace Wrapper

def madeUnits (made : Except BridgeError Wrapper) : Multiset ObjectId := made.toOption.elim 0 fun wrapper => unitOf wrapper.handle

theorem upholds_retain_live (kind : WrapperKind) (id : ObjectId) :
    Upholds World.course (fun world => world.Balanced terms true held mine ∧ world.Lives id) (retain kind (some id))
      (fun _ world => world.Balanced terms true ({id} + held) ({id} + mine)) unwound :=
  (Bound.upholds_increment id).bind fun _ => .pure fun _ balanced => balanced

theorem upholds_retain (kind : WrapperKind) (handle : Handle) :
    Upholds World.course
      (fun world => world.Balanced terms true held mine ∧ ∀ id, handle = some id → world.Lives id) (retain kind handle)
      (fun made world => world.Balanced terms true (madeUnits made + held) (madeUnits made + mine)) unwound := by
  cases handle with
  | none => exact .pure fun _ known => known.1.congr (zero_add held).symm (zero_add mine).symm
  | some id =>
    refine ((Bound.upholds_increment id).strengthen fun _ known => ⟨known.1, known.2 id rfl⟩).bind fun _ => ?_
    exact .pure fun _ balanced => balanced

variable {wrapper : Wrapper}

/-- A wrapper's own unit keeps its object alive. -/
theorem upholds_clone (known : wrapper.handle ≠ none → bound = true) (own : ∀ id, wrapper.handle = some id → id ∈ held) :
    Upholds World.course (fun world => world.Balanced terms bound held mine) wrapper.clone
      (fun copy world => world.Balanced terms bound (unitOf copy.handle + held) (unitOf copy.handle + mine) ∧
        copy = wrapper) unwound := by
  obtain ⟨kind, handle⟩ := wrapper
  cases handle with
  | none => exact .pure fun _ balanced => ⟨balanced.congr (zero_add held).symm (zero_add mine).symm, rfl⟩
  | some id =>
    obtain rfl := known (by simp)
    refine ((Bound.upholds_increment id).strengthen fun _ balanced => ⟨balanced, balanced.lives (own id rfl)⟩).bind fun _ => ?_
    exact .pure fun _ balanced => ⟨balanced, rfl⟩

theorem upholds_release (known : wrapper.handle ≠ none → bound = true) :
    Upholds World.course
      (fun world => world.Balanced terms bound (unitOf wrapper.handle + held) (unitOf wrapper.handle + mine)) wrapper.release
      (fun _ world => world.Balanced terms bound held mine) unwound := by
  obtain ⟨kind, handle⟩ := wrapper
  cases handle with
  | none => exact .pure fun _ balanced => balanced.congr (zero_add held) (zero_add mine)
  | some id =>
    obtain rfl := known (by simp)
    exact (upholds_releaseHandle id).bind fun _ => .pure fun _ balanced => balanced

theorem upholds_drop (known : wrapper.handle ≠ none → bound = true) :
    Upholds World.course
      (fun world => world.Balanced terms bound (unitOf wrapper.handle + held) (unitOf wrapper.handle + mine)) wrapper.drop
      (fun _ world => world.Balanced terms bound held mine) unwound := by
  obtain ⟨kind, handle⟩ := wrapper
  cases handle with
  | none => exact .pure fun _ balanced => balanced.congr (zero_add held) (zero_add mine)
  | some id =>
    obtain rfl := known (by simp)
    exact upholds_dispose id

theorem upholds_dropAll (wrappers : List Wrapper) (known : ∀ wrapper ∈ wrappers, wrapper.handle ≠ none → bound = true) :
    Upholds World.course
      (fun world => world.Balanced terms bound (unitsOf (wrappers.map (·.handle)) + held)
        (unitsOf (wrappers.map (·.handle)) + mine)) (dropAll wrappers)
      (fun _ world => world.Balanced terms bound held mine) unwound := by
  induction wrappers with
  | nil => exact .pure fun _ balanced => balanced.congr (zero_add held) (zero_add mine)
  | cons wrapper rest ih =>
    have split (others : Multiset ObjectId) : unitsOf ((wrapper :: rest).map (·.handle)) + others =
        unitOf wrapper.handle + (unitsOf (rest.map (·.handle)) + others) := by
      rw [List.map_cons, unitsOf_cons, add_assoc]
    have dropped : Upholds World.course
        (fun world => world.Balanced terms bound (unitsOf ((wrapper :: rest).map (·.handle)) + held)
          (unitsOf ((wrapper :: rest).map (·.handle)) + mine)) wrapper.drop
        (fun _ world => world.Balanced terms bound (unitsOf (rest.map (·.handle)) + held)
          (unitsOf (rest.map (·.handle)) + mine)) unwound :=
      (upholds_drop (known wrapper (by simp))).strengthen fun _ balanced => balanced.congr (split held) (split mine)
    exact dropped.bind fun _ => ih fun other member => known other (by simp [member])

theorem upholds_className (known : wrapper.handle ≠ none → bound = true) (own : ∀ id, wrapper.handle = some id → id ∈ held) :
    Upholds World.course (fun world => world.Balanced terms bound held mine) wrapper.className
      (fun _ world => world.Balanced terms bound held mine) unwound := by
  obtain ⟨kind, handle⟩ := wrapper
  cases handle with
  | none => exact .pure fun _ balanced => balanced
  | some id =>
    obtain rfl := known (by simp)
    exact (Bound.upholds_className id).strengthen fun _ balanced => ⟨balanced, balanced.lives (own id rfl)⟩

end Wrapper

/-- An error that native code raised is trapped with its unit. -/
theorem Upholds.trap {routine : Bridge α} {gives : α → Multiset ObjectId} {fact : α → World → Prop}
    (raises : Upholds World.course before routine
      (fun value world => world.Balanced terms true (gives value + held) (gives value + mine) ∧ fact value world)
      (Thrown terms held mine)) :
    Upholds World.course before (CountBridge.trap routine)
      (fun outcome world => world.Balanced terms true (trapped gives outcome + held) (trapped gives outcome + mine) ∧
        ∀ value, outcome = .ok value → fact value world) unwound := by
  apply raises.outcomeOf.bind
  intro outcome
  cases outcome with
  | ok value =>
    exact .pure fun world known => ⟨known.1, fun other same => by cases same; exact known.2⟩
  | error payload =>
    refine ⟨(goes_intercept payload).bind fun _ => .pure _, ?_⟩
    rintro world ⟨id, rfl, balanced⟩ _
    exact ⟨balanced.note (.event (.trapped _)) rfl, nofun⟩

theorem upholds_newStringUnchecked (text : String) :
    Upholds World.course (fun world => world.Balanced terms true held mine) (newStringUnchecked text)
      (fun made world => ∃ id, made = ⟨.text, some id⟩ ∧ world.Balanced terms true ({id} + held) ({id} + mine) ∧
        world.store.HasString id) unwound :=
  (Bound.upholds_newString (valid_toUTF8 text)).bind fun made => .pure fun _ known => ⟨made, rfl, known⟩

theorem upholds_newString (text : String) :
    Upholds World.course (fun world => world.Balanced terms true held mine) (newString text)
      (fun made world => world.Balanced terms true (Wrapper.madeUnits made + held) (Wrapper.madeUnits made + mine)) unwound := by
  apply upholds_binding
  intro binding
  dsimp only
  split
  · exact .pure fun _ known => known.1.congr (zero_add held).symm (zero_add mine).symm
  · refine ((upholds_newStringUnchecked text).strengthen fun _ known => known.1).map ?_
    rintro _ world ⟨id, rfl, balanced, -⟩
    exact balanced

theorem upholds_newError (text : String) :
    Upholds World.course (fun world => world.Balanced terms true held mine) (newError text)
      (fun made world => world.Balanced terms true (unitOf made.handle + held) (unitOf made.handle + mine)) unwound := by
  apply upholds_binding
  intro binding
  simp only [newStringUnchecked, bind_assoc, pure_bind]
  apply ((Bound.upholds_newString (valid_toUTF8 _)).strengthen fun _ known => known.1).bind
  intro mess
  exact (Bound.upholds_newError mess).bind fun made => .pure fun _ balanced => balanced

theorem upholds_copyText (id : ObjectId) :
    Upholds World.course (fun world => (world.Balanced terms true held mine ∧ world.Lives id) ∧
        (terms.strict = true → world.store.HasString id)) (copyText id)
      (fun _ world => world.Balanced terms true held mine) unwound := by
  apply (Bound.upholds_stringBytes id).bind
  rintro ⟨bytes, size⟩
  cases bytes with
  | none => exact .pure fun _ balanced => balanced
  | some bytes => exact .pure fun _ balanced => balanced

theorem upholds_extractText (handle : Handle) (known : handle ≠ none → bound = true) :
    Upholds World.course (fun world => world.Balanced terms bound held mine ∧ ∀ id, handle = some id → world.Lives id)
      (extractText handle)
      (fun outcome world => world.Balanced terms bound (trapped (fun _ => 0) outcome + held)
        (trapped (fun _ => 0) outcome + mine)) unwound := by
  cases handle with
  | none => exact .pure fun _ known => known.1.congr (zero_add held).symm (zero_add mine).symm
  | some id =>
    obtain rfl := known (by simp)
    apply ((Bound.upholds_isString id).strengthen fun _ known => ⟨known.1, known.2 id rfl⟩).bind
    intro isString
    cases isString with
    | true =>
      apply ((upholds_copyText id).strengthen fun _ known => ⟨known.1, fun strict => known.2 strict rfl⟩).map
      exact fun _ _ balanced => balanced.congr (zero_add held).symm (zero_add mine).symm
    | false =>
      apply (((Bound.upholds_toString id).strengthen fun _ known => known.1).trap).bind
      intro outcome
      cases outcome with
      | error err => exact .pure fun _ known => known.1
      | ok coerced =>
        have read : Upholds World.course
            (fun world => world.Balanced terms true ({coerced} + held) ({coerced} + mine) ∧ ∀ value,
              (Except.ok coerced : Except Wrapper ObjectId) = .ok value → terms.strict = true → world.store.HasString value)
            (copyText coerced) (fun _ world => world.Balanced terms true ({coerced} + held) ({coerced} + mine)) unwound :=
          (upholds_copyText coerced).strengthen fun _ known => ⟨⟨known.1, known.1.lives (by simp)⟩, known.2 coerced rfl⟩
        apply read.bind
        intro text
        apply (upholds_releaseHandle coerced).bind
        intro _
        exact .pure fun _ balanced => balanced.congr (zero_add held).symm (zero_add mine).symm

namespace Wrapper

variable {wrapper : Wrapper}

theorem upholds_tryMessage (known : wrapper.handle ≠ none → bound = true) (own : ∀ id, wrapper.handle = some id → id ∈ held) :
    Upholds World.course (fun world => world.Balanced terms bound held mine) wrapper.tryMessage
      (fun outcome world => world.Balanced terms bound (trapped (fun _ => 0) outcome + held)
        (trapped (fun _ => 0) outcome + mine)) unwound := by
  obtain ⟨kind, handle⟩ := wrapper
  cases handle with
  | none => exact .pure fun _ balanced => balanced.congr (zero_add held).symm (zero_add mine).symm
  | some id =>
    obtain rfl := known (by simp)
    apply ((Bound.upholds_messageOf id).strengthen fun _ balanced => ⟨balanced, balanced.lives (own id rfl)⟩).bind
    exact fun mess => upholds_extractText mess fun _ => rfl

/-- An error met on the way is dropped. -/
theorem upholds_message (known : wrapper.handle ≠ none → bound = true) (own : ∀ id, wrapper.handle = some id → id ∈ held) :
    Upholds World.course (fun world => world.Balanced terms bound held mine) wrapper.message
      (fun _ world => world.Balanced terms bound held mine) unwound := by
  obtain ⟨kind, handle⟩ := wrapper
  cases handle with
  | none => exact .pure fun _ balanced => balanced
  | some id =>
    obtain rfl := known (by simp)
    apply (upholds_tryMessage known own).bind
    intro outcome
    cases outcome with
    | ok text => exact .pure fun _ balanced => balanced.congr (zero_add held) (zero_add mine)
    | error nested =>
      apply (upholds_note rfl).bind
      intro _
      exact (upholds_drop fun _ => rfl).bind fun _ => .pure fun _ balanced => balanced

theorem upholds_display (known : wrapper.handle ≠ none → bound = true) (own : ∀ id, wrapper.handle = some id → id ∈ held) :
    Upholds World.course (fun world => world.Balanced terms bound held mine) wrapper.display
      (fun _ world => world.Balanced terms bound held mine) unwound := by
  obtain ⟨kind, handle⟩ := wrapper
  cases handle with
  | none => exact .pure fun _ balanced => balanced
  | some id =>
    obtain rfl := known (by simp)
    apply ((upholds_extractText (some id) fun _ => rfl).strengthen fun _ balanced =>
      ⟨balanced, fun other same => balanced.lives (own other same)⟩).bind
    intro outcome
    cases outcome with
    | ok text => exact .pure fun _ balanced => balanced.congr (zero_add held) (zero_add mine)
    | error nested => exact (upholds_drop fun _ => rfl).bind fun _ => .pure fun _ balanced => balanced

end Wrapper

theorem met_bind {config : Config} {world : World} (balanced : world.Balanced terms bound held mine)
    (free : world.binding? = none) (inside : heap < terms.heaps) :
    Met (fun _ world => world.Balanced terms bound held mine) unwound (ends (do
      Bound.boot heap
      modify fun world => { world with binding? := some { heap, config } }
      report (.bootstrapped config.policy)
      pure (.ok config : Except BridgeError Config)) world) := by
  have lawful : world.meets .unbound = true := by simp [meets, isBound, free]
  have asked (world : World) : ends (heapAt heap) world = (.ok (world.heaps[heap]?.getD {}), world) := rfl
  simp only [Bound.boot, ends_bind, ends_before, Native.boot, asked]
  cases booted : (world.heaps[heap]?.getD {}).booted with
  | true =>
    exact ((balanced.bind free lawful inside booted).note (.event .alreadyBooted) rfl).note
      (.event (.bootstrapped config.policy)) rfl
  | false =>
    have ready : ((world.heaps.modify heap fun counters => { counters with booted := true })[heap]?.getD {}).booted = true := by
      simp [inside.trans_eq balanced.heaps.symm, Array.getElem_modify]
    exact ((balanced.boot heap).bind free lawful inside ready).note (.event (.bootstrapped config.policy)) rfl

theorem upholds_bootstrap {config : Config} {version : UInt32} (inside : heap < terms.heaps) :
    Upholds World.course (fun world => world.Balanced terms bound held mine) (bootstrap heap config version)
      (fun _ world => world.Balanced terms bound held mine) unwound := by
  refine ⟨goes_bootstrap heap config version, fun world balanced _ => ?_⟩
  cases valid : config.validate with
  | error error =>
    rw [bootstrap, valid]
    exact balanced
  | ok checked =>
    cases matching : checkVersion version with
    | error error =>
      simp only [bootstrap, valid, matching]
      exact balanced.version
    | ok accepted =>
      cases free : world.binding? with
      | some binding =>
        rw [ends_bootstrap_taken heap valid matching (by simp [free])]
        exact balanced.version
      | none =>
        have asked : ends Bound.askVersion world = (.ok (), { world with
            journal := world.journal.push (.call .version true) }) := rfl
        simp only [bootstrap, valid]
        rw [ends_bind_ok asked]
        simp only [matching]
        rw [ends_bind_ok (ends_get _)]
        dsimp only
        rw [if_neg (by simp [free])]
        exact met_bind balanced.version free inside

namespace Program

variable {watched : Bool}

theorem upholds_repetition {action : Bridge α} {held' mine' : α → Multiset ObjectId}
    (recorded : terms.strict = true → watched = true)
    (upholds : Upholds World.course before action (fun value world => world.Balanced terms bound (held' value) (mine' value)) Nowhere) :
    Upholds World.course before (repetition watched action)
      (fun value world => world.Balanced terms bound (held' value) (mine' value)) Nowhere := by
  cases watched with
  | true => exact upholds
  | false =>
    rw [repetition, if_neg (by simp)]
    refine ⟨goes_unrecorded upholds.onward, fun world known quiet => ?_⟩
    have met := upholds.met world known
    rw [ends_unrecorded] at quiet ⊢
    generalize ends action world = ended at met quiet ⊢
    obtain ⟨outcome, last⟩ := ended
    cases outcome with
    -- Nothing is kept of the journal, which the books allow where nobody watches.
    | ok value => exact (met quiet).forget (by simpa using recorded) _
    | error payload => exact met quiet

/-- Repeated gains add up. -/
theorem upholds_repeatedly_gain {action : Bridge Unit} (recorded : terms.strict = true → watched = true) (count : Nat)
    (upholds : ∀ held mine, Upholds World.course (fun world => world.Balanced terms bound held mine ∧ world.Lives id) action
      (fun _ world => world.Balanced terms bound ({id} + held) ({id} + mine)) Nowhere) :
    Upholds World.course (fun world => world.Balanced terms bound held mine ∧ world.Lives id) (repeatedly watched count action)
      (fun _ world => world.Balanced terms bound (count • {id} + held) (count • {id} + mine)) Nowhere := by
  induction count generalizing held mine with
  | zero => exact .pure fun _ known => by simpa using known.1
  | succ count ih =>
    have first : Upholds World.course (fun world => world.Balanced terms bound held mine ∧ world.Lives id)
        (repetition watched action)
        (fun _ world => world.Balanced terms bound ({id} + held) ({id} + mine) ∧ world.Lives id) Nowhere :=
      (upholds_repetition recorded (upholds held mine)).weaken fun _ _ balanced => ⟨balanced, balanced.lives (by simp)⟩
    apply first.bind
    intro _
    exact ih.weaken fun _ _ balanced => balanced.congr (by rw [succ_nsmul, add_assoc]) (by rw [succ_nsmul, add_assoc])

theorem upholds_repeatedly_loss {action : Bridge Unit} (recorded : terms.strict = true → watched = true) (count : Nat)
    (upholds : ∀ held mine, Upholds World.course (fun world => world.Balanced terms bound ({id} + held) ({id} + mine)) action
      (fun _ world => world.Balanced terms bound held mine) Nowhere) :
    Upholds World.course (fun world => world.Balanced terms bound (count • {id} + held) (count • {id} + mine))
      (repeatedly watched count action) (fun _ world => world.Balanced terms bound held mine) Nowhere := by
  induction count with
  | zero => exact .pure fun _ balanced => by simpa using balanced
  | succ count ih =>
    have first := (upholds_repetition recorded (upholds (count • {id} + held) (count • {id} + mine)))
    refine (first.strengthen fun _ balanced => ?_).bind fun _ => ih
    exact balanced.congr (by rw [succ_nsmul', add_assoc]) (by rw [succ_nsmul', add_assoc])

theorem upholds_countOf (id : ObjectId) : Upholds World.course before (countOf id) (fun _ => before) unwound :=
  upholds_get

theorem upholds_burst (recorded : terms.strict = true → watched = true) (id : ObjectId) (count : Nat) :
    Upholds World.course (fun world => world.Balanced terms true held mine ∧ world.Lives id) (burst watched id count)
      (fun _ world => world.Balanced terms true held mine) unwound := by
  refine Upholds.anywhere ?_
  have gain (held mine : Multiset ObjectId) :
      Upholds World.course (fun world => world.Balanced terms true held mine ∧ world.Lives id)
        (do let _ ← Wrapper.retain .object (some id))
        (fun _ world => world.Balanced terms true ({id} + held) ({id} + mine)) Nowhere :=
    (Wrapper.upholds_retain_live .object id).bind fun _ => .pure fun _ balanced => balanced
  apply (upholds_repeatedly_gain recorded count gain).bind
  intro _
  apply (upholds_countOf id).bind
  intro during
  apply (upholds_repeatedly_loss recorded count fun held mine => upholds_dispose id).bind
  intro _
  exact (upholds_countOf id).bind fun last => .pure fun _ balanced => balanced

theorem upholds_cloneRepeatedly (recorded : terms.strict = true → watched = true) (kind : WrapperKind) (id : ObjectId)
    (count : Nat) (equal : Bool) :
    Upholds World.course (fun world => world.Balanced terms true ({id} + held) ({id} + mine))
      (cloneRepeatedly watched ⟨kind, some id⟩ count equal)
      (fun _ world => world.Balanced terms true ((count + 1) • {id} + held) ((count + 1) • {id} + mine)) Nowhere := by
  induction count generalizing held mine equal with
  | zero => exact .pure fun _ balanced => by simpa using balanced
  | succ count ih =>
    have cloned : Upholds World.course (fun world => world.Balanced terms true ({id} + held) ({id} + mine))
        (Wrapper.clone ⟨kind, some id⟩)
        (fun _ world => world.Balanced terms true ({id} + ({id} + held)) ({id} + ({id} + mine))) Nowhere :=
      ((Bound.upholds_increment id).strengthen fun _ balanced => ⟨balanced, balanced.lives (by simp)⟩).bind fun _ =>
        .pure fun _ balanced => balanced
    apply (upholds_repetition recorded cloned).bind
    intro copy
    exact (ih _).weaken fun _ _ balanced =>
      balanced.congr (by rw [succ_nsmul _ (count + 1), add_assoc]) (by rw [succ_nsmul _ (count + 1), add_assoc])

/-- Whether the copies so far were equal changes nothing but the answer. -/
theorem ends_cloneRepeatedly (wrapper : Wrapper) (count : Nat) (equal : Bool) (world : World) :
    ends (cloneRepeatedly watched wrapper count equal) world =
      ((ends (cloneRepeatedly watched wrapper count true) world).1.map (equal && ·),
        (ends (cloneRepeatedly watched wrapper count true) world).2) := by
  induction count generalizing equal world with
  | zero => simp [cloneRepeatedly, Except.map]
  | succ count ih =>
    simp only [cloneRepeatedly, Bool.true_and]
    rcases cloned : ends (repetition watched wrapper.clone) world with ⟨payload | copy, last⟩
    · rw [ends_bind_error cloned, ends_bind_error cloned]
      rfl
    · rw [ends_bind_ok cloned, ends_bind_ok cloned, ih, ih (copy.same wrapper)]
      rcases ends (cloneRepeatedly watched wrapper count true) last with ⟨payload | value, _⟩
      · rfl
      · simp [Except.map, Bool.and_assoc]

theorem ends_hammer_state (id : ObjectId) (count threads : Nat) (equal : Bool) (world : World) :
    (ends (hammer watched id count threads equal) world).2 = (ends (hammer watched id count threads true) world).2 := by
  induction threads generalizing equal world with
  | zero => rfl
  | succ threads ih =>
    simp only [hammer]
    rcases retained : ends (repetition watched (Wrapper.retain .object (some id))) world with ⟨payload | made, w⟩
    · rw [ends_bind_error retained, ends_bind_error retained]
    · rw [ends_bind_ok retained, ends_bind_ok retained, ends_bind, ends_bind, ends_cloneRepeatedly]
      rcases ends (cloneRepeatedly watched ⟨.object, some id⟩ count true) w with ⟨payload | value, v⟩
      · rfl
      · dsimp only [Except.map]
        rcases dropped : ends (repeatedly watched (count + 1) (Wrapper.drop ⟨.object, some id⟩)) v with ⟨payload | done, u⟩
        · rw [ends_bind_error dropped, ends_bind_error dropped]
        · rw [ends_bind_ok dropped, ends_bind_ok dropped, ih, ih value]

def hammerOnce (watched : Bool) (id : ObjectId) (count : Nat) (equal : Bool) : Bridge Bool := do
  let _ ← repetition watched (Wrapper.retain .object (some id))
  let equal ← cloneRepeatedly watched ⟨.object, some id⟩ count equal
  repeatedly watched (count + 1) (Wrapper.drop ⟨.object, some id⟩)
  pure equal

theorem hammer_succ (id : ObjectId) (count threads : Nat) (equal : Bool) :
    hammer watched id count (threads + 1) equal =
      hammerOnce watched id count equal >>= hammer watched id count threads := by
  simp only [hammer, hammerOnce, bind_assoc, pure_bind]

theorem upholds_hammerOnce (recorded : terms.strict = true → watched = true) (id : ObjectId) (count : Nat) (equal : Bool) :
    Upholds World.course (fun world => world.Balanced terms true held mine ∧ world.Lives id)
      (hammerOnce watched id count equal) (fun _ world => world.Balanced terms true held mine) Nowhere := by
  apply (upholds_repetition recorded (Wrapper.upholds_retain_live .object id)).bind
  intro _
  apply (upholds_cloneRepeatedly recorded .object id count equal).bind
  intro _
  apply (upholds_repeatedly_loss recorded (count + 1) fun held mine => upholds_dispose id).bind
  exact fun _ => .pure fun _ balanced => balanced

theorem upholds_hammer (recorded : terms.strict = true → watched = true) (id : ObjectId) (count threads : Nat) (equal : Bool) :
    Upholds World.course (fun world => world.Balanced terms true held mine ∧ Outlasts watched id count threads world)
      (hammer watched id count threads equal) (fun _ world => world.Balanced terms true held mine) unwound := by
  induction threads generalizing equal with
  | zero => exact (upholds_countOf id).bind fun _ => .pure fun _ known => known.1
  | succ threads ih =>
    have settles : Settles false true 0 (hammer watched id count (threads + 1) equal) (hammer watched id count (threads + 1) equal)
        (Agree false fun first second => first.1 = second.1) fun _ => 0 := keeps_hammer watched id count (threads + 1) equal
    have once : Upholds World.course (fun world => world.Balanced terms true held mine ∧ world.Lives id)
        (hammerOnce watched id count equal) (fun _ world => world.Balanced terms true held mine) Nowhere :=
      upholds_hammerOnce recorded id count equal
    refine ⟨(settles 0).onward, ?_⟩
    rintro world ⟨balanced, outlasts⟩ quiet
    have lives : world.Lives id := Option.isSome_iff_exists.mp (outlasts 0 threads.succ_pos)
    rw [hammer_succ] at quiet ⊢
    have met := once.met world ⟨balanced, lives⟩
      (World.course.quiet_of_order' (Onward.order_bind (fun value => (ih value).onward) _ world) quiet)
    obtain ⟨value, last, ended, still⟩ := met.returns
    rw [ends_bind_ok ended] at quiet ⊢
    -- That the object outlasts all threads tells that it outlasts the others from where the first one ended.
    refine (ih value).met last ⟨still, fun earlier small => ?_⟩ quiet
    have later := outlasts (earlier + 1) (Nat.succ_lt_succ small)
    rwa [← ends_hammer_state id count (earlier + 1) equal, hammer_succ, ends_bind_ok ended, ends_hammer_state] at later

theorem upholds_readTwice {wrapper : Wrapper} (known : wrapper.handle ≠ none → bound = true)
    (own : ∀ id, wrapper.handle = some id → id ∈ held) :
    Upholds World.course (fun world => world.Balanced terms bound held mine) (readTwice wrapper)
      (fun found world => world.Balanced terms bound (trapped (fun _ => 0) found.1 + held) (trapped (fun _ => 0) found.1 + mine))
      unwound := by
  have own' (first : Except Wrapper String) (id : ObjectId) (same : wrapper.handle = some id) :
      id ∈ trapped (fun _ => 0) first + held := Multiset.mem_add.mpr (.inr (own id same))
  unfold readTwice
  split
  · apply ((upholds_extractText wrapper.handle known).strengthen fun _ balanced =>
      ⟨balanced, fun id same => balanced.lives (own id same)⟩).bind
    intro first
    exact (Wrapper.upholds_display known (own' first)).bind fun _ => .pure fun _ balanced => balanced
  · apply (Wrapper.upholds_tryMessage known own).bind
    intro first
    exact (Wrapper.upholds_message known (own' first)).bind fun _ => .pure fun _ balanced => balanced

theorem upholds_ownText (id : ObjectId) : Upholds World.course before (ownText id) (fun _ => before) unwound :=
  upholds_get

end Program

end CountBridge
