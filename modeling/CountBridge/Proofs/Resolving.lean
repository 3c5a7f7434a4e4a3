import CountBridge.Proofs.Alongside

/-! What an operation names means the same in both sessions, and what it keeps is
kept in both. -/

namespace CountBridge.Program

open World

variable {α β : Type} {late bound : Bool} {held more : Multiset ObjectId}
  {unwound : Unwind → Session α → Session α → Prop}

theorem sim_rebook {change : Session α → Session α}
    (apart : ∀ session world steps, change { session with world, steps } = { change session with world, steps })
    (heaps : ∀ session, (change session).heaps = session.heaps)
    (paid : ∀ s t, Session.Linked late bound held s t → (change t).holdings + more = t.holdings + held)
    (idle : ∀ s t, Session.Linked late bound held s t → bound = false →
      ∀ wrapper ∈ contents (change t).frames, wrapper.handle = none) :
    Sim Session.course (Session.Linked late bound held) (update change) (update change) Eq
      (fun _ _ => Session.Linked late bound more) unwound := by
  have goes : Onward Session.course (update change) := by
    intro session
    have world : (change session).world = session.world := by
      rw [show change session = { change session with world := session.world, steps := session.steps } from
        apart session _ _]
    change session.world.Continues (change session).world
    rw [world]
    exact World.Continues.refl _
  refine ⟨goes, goes, fun s t linked _ _ => ?_⟩
  exact .value rfl (linked.rebook change apart (heaps t) (paid s t linked) (idle s t linked))

theorem Session.Linked.settled {s t : Session α} (linked : Session.Linked late bound held s t) :
    Settled late held s t := ⟨bound, nofun, linked⟩

theorem holdings_gain (session : Session α) (handle : Handle) :
    (session.gain handle).holdings = unitOf handle + session.holdings := by
  cases handle with
  | none => simp [Session.gain]
  | some id =>
    simp only [Session.gain, Session.holdings, ← Multiset.cons_coe, ← Multiset.singleton_add, unitOf_some]
    abel

theorem holdings_bindHandle (session : Session α) (keep : Option Name) (handle : Handle) :
    (session.bindHandle keep handle).holdings = session.holdings := by
  cases keep <;> rfl

theorem frames_gain (session : Session α) (handle : Handle) : (session.gain handle).frames = session.frames := by
  cases handle <;> rfl

theorem frames_bindHandle (session : Session α) (keep : Option Name) (handle : Handle) :
    (session.bindHandle keep handle).frames = session.frames := by
  cases keep <;> rfl

theorem sim_gain (handle : Handle) :
    Sim Session.course (Session.Linked late bound (unitOf handle + held)) (update fun session => session.gain handle)
      (update fun session => session.gain handle) Eq (fun _ _ => Session.Linked late bound held) unwound := by
  refine sim_rebook (fun session world steps => ?_) (fun session => ?_) (fun s t _ => ?_) (fun s t linked => ?_)
  · cases handle <;> rfl
  · cases handle <;> rfl
  · rw [holdings_gain, add_assoc, add_left_comm]
  · rw [frames_gain]
    exact linked.idle

theorem sim_bindHandle (keep : Option Name) (handle : Handle) :
    Sim Session.course (Session.Linked late bound held) (update fun session => session.bindHandle keep handle)
      (update fun session => session.bindHandle keep handle) Eq (fun _ _ => Session.Linked late bound held)
      unwound := by
  refine sim_rebook (fun session world steps => ?_) (fun session => ?_) (fun s t _ => ?_) (fun s t linked => ?_)
  · cases keep <;> rfl
  · cases keep <;> rfl
  · rw [holdings_bindHandle]
  · rw [frames_bindHandle]
    exact linked.idle

/-- Answering ends an operation when nothing is in hand any more. -/
theorem performs_answer (answer : Answer α) : Performs late bound 0 (pure answer) :=
  .pure (Alike.refl answer) fun _ _ linked => linked.settled

theorem performs_keepHandle (keep : Option Name) (handle : Handle) :
    Performs (α := α) late bound 0 (keepHandle keep handle) :=
  (sim_bindHandle keep handle).bind_eq fun _ => performs_answer _

theorem performs_keepUnit (keep : Option Name) (handle : Handle) :
    Performs (α := α) late bound (unitOf handle) (keepUnit keep handle) := by
  let change (session : Session α) := (session.gain handle).bindHandle keep handle
  have kept : Sim Session.course (Session.Linked late bound (unitOf handle)) (update change) (update change) Eq
      (fun _ _ => Session.Linked late bound 0) (Flown late) := by
    refine sim_rebook (fun session world steps => ?_) (fun session => ?_) (fun s t _ => ?_) (fun s t linked => ?_)
    · cases handle <;> cases keep <;> rfl
    · cases handle <;> cases keep <;> rfl
    · rw [holdings_bindHandle, holdings_gain, add_zero, add_comm]
    · rw [frames_bindHandle, frames_gain]
      exact linked.idle
  exact kept.bind_eq fun _ => performs_answer _

theorem sim_keepWrapper (keep : Option Name) (wrapper : Wrapper) (known : wrapper.handle ≠ none → bound = true) :
    Sim Session.course (Session.Linked (α := α) late bound (unitOf wrapper.handle)) (keepWrapper keep wrapper)
      (keepWrapper keep wrapper) Eq (fun _ _ => Session.Linked late bound 0) unwound := by
  cases keep with
  | none =>
    rw [← add_zero (unitOf wrapper.handle)]
    exact sim_lift_spends (wrapper.keeps_drop known)
  | some name =>
    refine sim_rebook (fun session world steps => rfl) (fun session => rfl) (fun s t _ => ?_) (fun s t linked unknown => ?_)
    · simp only [Session.holdings, contents_store, unitsIn_add, unitsIn_singleton, add_zero]
      abel
    · simp only [contents_store, Multiset.mem_add, Multiset.mem_singleton]
      rintro other (rfl | member)
      · by_contra present
        rw [known present] at unknown
        cases unknown
      · exact linked.idle unknown other member

theorem sim_describe (err : Wrapper) (known : err.handle ≠ none → bound = true) :
    Sim Session.course (Session.Linked (α := α) late bound held) (describe err) (describe err) Eq
      (fun _ _ => Session.Linked late bound held) unwound :=
  (sim_lift_keeps (keeps_record fun _ => rfl)).bind_eq fun _ =>
    (sim_lift_keeps (err.keeps_message known)).bind_eq fun _ => .pure rfl fun _ _ linked => linked

theorem sim_caught (keep : Option Name) (err : Wrapper) (known : err.handle ≠ none → bound = true) :
    Sim Session.course (Session.Linked (α := α) late bound (unitOf err.handle)) (caught keep err)
      (caught keep err) Eq (fun _ _ => Session.Linked late bound 0) unwound :=
  (sim_describe err known).bind_eq fun _ =>
    (sim_keepWrapper keep err known).bind_eq fun _ => .pure rfl fun _ _ linked => linked

theorem performs_keepMade (keep : Option Name) (made : Except BridgeError Wrapper)
    (known : ∀ wrapper, made = .ok wrapper → wrapper.handle ≠ none → bound = true) :
    Performs (α := α) late bound (made.toOption.elim 0 fun wrapper => unitOf wrapper.handle) (keepMade keep made) := by
  cases made with
  | error error => exact performs_answer _
  | ok wrapper =>
    apply (sim_lift_keeps (keeps_record fun _ => rfl)).bind_eq
    intro _
    exact (sim_keepWrapper keep wrapper (known wrapper rfl)).bind_eq fun _ => performs_answer _

/-- What unwound to the end of a thread or of the program is dropped there. -/
theorem sim_conclude (payload : Unwind) :
    Sim Session.course (Flown (α := α) late payload) (conclude payload) (conclude payload) Eq
      (fun _ _ => Settled late 0) unwound := by
  refine .of_exists ⟨true, fun _ => rfl⟩ fun bound known => ?_
  cases payload with
  | text message => exact .pure rfl fun _ _ linked => linked.settled
  | number value => exact .pure rfl fun _ _ linked => linked.settled
  | fault cause => exact .pure rfl fun _ _ linked => linked.settled
  | native err =>
    have known : err.handle ≠ none → bound = true := fun present => known (Option.isSome_iff_ne_none.mpr present)
    exact (sim_caught none err known).bind_eq fun _ => .pure rfl fun _ _ linked => linked.settled

section Resolving

variable {name : Name} {session : Session α}

theorem goes_session : Onward (Session.course (α := α)) CountBridge.Program.session :=
  fun session => World.Continues.refl session.world

theorem performs_refuse (refusal : Refusal) : Performs (α := α) late bound 0 (refuse refusal) := by
  by_cases dead : refusal = .deadHandle
  · subst dead
    have ended (session : Session α) : ends (refuse .deadHandle) session =
        (.ok (.refused .deadHandle), { session with world := { session.world with breached := true } }) := rfl
    have goes : Onward Session.course (refuse .deadHandle : Run α (Answer α)) :=
      fun session => goes_breach session.world
    refine ⟨goes, goes, fun s t linked quiet _ => ?_⟩
    rw [ended] at quiet
    cases quiet.2
  · rw [refuse, if_neg dead]
    exact performs_answer _

theorem goes_refuse (refusal : Refusal) : Onward (Session.course (α := α)) (refuse refusal) := by
  have performs : Performs (α := α) false true 0 (refuse refusal) := performs_refuse refusal
  exact performs.onward

theorem ends_withHeap (next : HeapId → Run α (Answer α)) :
    ends (withHeap name next) session = ends (match lookup name session.heaps with
      | some heap => next heap
      | none => refuse .noSuchHeap) session := rfl

/-- The heap is there, and it is the only one if one side is behind. -/
theorem sim_withHeap {next next' : HeapId → Run α (Answer α)}
    (each : ∀ heap, Sim Session.course
      (fun s t => Session.Linked late bound 0 s t ∧ heap < t.world.heaps.size ∧ (late = true → heap = 0)) (next heap)
      (next' heap) (Alike late) (fun _ _ => Settled late 0) (Flown late)) :
    Sim Session.course (Session.Linked late bound 0) (withHeap name next) (withHeap name next') (Alike late)
      (fun _ _ => Settled late 0) (Flown late) := by
  have refused : Performs (α := α) late bound 0 (refuse .noSuchHeap) := performs_refuse _
  have goes {next : HeapId → Run α (Answer α)} (onward : ∀ heap, Onward Session.course (next heap)) :
      Onward Session.course (withHeap name next) := by
    apply goes_session.bind
    intro session
    split
    next heap _ => exact onward heap
    next => exact refused.onward
  refine ⟨goes fun heap => (each heap).onward, goes fun heap => (each heap).onward', fun s t linked quiet quiet' => ?_⟩
  rw [ends_withHeap, linked.heaps] at quiet ⊢
  rw [ends_withHeap] at quiet' ⊢
  cases found : lookup name t.heaps with
  | none =>
    rw [found] at quiet quiet'
    exact refused.together s t linked quiet quiet'
  | some heap =>
    rw [found] at quiet quiet'
    have single : late = true → heap = 0 := fun behind => linked.single behind name heap found
    exact (each heap).together s t ⟨linked, linked.inside name heap found, single⟩ quiet quiet'

theorem performs_withHeap {next : HeapId → Run α (Answer α)}
    (each : ∀ late bound heap, (late = true → heap = 0) → Performs late bound 0 (next heap)) :
    Performs late bound 0 (withHeap name next) := by
  apply sim_withHeap
  intro heap
  have onward : Onward Session.course (next heap) := (each false true heap nofun).onward
  refine ⟨onward, onward, fun s t ⟨linked, _, single⟩ quiet quiet' => ?_⟩
  exact (each late bound heap single).together s t linked quiet quiet'

theorem ends_withHandle (next : Handle → Run α (Answer α)) :
    ends (withHandle name next) session = ends (match session.handleNamed name with
      | .ok handle => next handle
      | .error refusal => refuse refusal) session := rfl

theorem performs_withHandle {next : Handle → Run α (Answer α)} (each : ∀ handle, Performs late bound 0 (next handle)) :
    Performs late bound 0 (withHandle name next) := by
  have goes : Onward Session.course (withHandle name next) := by
    apply goes_session.bind
    intro session
    split
    next handle _ => exact (each handle).onward
    next refusal _ => exact goes_refuse _
  refine ⟨goes, goes, fun s t linked quiet quiet' => ?_⟩
  rw [ends_withHandle, Session.handleNamed, linked.meaning?] at quiet ⊢
  rw [ends_withHandle, Session.handleNamed] at quiet' ⊢
  cases named : t.meaning? name with
  | none =>
    rw [named] at quiet quiet'
    exact (performs_refuse _).together s t linked quiet quiet'
  | some handle =>
    rw [named] at quiet quiet'
    cases handle with
    | none => exact (each none).together s t linked quiet quiet'
    | some id =>
      dsimp only at quiet quiet' ⊢
      -- A handle that is dead on the left breaks a condition there; one that is not is alive on both sides.
      cases found : s.world.store.find? id with
      | none =>
        rw [show s.world.store.isLive id = false by simp [Store.isLive, found]] at quiet
        cases quiet.2
      | some kept =>
        obtain ⟨object, present, -⟩ := linked.world.survivor found
        have live : s.world.store.isLive id = true := by simp [Store.isLive, found]
        have live' : t.world.store.isLive id = true := by simp [Store.isLive, present]
        rw [live] at quiet ⊢
        rw [live'] at quiet' ⊢
        exact (each (some id)).together s t linked quiet quiet'

theorem performs_withLive {next : ObjectId → Run α (Answer α)} (each : ∀ id, Performs late bound 0 (next id)) :
    Performs late bound 0 (withLive name next) := by
  apply performs_withHandle
  intro handle
  cases handle with
  | none => exact performs_refuse _
  | some id => exact each id

theorem ends_withBinding (next : Binding → Run α (Answer α)) :
    ends (withBinding next) session = ends (match session.world.binding? with
      | some binding => next binding
      | none => pure (.failed .notBootstrapped)) session := rfl

theorem performs_withBinding {next : Binding → Run α (Answer α)}
    (each : ∀ binding binding', (late = false → binding = binding') →
      Sim Session.course (Session.Linked late true 0) (next binding) (next binding') (Alike late)
        (fun _ _ => Settled late 0) (Flown late)) :
    Performs late bound 0 (withBinding next) := by
  have goes : Onward Session.course (withBinding next) := by
    apply goes_session.bind
    intro session
    split
    next binding _ => exact (each binding binding fun _ => rfl).onward
    next => exact .pure _
  refine ⟨goes, goes, fun s t linked quiet quiet' => ?_⟩
  have same := linked.world.isBound
  rw [ends_withBinding] at quiet quiet' ⊢
  rw [ends_withBinding]
  cases found : t.world.binding? with
  | none =>
    have missing : s.world.binding? = none := by simpa [World.isBound, found] using same
    rw [missing] at quiet ⊢
    rw [found] at quiet'
    exact (performs_answer _).together s t linked quiet quiet'
  | some binding' =>
    have known : t.world.isBound = true := by simp [World.isBound, found]
    obtain ⟨binding, present⟩ := Option.isSome_iff_exists.mp (same.trans known)
    have alike : late = false → binding = binding' := by
      intro prompt
      rw [linked.same prompt, found] at present
      exact (Option.some.inj present).symm
    rw [found] at quiet'
    rw [present] at quiet ⊢
    exact (each binding binding' alike).together s t (linked.upgrade known) quiet quiet'

theorem sim_spend (id : ObjectId) :
    Sim Session.course (fun s t => Session.Linked late bound held s t ∧ id ∈ t.units)
      (update fun session : Session α => { session with units := session.units.erase id })
      (update fun session : Session α => { session with units := session.units.erase id }) Eq
      (fun _ _ => Session.Linked late bound ({id} + held)) unwound := by
  have goes : Onward Session.course (update fun session : Session α =>
      { session with units := session.units.erase id }) := fun session => World.Continues.refl session.world
  refine ⟨goes, goes, fun s t ⟨linked, member⟩ _ _ => ?_⟩
  refine .value rfl (linked.rebook (fun session => { session with units := session.units.erase id }) (fun _ _ _ => rfl) rfl ?_
    linked.idle)
  have split : ({id} : Multiset ObjectId) + ↑(t.units.erase id) = ↑t.units := by
    rw [← Multiset.coe_erase, Multiset.singleton_add, Multiset.cons_erase (Multiset.mem_coe.mpr member)]
  simp only [Session.holdings]
  rw [← split]
  abel

theorem performs_spending {handle : Handle} {next : Run α (Answer α)}
    (spent : Performs late bound (unitOf handle) next) : Performs late bound 0 (spending handle next) := by
  cases handle with
  | none => exact spent
  | some id =>
    have given : Sim Session.course (fun s t => Session.Linked late bound 0 s t ∧ id ∈ t.units)
        (do update fun session : Session α => { session with units := session.units.erase id }; next)
        (do update fun session : Session α => { session with units := session.units.erase id }; next)
        (Alike late) (fun _ _ => Settled late 0) (Flown late) := by
      apply (sim_spend id).bind_eq
      intro _
      rwa [add_zero]
    have ended (session : Session α) : ends (spending (some id) next) session = ends (if id ∈ session.units then do
        update fun session : Session α => { session with units := session.units.erase id }
        next
      else refuse .noUnit) session := rfl
    have goes : Onward Session.course (spending (some id) next) := by
      apply goes_session.bind
      intro session
      split
      · exact given.onward
      · exact goes_refuse _
    refine ⟨goes, goes, fun s t linked quiet quiet' => ?_⟩
    rw [ended, linked.units] at quiet ⊢
    rw [ended] at quiet' ⊢
    by_cases member : id ∈ t.units
    · rw [if_pos member] at quiet quiet' ⊢
      exact given.together s t ⟨linked, member⟩ quiet quiet'
    · rw [if_neg member] at quiet quiet' ⊢
      exact (performs_refuse _).together s t linked quiet quiet'

theorem ends_withWrapper (next : Wrapper → Run α (Answer α)) :
    ends (withWrapper name next) session = ends (match findWrapper name session.frames with
      | some wrapper => next wrapper
      | none => refuse .noSuchWrapper) session := rfl

theorem performs_withWrapper_found {next : Wrapper → Run α (Answer α)}
    (each : ∀ bound wrapper, (wrapper.handle ≠ none → bound = true) →
      Sim Session.course (fun s t => Session.Linked late bound 0 s t ∧ findWrapper name t.frames = some wrapper)
        (next wrapper) (next wrapper) (Alike late) (fun _ _ => Settled late 0) (Flown late)) :
    Performs late bound 0 (withWrapper name next) := by
  have goes : Onward Session.course (withWrapper name next) := by
    apply goes_session.bind
    intro session
    split
    next wrapper _ => exact (each true wrapper fun _ => rfl).onward
    next => exact goes_refuse _
  refine ⟨goes, goes, fun s t linked quiet quiet' => ?_⟩
  rw [ends_withWrapper, linked.frames] at quiet ⊢
  rw [ends_withWrapper] at quiet' ⊢
  cases found : findWrapper name t.frames with
  | none =>
    rw [found] at quiet quiet'
    exact (performs_refuse _).together s t linked quiet quiet'
  | some wrapper =>
    rw [found] at quiet quiet'
    have known : wrapper.handle ≠ none → bound = true := by
      intro present
      by_contra unknown
      exact present (linked.idle (eq_false_of_ne_true unknown) wrapper (mem_contents_of_find found))
    exact (each bound wrapper known).together s t ⟨linked, found⟩ quiet quiet'

theorem performs_withWrapper {next : Wrapper → Run α (Answer α)}
    (each : ∀ bound wrapper, (wrapper.handle ≠ none → bound = true) → Performs late bound 0 (next wrapper)) :
    Performs late bound 0 (withWrapper name next) :=
  performs_withWrapper_found fun bound wrapper known => (each bound wrapper known).strengthen fun _ _ met => met.1

theorem ends_taking (next : Wrapper → Run α (Answer α)) :
    ends (taking name next) session = match takeWrapper name session.frames with
      | some (wrapper, frames) => ends (next wrapper) { session with frames }
      | none => ends (refuse .noSuchWrapper) session := by
  have begun : ends (taking name next) session = ends (match takeWrapper name session.frames with
      | some (wrapper, frames) => do
        update fun session => { session with frames }
        next wrapper
      | none => refuse .noSuchWrapper) session := rfl
  rw [begun]
  split <;> rfl

/-- A wrapper leaves its scope, and its unit is in hand. -/
theorem sim_taking {next next' : Wrapper → Run α (Answer α)}
    (each : ∀ bound wrapper, (wrapper.handle ≠ none → bound = true) →
      Sim Session.course (Session.Linked late bound (unitOf wrapper.handle)) (next wrapper) (next' wrapper) (Alike late)
        (fun _ _ => Settled late 0) (Flown late)) :
    Sim Session.course (Session.Linked late bound 0) (taking name next) (taking name next') (Alike late)
      (fun _ _ => Settled late 0) (Flown late) := by
  have refused : Performs (α := α) late bound 0 (refuse .noSuchWrapper) := performs_refuse _
  have goes {next : Wrapper → Run α (Answer α)} (onward : ∀ wrapper, Onward Session.course (next wrapper)) :
      Onward Session.course (taking name next) := by
    intro session
    rw [ends_taking]
    split
    next wrapper frames _ => exact onward wrapper { session with frames }
    next => exact refused.onward session
  refine ⟨goes fun wrapper => (each true wrapper fun _ => rfl).onward,
    goes fun wrapper => (each true wrapper fun _ => rfl).onward', fun s t linked quiet quiet' => ?_⟩
  rw [ends_taking, linked.frames] at quiet ⊢
  rw [ends_taking] at quiet' ⊢
  cases taken : takeWrapper name t.frames with
  | none =>
    rw [taken] at quiet quiet'
    exact refused.together s t linked quiet quiet'
  | some found =>
    obtain ⟨wrapper, frames⟩ := found
    rw [taken] at quiet quiet'
    have split := contents_take taken
    have known : wrapper.handle ≠ none → bound = true := by
      intro present
      by_contra unknown
      exact present (linked.idle (eq_false_of_ne_true unknown) wrapper (by simp [split]))
    have removed : Session.Linked late bound (unitOf wrapper.handle) { s with frames } { t with frames } := by
      refine linked.rebook (fun session => { session with frames }) (fun _ _ _ => rfl) rfl ?_ fun unknown other member => ?_
      · simp only [Session.holdings, split, unitsIn_add, unitsIn_singleton]
        abel
      · exact linked.idle unknown other (by rw [split]; exact Multiset.mem_add.mpr (.inr member))
    exact (each bound wrapper known).together _ _ removed quiet quiet'

theorem performs_taking {next : Wrapper → Run α (Answer α)}
    (each : ∀ bound wrapper, (wrapper.handle ≠ none → bound = true) →
      Performs late bound (unitOf wrapper.handle) (next wrapper)) :
    Performs late bound 0 (taking name next) :=
  sim_taking each

end Resolving

end CountBridge.Program
