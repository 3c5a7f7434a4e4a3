import CountBridge.Proofs.Acting
import CountBridge.Proofs.Scopes

/-! Whole programs keep the books, whatever they nest. Where each operation heeds what
is asked of its caller, every step tells of calls that were in order; what unwinds is
still in hand when scopes close, and what traps it hands it on. -/

namespace CountBridge

namespace Ledger

theorem takesOver (ledger : Ledger) (handle : Handle) :
    ledger.Honours (handle.toList.map .takenOver) ∧ ledger.after (handle.toList.map .takenOver) = ledger.add (unitOf handle) := by
  cases handle with
  | none => exact ⟨trivial, (ledger.add_zero).symm⟩
  | some id => exact ⟨⟨trivial, trivial⟩, rfl⟩

theorem handsOut (booted : Bool) (handle : Handle) (rest : Multiset ObjectId) :
    (⟨booted, unitOf handle + rest⟩ : Ledger).Honours (handle.toList.map .handedOut) ∧
      (⟨booted, unitOf handle + rest⟩ : Ledger).after (handle.toList.map .handedOut) = ⟨booted, rest⟩ := by
  cases handle with
  | none => exact ⟨trivial, by simp [after]⟩
  | some id => exact ⟨⟨by simp [Allows], trivial⟩, by simp [after, next]⟩

end Ledger

namespace Program

open Bridge World

variable {α β : Type} {strict bound wrapped : Bool} {hand mine : Multiset ObjectId} {name : String} {session : Session α}
  {before : Session α → Prop} {unwound : Unwind → Session α → Prop}

theorem Session.ledger_addStep (session : Session α) (name : String) (answer : Answer α) :
    (session.addStep name answer).ledger = session.ledger.after ((received name answer).toList.map .takenOver ++
      exchangesOf (name != "raise") session.world.journal ++ (parted name answer).toList.map .handedOut) := by
  rw [ledger, addStep, exchanges_push, Ledger.after_append]
  rfl

/-- What a step tells of agrees with what happened since the step before. -/
theorem Session.Balanced.close {answer : Answer α} {told taken : Multiset ObjectId}
    (balanced : session.Balanced strict bound taken hand told) (exchanged : List Exchange)
    (exchanged_eq : exchanged = (received name answer).toList.map .takenOver ++
      exchangesOf (name != "raise") session.world.journal ++ (parted name answer).toList.map .handedOut)
    (kept : strict = true → session.ledger.Honours exchanged ∧
      session.ledger.after exchanged = ⟨session.world.isBound, session.world.queued + (mine + unitsIn (contents session.frames))⟩)
    (blameless : answer.Blameless) : (session.addStep name answer).Balanced strict bound 0 hand mine := by
  subst exchanged_eq
  obtain ⟨sound, unbroken, heaps, housed, tallied, careful⟩ := balanced.world
  refine ⟨⟨sound.journal _, unbroken, rfl, housed, tallied, fun strictly => ?_⟩, balanced.idle, balanced.inside, balanced.watched,
    fun strictly => ?_, fun step member => ?_⟩
  · obtain ⟨plain, worded, -, -⟩ := careful strictly
    refine ⟨plain, worded, trivial, ?_⟩
    change ((session.addStep name answer).ledger.add 0).after [] = _
    rw [Ledger.add_zero, session.ledger_addStep]
    exact (kept strictly).2
  · change ({} : Ledger).Honours (exchanges (session.steps.push _))
    rw [exchanges_push, Ledger.honours_append]
    exact ⟨balanced.honours strictly, (kept strictly).1⟩
  · rcases Array.mem_push.mp member with earlier | rfl
    · exact balanced.blameless step earlier
    · exact blameless

theorem Session.Balanced.addStep {answer : Answer α}
    (balanced : session.Balanced strict bound (unitOf (received name answer)) hand (unitOf (parted name answer) + mine))
    (other : name ≠ "raise") (blameless : answer.Blameless) : (session.addStep name answer).Balanced strict bound 0 hand mine := by
  refine balanced.close _ rfl (fun strictly => ?_) blameless
  obtain ⟨-, -, honours, ledger⟩ := balanced.world.careful strictly
  have native : (name != "raise") = true := by simpa using other
  obtain ⟨takes, taken⟩ := session.ledger.takesOver (received name answer)
  have whole : session.world.queued + (unitOf (parted name answer) + mine + unitsIn (contents session.frames)) =
      unitOf (parted name answer) + (session.world.queued + (mine + unitsIn (contents session.frames))) := by abel
  obtain ⟨hands, handed⟩ := Ledger.handsOut session.world.isBound (parted name answer)
    (session.world.queued + (mine + unitsIn (contents session.frames)))
  change (session.ledger.add _).Honours _ at honours
  change (session.ledger.add _).after _ = _ at ledger
  rw [whole] at ledger
  simp only [native, Ledger.honours_append, Ledger.after_append, taken, ledger]
  exact ⟨⟨⟨takes, honours⟩, hands⟩, handed⟩

def Ready (strict : Bool) (session : Session α) : Prop := Tidy strict session ∧ session.world.journal = #[]

def Left (strict : Bool) (payload : Unwind) (session : Session α) : Prop := Adrift strict payload session ∧ session.world.journal = #[]

theorem goes_addStep (name : String) (answer : Answer α) : Onward Session.course (update (·.addStep name answer)) :=
  fun _ => .of_store (.refl _) rfl rfl rfl rfl le_rfl

theorem upholds_addStep {answer : Answer α} (other : name ≠ "raise") :
    Upholds (α := Unit) Session.course (Answered strict name answer) (update (·.addStep name answer)) (fun _ => Ready strict) unwound := by
  refine ⟨goes_addStep name answer, ?_⟩
  rintro session ⟨blameless, bound, told, balanced⟩ _
  exact ⟨⟨bound, told, (balanced.congr rfl (add_zero _).symm).addStep other blameless⟩, rfl⟩

theorem Adrift.addStep {payload : Unwind} (adrift : Adrift strict payload session) (other : name ≠ "raise") :
    Left strict payload (session.addStep name .unwound) := by
  obtain ⟨blameless, bound, told, balanced⟩ := adrift
  have nothing : received name (.unwound : Answer α) = none ∧ parted name (.unwound : Answer α) = none := by
    simp [received, parted, Answer.unit]
  have closed : (session.addStep name .unwound).Balanced strict bound 0 payload.units payload.units := by
    refine Session.Balanced.addStep ?_ other (Answer.blameless_of_none rfl)
    rw [nothing.1, nothing.2]
    exact balanced.congr rfl (zero_add _).symm
  exact ⟨⟨blameless, bound, told, closed⟩, rfl⟩

theorem upholds_recorded {routine : Run α (Answer α)} (other : name ≠ "raise")
    (upholds : Upholds Session.course before routine (Answered strict name) (Adrift strict)) :
    Upholds Session.course before (recorded name routine) (fun _ => Ready strict) (Left strict) := by
  apply upholds.outcomeOf.bind
  intro outcome
  cases outcome with
  | ok answer => exact upholds_addStep other
  | error payload =>
    have closed : Upholds (α := Unit) Session.course (Adrift (α := α) strict payload) (update (·.addStep name .unwound))
        (fun _ => Left strict payload) (Left strict) :=
      ⟨goes_addStep name .unwound, fun _ adrift _ => adrift.addStep other⟩
    exact closed.bind fun _ => .throw fun _ left => left

/-- Nothing happened since the last step, so the books are those of the steps. -/
theorem Session.Balanced.ledger_of_silent (balanced : session.Balanced true bound 0 hand mine) (silent : session.world.journal = #[]) :
    session.ledger = ⟨session.world.isBound, session.world.queued + (mine + unitsIn (contents session.frames))⟩ := by
  obtain ⟨-, -, -, ledger⟩ := balanced.world.careful rfl
  rwa [terms, Ledger.add_zero, silent] at ledger

/-- A wrapper that is raised is the bridge's already, so that its unit is not taken over again. -/
theorem raise_left {wrapper : Wrapper} (having : Having strict wrapper session) (silent : session.world.journal = #[]) :
    Left strict (.native wrapper)
      (({ session with world := { session.world with journal := session.world.journal.push (.event (.raising wrapper.handle)) } } :
        Session α).addStep "raise" .unwound) := by
  obtain ⟨kind, handle⟩ := wrapper
  obtain ⟨bound, told, balanced⟩ := having
  -- To the world a raised unit is taken over; the step of the raise tells of nothing, so that is let go.
  have raised : ∃ mine', ({ session with
      world := { session.world with journal := session.world.journal.push (.event (.raising handle)) } } :
        Session α).Balanced strict bound 0 (unitOf handle) mine' := by
    cases handle with
    | none => exact ⟨_, balanced.moved (balanced.world.note (.event (.raising none)) rfl) id⟩
    | some err => exact ⟨_, balanced.moved ((balanced.world.raising err).congr rfl (add_assoc _ _ _).symm) id⟩
  obtain ⟨mine', balanced'⟩ := raised
  have nothing : received "raise" (.unwound : Answer α) = none ∧ parted "raise" (.unwound : Answer α) = none := ⟨rfl, rfl⟩
  refine ⟨⟨nofun, bound, told, balanced'.close [] ?_ (fun strictly => ⟨trivial, ?_⟩) (Answer.blameless_of_none rfl)⟩, rfl⟩
  · rw [nothing.1, nothing.2, silent]
    cases handle <;> rfl
  · subst strictly
    exact balanced.ledger_of_silent silent

/-- A wrapper that cannot be raised stays where it is. -/
theorem Ready.refused (ready : Ready strict session) (refusal : Refusal) :
    Ready strict (session.addStep "raise" (.refused refusal)) := by
  obtain ⟨⟨bound, told, balanced⟩, silent⟩ := ready
  refine ⟨⟨bound, told, balanced.close [] ?_ (fun strictly => ⟨trivial, ?_⟩) (Answer.blameless_of_none rfl)⟩, rfl⟩
  · rw [silent]
    rfl
  · subst strictly
    exact balanced.ledger_of_silent silent

/-- A wrapper is raised or refused at once. -/
theorem ends_perform_raise (name : Name) (session : Session α) :
    (∃ refusal, ends (perform (.raise name)) session = (.ok (.refused refusal), session)) ∨
      ∃ wrapper frames, takeWrapper name session.frames = some (wrapper, frames) ∧
        ends (perform (.raise name)) session = (.error (.native wrapper), { session with
          frames, world := { session.world with journal := session.world.journal.push (.event (.raising wrapper.handle)) } }) := by
  rw [perform, ends_withWrapper]
  cases found : findWrapper name session.frames with
  | none => exact .inl ⟨.noSuchWrapper, rfl⟩
  | some wrapper =>
    by_cases error : wrapper.kind = .error
    · right
      have taken := value_takeWrapper name session.frames
      rw [found, Option.map_eq_some_iff] at taken
      obtain ⟨⟨other, frames⟩, taken, rfl⟩ := taken
      refine ⟨other, frames, taken, ?_⟩
      dsimp only
      rw [if_pos error, ends_taking, taken]
      rfl
    · left
      refine ⟨.notAnError, ?_⟩
      dsimp only
      rw [if_neg error]
      rfl

theorem upholds_raise (name : Name) :
    Upholds (α := Unit) Session.course (Ready (α := α) strict) (recorded "raise" (perform (.raise name))) (fun _ => Ready strict)
      (Left strict) := by
  refine ⟨(runs_op (.act (.raise name))).onward, fun session ready _ => ?_⟩
  rcases ends_perform_raise name session with ⟨refusal, refused⟩ | ⟨wrapper, frames, taken, raised⟩
  · rw [ends_recorded_ok refused]
    exact ready.refused refusal
  · rw [ends_recorded_error raised]
    exact raise_left (ready.1.take taken) ready.2

/-- Some of what is in hand is given back. -/
theorem upholds_lift_spends {action : Bridge β} {units : Multiset ObjectId} (goes : Goes action)
    (spends : ∀ (terms : Terms) (bound : Bool) (held mine : Multiset ObjectId), (wrapped = true → bound = true) →
      Upholds World.course (fun world => world.Balanced terms bound (units + held) (units + mine)) action
        (fun _ world => world.Balanced terms bound held mine) Nowhere) :
    Upholds Session.course (Keeping (α := α) strict wrapped 0 (units + hand) (units + mine)) (lift action)
      (fun _ => Keeping strict wrapped 0 hand mine) unwound := by
  refine upholds_lift goes (fun _ keeping => keeping) fun session bound _ told balanced quiet => ?_
  exact (spends _ bound _ _ told).met session.world (balanced.congr (add_assoc _ _ _) (add_assoc _ _ _)) quiet

/-- What a scope held is given back, its guard last. -/
theorem upholds_leave (frame : Frame) (known : ∀ wrapper ∈ frame.contents, wrapper.handle ≠ none → wrapped = true) :
    Upholds Session.course
      (Keeping (α := α) strict wrapped 0 (unitsIn frame.contents + hand) (unitsIn frame.contents + mine)) (do
        Wrapper.dropAll (frame.wrappers.map (·.2))
        match frame.guard? with
        | some wrapper => let _ ← wrapper.release
        | none => pure () : Run α Unit)
      (fun _ => Keeping strict wrapped 0 hand mine) unwound := by
  obtain ⟨guard?, wrappers⟩ := frame
  simp only [Frame.contents, unitsIn_add, unitsIn_coe, Multiset.mem_add, Multiset.mem_coe] at known ⊢
  rw [add_assoc, add_assoc]
  have dropped : Goes (Wrapper.dropAll (wrappers.map (·.2))) := goes_of_settles _ (Wrapper.keeps_dropAll _ fun _ _ _ => rfl)
  apply (upholds_lift_spends dropped fun terms bound held mine told =>
    Wrapper.upholds_dropAll _ fun wrapper member present => told (known wrapper (.inl member) present)).bind
  intro _
  cases guard? with
  | none => exact .pure fun _ keeping => by simpa using keeping
  | some wrapper =>
    simp only [Option.elim_some, unitsIn_singleton]
    have released : Goes wrapper.release := goes_of_settles _ (wrapper.keeps_release fun _ => rfl)
    refine (upholds_lift_spends released fun terms bound held mine told =>
      wrapper.upholds_release fun present => told (known wrapper (.inr (by simp)) present)).bind fun _ => .pure fun _ keeping => keeping

/-- The scope is left as it was entered, and what unwinds is still in hand. -/
theorem upholds_closeFrame :
    Upholds Session.course (Keeping (α := α) strict wrapped 0 hand mine) closeFrame (fun _ => Keeping strict wrapped 0 hand mine)
      unwound := by
  refine ⟨onward_closeFrame, ?_⟩
  rintro session ⟨bound, told, balanced⟩ quiet
  rw [ends_closeFrame] at quiet ⊢
  cases frames : session.frames with
  | nil => exact ⟨bound, told, balanced⟩
  | cons frame outer =>
    rw [frames] at quiet
    have split : contents session.frames = frame.contents + contents outer := by rw [frames, contents_cons]
    -- While a scope is left, what it held is in hand. If any of it is not null, a system is bound.
    have uncovered : ({ session with frames := outer } : Session α).Balanced strict bound 0 (unitsIn frame.contents + hand)
        (unitsIn frame.contents + mine) := by
      refine balanced.rebook ?_ ?_ fun unknown wrapper member => ?_
      · simp only [Session.holdings, split, unitsIn_add]
        abel
      · simp only [split, unitsIn_add]
        abel
      · exact balanced.idle unknown wrapper (by rw [split]; exact Multiset.mem_add.mpr (.inr member))
    have known (wrapper : Wrapper) (member : wrapper ∈ frame.contents) (present : wrapper.handle ≠ none) : bound = true := by
      by_contra unknown
      exact present (balanced.idle (eq_false_of_ne_true unknown) wrapper (by rw [split]; exact Multiset.mem_add.mpr (.inl member)))
    have leaving : Upholds Session.course (Keeping strict bound 0 (unitsIn frame.contents + hand) (unitsIn frame.contents + mine)) _
        (fun _ => Keeping strict bound 0 hand mine) unwound := upholds_leave frame known
    refine (leaving.met _ ⟨bound, id, uncovered⟩ quiet).conseq (fun _ _ closed => ?_) fun _ _ met => met
    obtain ⟨bound', told', balanced'⟩ := closed
    exact ⟨bound', told' ∘ told, balanced'⟩

end Program

end CountBridge
