import CountBridge.Unwinding

/-! Two runs of routines side by side. Both must end in the same way, in states
that are still related. What happened on the way is only known of ends that are
quiet, and a state that is not quiet never becomes so again. -/

namespace CountBridge

def ends (routine : ExceptT Unwind (StateM σ) α) (state : σ) : Except Unwind α × σ := routine.run state

section Ends

variable {σ α β : Type}

@[simp] theorem ends_pure (value : α) (state : σ) :
    ends (pure value : ExceptT Unwind (StateM σ) α) state = (.ok value, state) := rfl

@[simp] theorem ends_throw (payload : Unwind) (state : σ) :
    ends (throw payload : ExceptT Unwind (StateM σ) α) state = (.error payload, state) := rfl

theorem ends_bind (routine : ExceptT Unwind (StateM σ) α) (next : α → ExceptT Unwind (StateM σ) β) (state : σ) :
    ends (routine >>= next) state = match ends routine state with
      | (.ok value, after) => ends (next value) after
      | (.error payload, after) => (.error payload, after) := by
  change (match routine.run state with | (outcome, after) => ExceptT.bindCont next outcome after) = _
  rcases seen : ends routine state with ⟨outcome, after⟩
  rw [show routine.run state = (outcome, after) from seen]
  cases outcome <;> rfl

theorem ends_bind_ok {routine : ExceptT Unwind (StateM σ) α} {next : α → ExceptT Unwind (StateM σ) β}
    {state after : σ} {value : α} (ended : ends routine state = (.ok value, after)) :
    ends (routine >>= next) state = ends (next value) after := by
  rw [ends_bind, ended]

theorem ends_bind_error {routine : ExceptT Unwind (StateM σ) α} {next : α → ExceptT Unwind (StateM σ) β}
    {state after : σ} {payload : Unwind} (ended : ends routine state = (.error payload, after)) :
    ends (routine >>= next) state = (.error payload, after) := by
  rw [ends_bind, ended]

theorem ends_bind_eq_ok {routine : ExceptT Unwind (StateM σ) α} {next : α → ExceptT Unwind (StateM σ) β}
    {state last : σ} {answer : β} (ended : ends (routine >>= next) state = (.ok answer, last)) :
    ∃ value after, ends routine state = (.ok value, after) ∧ ends (next value) after = (.ok answer, last) := by
  rcases seen : ends routine state with ⟨outcome, after⟩
  cases outcome with
  | ok value => exact ⟨value, after, rfl, (ends_bind_ok seen).symm.trans ended⟩
  | error payload => rw [ends_bind_error seen] at ended; cases ended

theorem ends_map (change : α → β) (routine : ExceptT Unwind (StateM σ) α) (state : σ) :
    ends (change <$> routine) state = ((ends routine state).1.map change, (ends routine state).2) := by
  simp only [ends, ExceptT.run_map]
  rfl

theorem ends_tryCatch (routine : ExceptT Unwind (StateM σ) α)
    (handler : Unwind → ExceptT Unwind (StateM σ) α) (state : σ) :
    ends (tryCatch routine handler) state = match ends routine state with
      | (.ok value, after) => (.ok value, after)
      | (.error payload, after) => ends (handler payload) after := by
  rcases seen : ends routine state with ⟨outcome, after⟩
  have run : routine state = (outcome, after) := seen
  simp only [ends, tryCatch, tryCatchThe, MonadExceptOf.tryCatch, ExceptT.tryCatch, ExceptT.run, ExceptT.mk, bind,
    StateT.bind, run]
  cases outcome <;> rfl

theorem ends_outcomeOf (routine : ExceptT Unwind (StateM σ) α) (state : σ) :
    ends (outcomeOf routine) state = (.ok (ends routine state).1, (ends routine state).2) := by
  rw [outcomeOf, ends_tryCatch, ends_map]
  rcases ends routine state with ⟨outcome, after⟩
  cases outcome <;> rfl

@[simp] theorem ends_settle (outcome : Except Unwind α) (state : σ) :
    ends (settle outcome : ExceptT Unwind (StateM σ) α) state = (outcome, state) := by
  cases outcome <;> rfl

def Returns (routine : ExceptT Unwind (StateM σ) α) (state : σ) (post : α → σ → Prop) : Prop :=
  ∃ value after, ends routine state = (.ok value, after) ∧ post value after

theorem Returns.bind {routine : ExceptT Unwind (StateM σ) α} {next : α → ExceptT Unwind (StateM σ) β}
    {state : σ} {middle : α → σ → Prop} {post : β → σ → Prop} (first : Returns routine state middle)
    (rest : ∀ value after, middle value after → Returns (next value) after post) :
    Returns (routine >>= next) state post := by
  obtain ⟨value, after, ended, reached⟩ := first
  obtain ⟨answer, last, finished, met⟩ := rest value after reached
  exact ⟨answer, last, (ends_bind_ok ended).trans finished, met⟩

theorem Returns.step {routine : ExceptT Unwind (StateM σ) α} {next : α → ExceptT Unwind (StateM σ) β}
    {state after : σ} {value : α} {post : β → σ → Prop} (ended : ends routine state = (.ok value, after))
    (rest : Returns (next value) after post) : Returns (routine >>= next) state post := by
  obtain ⟨answer, last, finished, met⟩ := rest
  exact ⟨answer, last, (ends_bind_ok ended).trans finished, met⟩

theorem Returns.mono {routine : ExceptT Unwind (StateM σ) α} {state : σ} {post weaker : α → σ → Prop}
    (returns : Returns routine state post) (weaken : ∀ value after, post value after → weaker value after) :
    Returns routine state weaker := by
  obtain ⟨value, after, ended, met⟩ := returns
  exact ⟨value, after, ended, weaken value after met⟩

end Ends

/-- What never goes back while routines run, and what is asked of the ends of two
runs for anything to be known about them. -/
structure Course (σ : Type) where
  order : σ → σ → Prop
  refl : ∀ state, order state state
  trans : ∀ {first second third}, order first second → order second third → order first third
  quiet : σ → Prop
  quiet' : σ → Prop
  quiet_of_order : ∀ {first second}, order first second → quiet second → quiet first
  quiet_of_order' : ∀ {first second}, order first second → quiet' second → quiet' first

inductive Together (agree : α → α → Prop) (after : α → α → σ → σ → Prop)
    (unwound : Unwind → σ → σ → Prop) : Except Unwind α × σ → Except Unwind α × σ → Prop where
  | value {first second s t} (same : agree first second) (met : after first second s t) :
      Together agree after unwound (.ok first, s) (.ok second, t)
  | unwind {payload s t} (met : unwound payload s t) :
      Together agree after unwound (.error payload, s) (.error payload, t)

theorem Together.cases {agree : α → α → Prop} {after : α → α → σ → σ → Prop}
    {unwound : Unwind → σ → σ → Prop} {first second : Except Unwind α × σ}
    (met : Together agree after unwound first second) :
    (∃ value value' s t, first = (.ok value, s) ∧ second = (.ok value', t) ∧ agree value value' ∧
      after value value' s t) ∨
    (∃ payload s t, first = (.error payload, s) ∧ second = (.error payload, t) ∧ unwound payload s t) := by
  cases met with
  | value same met => exact .inl ⟨_, _, _, _, rfl, rfl, same, met⟩
  | unwind met => exact .inr ⟨_, _, _, rfl, rfl, met⟩

inductive Outcomes (agree : α → α → Prop) : Except Unwind α → Except Unwind α → Prop where
  | value {first second} (same : agree first second) : Outcomes agree (.ok first) (.ok second)
  | payload {payload} : Outcomes agree (.error payload) (.error payload)

theorem Outcomes.refl {agree : α → α → Prop} (refl : ∀ value, agree value value) (outcome : Except Unwind α) :
    Outcomes agree outcome outcome := by
  cases outcome with
  | ok value => exact .value (refl value)
  | error payload => exact .payload

def Onward (course : Course σ) (routine : ExceptT Unwind (StateM σ) α) : Prop :=
  ∀ state, course.order state (ends routine state).2

/-- Begun in states related by `before`, both routines end together. -/
structure Sim (course : Course σ) (before : σ → σ → Prop) (first second : ExceptT Unwind (StateM σ) α)
    (agree : α → α → Prop) (after : α → α → σ → σ → Prop) (unwound : Unwind → σ → σ → Prop) : Prop where
  onward : Onward course first
  onward' : Onward course second
  together : ∀ s t, before s t → course.quiet (ends first s).2 → course.quiet' (ends second t).2 →
    Together agree after unwound (ends first s) (ends second t)

section Onward

variable {σ α β : Type} {course : Course σ} {routine : ExceptT Unwind (StateM σ) α}

theorem Onward.pure (value : α) : Onward course (pure value) := fun state => course.refl state

theorem Onward.throw (payload : Unwind) : Onward course (throw payload : ExceptT Unwind (StateM σ) α) :=
  fun state => course.refl state

/-- Whatever follows a routine only goes on from where that ended. -/
theorem Onward.order_bind {next : α → ExceptT Unwind (StateM σ) β} (continued : ∀ value, Onward course (next value))
    (routine : ExceptT Unwind (StateM σ) α) (state : σ) :
    course.order (ends routine state).2 (ends (routine >>= next) state).2 := by
  rcases seen : ends routine state with ⟨outcome, middle⟩
  cases outcome with
  | ok value => rw [ends_bind_ok seen]; exact continued value middle
  | error payload => rw [ends_bind_error seen]; exact course.refl middle

theorem Onward.bind {next : α → ExceptT Unwind (StateM σ) β} (begun : Onward course routine)
    (continued : ∀ value, Onward course (next value)) : Onward course (routine >>= next) :=
  fun state => course.trans (begun state) (order_bind continued routine state)

theorem Onward.outcomeOf (begun : Onward course routine) : Onward course (outcomeOf routine) := by
  intro state
  rw [ends_outcomeOf]
  exact begun state

theorem Onward.settle (outcome : Except Unwind α) :
    Onward course (settle outcome : ExceptT Unwind (StateM σ) α) := by
  intro state
  rw [ends_settle]
  exact course.refl state

end Onward

namespace Sim

variable {σ α β : Type} {course : Course σ} {before before' : σ → σ → Prop}
  {first second : ExceptT Unwind (StateM σ) α} {agree agree' : α → α → Prop}
  {after after' : α → α → σ → σ → Prop} {unwound unwound' : Unwind → σ → σ → Prop}

theorem conseq (sim : Sim course before first second agree after unwound)
    (strengthen : ∀ s t, before' s t → before s t)
    (relax : ∀ a b, agree a b → agree' a b)
    (weaken : ∀ a b s t, agree a b → after a b s t → after' a b s t)
    (slacken : ∀ payload s t, unwound payload s t → unwound' payload s t) :
    Sim course before' first second agree' after' unwound' := by
  refine ⟨sim.onward, sim.onward', fun s t held quiet quiet' => ?_⟩
  rcases (sim.together s t (strengthen s t held) quiet quiet').cases with
    ⟨_, _, _, _, left, right, same, met⟩ | ⟨_, _, _, left, right, met⟩
  · rw [left, right]
    exact .value (relax _ _ same) (weaken _ _ _ _ same met)
  · rw [left, right]
    exact .unwind (slacken _ _ _ met)

theorem strengthen (sim : Sim course before first second agree after unwound)
    (stronger : ∀ s t, before' s t → before s t) : Sim course before' first second agree after unwound :=
  sim.conseq stronger (fun _ _ same => same) (fun _ _ _ _ _ met => met) (fun _ _ _ met => met)

theorem weaken (sim : Sim course before first second agree after unwound)
    (weaker : ∀ a b s t, agree a b → after a b s t → after' a b s t) :
    Sim course before first second agree after' unwound :=
  sim.conseq (fun _ _ held => held) (fun _ _ same => same) weaker (fun _ _ _ met => met)

theorem slacken (sim : Sim course before first second agree after unwound)
    (slacker : ∀ payload s t, unwound payload s t → unwound' payload s t) :
    Sim course before first second agree after unwound' :=
  sim.conseq (fun _ _ held => held) (fun _ _ same => same) (fun _ _ _ _ _ met => met) slacker

theorem pure {value value' : α} (same : agree value value') (kept : ∀ s t, before s t → after value value' s t) :
    Sim course before (pure value) (pure value') agree after unwound :=
  ⟨.pure _, .pure _, fun s t held _ _ => .value same (kept s t held)⟩

theorem throw {payload : Unwind} (kept : ∀ s t, before s t → unwound payload s t) :
    Sim course before (throw payload) (throw payload) agree after unwound :=
  ⟨.throw _, .throw _, fun s t held _ _ => .unwind (kept s t held)⟩

theorem bind {next next' : α → ExceptT Unwind (StateM σ) β} {agreed : β → β → Prop}
    {last : β → β → σ → σ → Prop} (begun : Sim course before first second agree after unwound)
    (refl : ∀ value, agree value value)
    (continued : ∀ value value', agree value value' →
      Sim course (after value value') (next value) (next' value') agreed last unwound) :
    Sim course before (first >>= next) (second >>= next') agreed last unwound := by
  have onward value : Onward course (next value) := (continued value value (refl value)).onward
  have onward' value : Onward course (next' value) := (continued value value (refl value)).onward'
  refine ⟨begun.onward.bind onward, begun.onward'.bind onward', fun s t held quiet quiet' => ?_⟩
  have calm : course.quiet (ends first s).2 := course.quiet_of_order (Onward.order_bind onward first s) quiet
  have calm' : course.quiet' (ends second t).2 := course.quiet_of_order' (Onward.order_bind onward' second t) quiet'
  rcases (begun.together s t held calm calm').cases with
    ⟨value, value', middle, middle', left, right, same, met⟩ | ⟨payload, middle, middle', left, right, met⟩
  · rw [ends_bind_ok left] at quiet ⊢
    rw [ends_bind_ok right] at quiet' ⊢
    exact (continued value value' same).together _ _ met quiet quiet'
  · rw [ends_bind_error left, ends_bind_error right]
    exact .unwind met

/-- The usual case: both routines give the same value. -/
theorem bind_eq {next next' : α → ExceptT Unwind (StateM σ) β} {agreed : β → β → Prop}
    {last : β → β → σ → σ → Prop} (begun : Sim course before first second Eq after unwound)
    (continued : ∀ value, Sim course (after value value) (next value) (next' value) agreed last unwound) :
    Sim course before (first >>= next) (second >>= next') agreed last unwound :=
  begun.bind (fun _ => rfl) fun value _ same => same ▸ continued value

/-- Catching whatever unwinds turns the end of a routine into a value. -/
theorem outcomeOf (sim : Sim course before first second agree after unwound) :
    Sim course before (outcomeOf first) (outcomeOf second) (Outcomes agree)
      (fun outcome outcome' s t => match outcome, outcome' with
        | .ok value, .ok value' => after value value' s t
        | .error payload, _ => unwound payload s t
        | .ok _, .error _ => False)
      unwound' := by
  refine ⟨sim.onward.outcomeOf, sim.onward'.outcomeOf, fun s t held quiet quiet' => ?_⟩
  rw [ends_outcomeOf] at quiet quiet' ⊢
  rw [ends_outcomeOf]
  rcases (sim.together s t held quiet quiet').cases with
    ⟨_, _, _, _, left, right, same, met⟩ | ⟨_, _, _, left, right, met⟩
  · rw [left, right]
    exact .value (.value same) met
  · rw [left, right]
    exact .value .payload met

/-- The usual case again: the values are the same, and so are the outcomes. -/
theorem outcomeOf_eq (sim : Sim course before first second Eq after unwound) :
    Sim course before (CountBridge.outcomeOf first) (CountBridge.outcomeOf second) Eq
      (fun outcome _ s t => match outcome with
        | .ok value => after value value s t
        | .error payload => unwound payload s t)
      unwound' := by
  refine sim.outcomeOf.conseq (fun _ _ held => held) ?_ ?_ (fun _ _ _ met => met)
  · rintro _ _ (⟨rfl⟩ | _) <;> rfl
  · rintro _ _ s t (⟨rfl⟩ | _) met <;> exact met

/-- What is known for each witness is known for some. -/
theorem of_exists {ι : Type} {fact : ι → Prop} {before : ι → σ → σ → Prop} (witness : ∃ index, fact index)
    (each : ∀ index, fact index → Sim course (before index) first second agree after unwound) :
    Sim course (fun s t => ∃ index, fact index ∧ before index s t) first second agree after unwound := by
  obtain ⟨some, holds⟩ := witness
  exact ⟨(each some holds).onward, (each some holds).onward',
    fun s t ⟨index, holds, held⟩ => (each index holds).together s t held⟩

end Sim

end CountBridge
