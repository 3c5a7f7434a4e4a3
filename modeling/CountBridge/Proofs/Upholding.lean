import CountBridge.Proofs.Conduct

/-! One run by itself. What is known when a routine begins tells what is known when
it ends, unless a counter turned over; then nothing is known any more. A caller's
conditions are among the former, so nothing is assumed here of how a routine ends. -/

namespace CountBridge

variable {σ α β : Type} {course : Course σ} {before before' : σ → Prop} {routine : ExceptT Unwind (StateM σ) α}
  {after after' : α → σ → Prop} {unwound unwound' : Unwind → σ → Prop}

def Met (after : α → σ → Prop) (unwound : Unwind → σ → Prop) : Except Unwind α × σ → Prop
  | (.ok value, state) => after value state
  | (.error payload, state) => unwound payload state

/-- Begun in a state of which `before` holds, the routine ends in one of which `after` or
`unwound` holds, if that is quiet. -/
structure Upholds (course : Course σ) (before : σ → Prop) (routine : ExceptT Unwind (StateM σ) α)
    (after : α → σ → Prop) (unwound : Unwind → σ → Prop) : Prop where
  onward : Onward course routine
  met : ∀ state, before state → course.quiet' (ends routine state).2 → Met after unwound (ends routine state)

abbrev Nowhere : Unwind → σ → Prop := fun _ _ => False

namespace Met

variable {ended : Except Unwind α × σ}

theorem conseq (met : Met after unwound ended) (weaken : ∀ value state, after value state → after' value state)
    (slacken : ∀ payload state, unwound payload state → unwound' payload state) : Met after' unwound' ended := by
  obtain ⟨outcome, last⟩ := ended
  cases outcome with
  | ok value => exact weaken value last met
  | error payload => exact slacken payload last met

theorem and (met : Met after unwound ended) (met' : Met after' unwound' ended) :
    Met (fun value state => after value state ∧ after' value state)
      (fun payload state => unwound payload state ∧ unwound' payload state) ended := by
  obtain ⟨outcome, last⟩ := ended
  cases outcome with
  | ok value => exact ⟨met, met'⟩
  | error payload => exact ⟨met, met'⟩

/-- What unwinds nowhere returns. -/
theorem returns (met : Met after Nowhere ended) : ∃ value last, ended = (.ok value, last) ∧ after value last := by
  obtain ⟨outcome, last⟩ := ended
  cases outcome with
  | ok value => exact ⟨value, last, rfl, met⟩
  | error payload => exact met.elim

end Met

namespace Upholds

theorem conseq (upholds : Upholds course before routine after unwound)
    (strengthen : ∀ state, before' state → before state)
    (weaken : ∀ value state, after value state → after' value state)
    (slacken : ∀ payload state, unwound payload state → unwound' payload state) :
    Upholds course before' routine after' unwound' :=
  ⟨upholds.onward, fun state held quiet => (upholds.met state (strengthen state held) quiet).conseq weaken slacken⟩

theorem strengthen (upholds : Upholds course before routine after unwound)
    (stronger : ∀ state, before' state → before state) : Upholds course before' routine after unwound :=
  upholds.conseq stronger (fun _ _ met => met) fun _ _ met => met

theorem weaken (upholds : Upholds course before routine after unwound)
    (weaker : ∀ value state, after value state → after' value state) : Upholds course before routine after' unwound :=
  upholds.conseq (fun _ held => held) weaker fun _ _ met => met

theorem slacken (upholds : Upholds course before routine after unwound)
    (slacker : ∀ payload state, unwound payload state → unwound' payload state) :
    Upholds course before routine after unwound' :=
  upholds.conseq (fun _ held => held) (fun _ _ met => met) slacker

/-- What always returns does so wherever it stands. -/
theorem anywhere (upholds : Upholds course before routine after Nowhere) :
    Upholds course before routine after unwound :=
  upholds.slacken fun _ _ never => never.elim

/-- What is known for two reasons. -/
theorem and (upholds : Upholds course before routine after unwound) (upholds' : Upholds course before' routine after' unwound') :
    Upholds course (fun state => before state ∧ before' state) routine (fun value state => after value state ∧ after' value state)
      (fun payload state => unwound payload state ∧ unwound' payload state) :=
  ⟨upholds.onward, fun state held quiet => (upholds.met state held.1 quiet).and (upholds'.met state held.2 quiet)⟩

theorem pure {value : α} (kept : ∀ state, before state → after value state) :
    Upholds course before (pure value) after unwound :=
  ⟨.pure value, fun state held _ => kept state held⟩

theorem throw {payload : Unwind} (kept : ∀ state, before state → unwound payload state) :
    Upholds course before (throw payload) after unwound :=
  ⟨.throw payload, fun state held _ => kept state held⟩

theorem bind {next : α → ExceptT Unwind (StateM σ) β} {last : β → σ → Prop}
    (begun : Upholds course before routine after unwound)
    (continued : ∀ value, Upholds course (after value) (next value) last unwound) :
    Upholds course before (routine >>= next) last unwound := by
  have onward value : Onward course (next value) := (continued value).onward
  refine ⟨begun.onward.bind onward, fun state held quiet => ?_⟩
  have met := begun.met state held (course.quiet_of_order' (Onward.order_bind onward routine state) quiet)
  rcases seen : ends routine state with ⟨outcome, middle⟩
  rw [seen] at met
  cases outcome with
  | ok value =>
    rw [ends_bind_ok seen] at quiet ⊢
    exact (continued value).met middle met quiet
  | error payload =>
    rw [ends_bind_error seen]
    exact met

theorem map {change : α → β} {last : β → σ → Prop} (begun : Upholds course before routine after unwound)
    (kept : ∀ value state, after value state → last (change value) state) :
    Upholds course before (change <$> routine) last unwound := by
  rw [map_eq_pure_bind]
  exact begun.bind fun value => .pure fun state met => kept value state met

/-- Catching whatever unwinds turns the end of a routine into a value. -/
theorem outcomeOf (upholds : Upholds course before routine after unwound) :
    Upholds course before (outcomeOf routine)
      (fun outcome state => match outcome with
        | .ok value => after value state
        | .error payload => unwound payload state)
      unwound' := by
  refine ⟨upholds.onward.outcomeOf, fun state held quiet => ?_⟩
  rw [ends_outcomeOf] at quiet ⊢
  have met := upholds.met state held quiet
  generalize ends routine state = ended at met ⊢
  obtain ⟨outcome, last⟩ := ended
  cases outcome with
  | ok value => exact met
  | error payload => exact met

end Upholds

end CountBridge
