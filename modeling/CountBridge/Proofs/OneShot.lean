import Mathlib
import CountBridge.Bootstrap.Race

/-! Binding attempts in a race. Whatever the schedule, one attempt at most boots its
system, and that one publishes it and returns it. Everybody else is refused for a
reason that lies with the attempt itself, or because of the one that was faster. -/

namespace CountBridge.Bootstrap

def Contender.Eligible (contender : Contender) : Prop :=
  contender.config.validate = .ok contender.config ∧ contender.version = hookVersion

def Contender.refusal (contender : Contender) : BridgeError :=
  match contender.config.validate with
  | .error error => .config error
  | .ok _ =>
    if contender.version = hookVersion then .alreadyBootstrapped
    else .versionMismatch hookName hookVersion contender.version

theorem validate_of_ok {config found : Config} (valid : config.validate = .ok found) : found = config := by
  unfold Config.validate at valid
  split at valid
  · cases valid
  · split at valid
    · cases valid
    · cases valid
      rfl

theorem Contender.refusal_invalid {contender : Contender} {error : ConfigError}
    (invalid : contender.config.validate = .error error) : contender.refusal = .config error := by
  rw [refusal, invalid]

theorem Contender.refusal_mismatch {contender : Contender} (valid : contender.config.validate = .ok contender.config)
    (different : contender.version ≠ hookVersion) :
    contender.refusal = .versionMismatch hookName hookVersion contender.version := by
  rw [refusal, valid]
  exact if_neg different

theorem Contender.refusal_eligible {contender : Contender} (eligible : contender.Eligible) :
    contender.refusal = .alreadyBootstrapped := by
  rw [refusal, eligible.1]
  exact if_pos eligible.2

theorem checkVersion_cases (version : UInt32) :
    (version = hookVersion ∧ checkVersion version = .ok ()) ∨
      (version ≠ hookVersion ∧ checkVersion version = .error (.versionMismatch hookName hookVersion version)) := by
  unfold checkVersion
  by_cases same : version = hookVersion
  · exact .inl ⟨same, if_pos same⟩
  · exact .inr ⟨same, if_neg same⟩

def Point.inside : Point → Bool
  | .inspecting | .booting | .publishing | .leaving _ => true
  | .validating | .asking | .waiting | .finished _ => false

def Point.outcome? : Point → Option (Except BridgeError Unit)
  | .leaving outcome | .finished outcome => some outcome
  | .validating | .asking | .waiting | .inspecting | .booting | .publishing => none

namespace Label

def booted? : Label → Option HeapId
  | .booted heap => some heap
  | _ => none

def published? : Label → Option Nat
  | .published index => some index
  | _ => none

end Label

abbrev History := List (Nat × Label)

namespace History

def boots (events : History) : List (Nat × HeapId) :=
  events.filterMap fun (index, label) => label.booted?.map (index, ·)

def publications (events : History) : List Nat := events.filterMap (·.2.published?)

def refusals (events : History) : List Nat := (events.filter (·.2 = .refused)).map (·.1)

variable (events : History) (index : Nat) (label : Label)

theorem boots_snoc : boots (events ++ [(index, label)]) = events.boots ++ (label.booted?.map (index, ·)).toList := by
  rw [boots, List.filterMap_append]
  cases label <;> rfl

theorem publications_snoc : publications (events ++ [(index, label)]) = events.publications ++ label.published?.toList := by
  rw [publications, List.filterMap_append]
  cases label <;> rfl

theorem refusals_snoc : refusals (events ++ [(index, label)]) = events.refusals ++ if label = .refused then [index] else [] := by
  rw [refusals, List.filter_append, List.map_append]
  cases label <;> rfl

end History

namespace Race

variable {race next begun : Race} {index : Nat} {label : Label} {events : History}

def history (race : Race) : List Nat → History
  | [] => []
  | index :: rest =>
    match race.step index with
    | some (label, next) => (index, label) :: next.history rest
    | none => race.history rest

def outcome? (race : Race) (index : Nat) : Option (Except BridgeError Unit) :=
  match race.points[index]? with
  | some (.finished outcome) => some outcome
  | _ => none

def current (race : Race) : Except BridgeError Contender :=
  match race.published.bind (race.contenders[·]?) with
  | some contender => .ok contender
  | none => .error .notBootstrapped

inductive Moves (race : Race) (index : Nat) (contender : Contender) : Point → Label → Race → Point → Prop
  | validate (valid : contender.config.validate = .ok contender.config) : Moves race index contender .validating .checked race .asking
  | decline {error} (invalid : contender.config.validate = .error error) :
      Moves race index contender .validating .checked race (.finished (.error (.config error)))
  | ask (same : contender.version = hookVersion) : Moves race index contender .asking .checked race .waiting
  | mismatch (different : contender.version ≠ hookVersion) :
      Moves race index contender .asking .checked race
        (.finished (.error (.versionMismatch hookName hookVersion contender.version)))
  | lock (free : race.holder = none) :
      Moves race index contender .waiting .locked { race with holder := some index } .inspecting
  | late (known : race.published.isSome = true) :
      Moves race index contender .inspecting .checked race (.leaving (.error .alreadyBootstrapped))
  | clear (unknown : race.published = none) : Moves race index contender .inspecting .checked race .booting
  | boot : Moves race index contender .booting (.booted contender.heap)
      { race with booted := race.booted.setIfInBounds contender.heap true } .publishing
  | refuse (known : race.published.isSome = true) :
      Moves race index contender .publishing .refused race (.leaving (.error .alreadyBootstrapped))
  | publish (unknown : race.published = none) :
      Moves race index contender .publishing (.published index) { race with published := some index } (.leaving (.ok ()))
  | leave {outcome} : Moves race index contender (.leaving outcome) .left { race with holder := none } (.finished outcome)

theorem moves_of_step (moved : race.step index = some (label, next)) :
    ∃ contender point changed after, race.contenders[index]? = some contender ∧ race.points[index]? = some point ∧
      Moves race index contender point label changed after ∧ next = changed.moveTo index after := by
  rw [step] at moved
  split at moved
  next contender point entered stands =>
    refine ⟨contender, point, ?_⟩
    split at moved
    next =>
      split at moved
      next config valid =>
        cases moved
        exact ⟨_, _, entered, stands, .validate (by rw [valid, validate_of_ok valid]), rfl⟩
      next error invalid => cases moved; exact ⟨_, _, entered, stands, .decline invalid, rfl⟩
    next =>
      rcases checkVersion_cases contender.version with ⟨same, checked⟩ | ⟨different, checked⟩ <;> rw [checked] at moved <;>
        cases moved
      · exact ⟨_, _, entered, stands, .ask same, rfl⟩
      · exact ⟨_, _, entered, stands, .mismatch different, rfl⟩
    next =>
      split at moved
      next free => cases moved; exact ⟨_, _, entered, stands, .lock (by simpa using free), rfl⟩
      next => cases moved
    next =>
      cases moved
      cases known : race.published with
      | some winner => exact ⟨_, _, entered, stands, .late (by rw [known]; rfl), rfl⟩
      | none => exact ⟨_, _, entered, stands, .clear known, rfl⟩
    next => cases moved; exact ⟨_, _, entered, stands, .boot, rfl⟩
    next =>
      split at moved
      next known => cases moved; exact ⟨_, _, entered, stands, .refuse known, rfl⟩
      next unknown => cases moved; exact ⟨_, _, entered, stands, .publish (by simpa using unknown), rfl⟩
    next outcome => cases moved; exact ⟨_, _, entered, stands, .leave, rfl⟩
    next => cases moved
  next => cases moved

/-- What is known of an attempt from where it stands, given what is published. -/
def Standing (published : Option Nat) (index : Nat) (contender : Contender) : Point → Prop
  | .validating => True
  | .asking => contender.config.validate = .ok contender.config
  | .waiting | .inspecting => contender.Eligible
  | .booting | .publishing => contender.Eligible ∧ published = none
  | .leaving outcome | .finished outcome =>
    match outcome with
    | .ok () => contender.Eligible ∧ published = some index
    | .error error => error = contender.refusal ∧ (contender.Eligible → published.isSome = true)

structure Orderly (begun : Race) (events : History) (race : Race) : Prop where
  contenders : race.contenders = begun.contenders
  size : race.points.size = race.contenders.size
  exclusive : ∀ (index : Nat) point, race.points[index]? = some point → (point.inside = true ↔ race.holder = some index)
  standing : ∀ (index : Nat) contender point, race.contenders[index]? = some contender → race.points[index]? = some point →
    Standing race.published index contender point
  winner : ∀ index, race.published = some index → ∃ point, race.points[index]? = some point ∧ point.outcome? = some (.ok ())
  publications : events.publications = race.published.toList
  refusals : events.refusals = []
  boots : (events.boots = [] ∧ race.published = none ∧ ∀ index : Nat, race.points[index]? ≠ some Point.publishing) ∨
    ∃ (index : Nat) (contender : Contender), race.contenders[index]? = some contender ∧ events.boots = [(index, contender.heap)] ∧
      (race.points[index]? = some Point.publishing ∨ race.published = some index)
  booted : race.booted = events.boots.foldl (fun flags (_, heap) => flags.setIfInBounds heap true) begun.booted

variable {contender : Contender} {point after : Point} {changed : Race}

theorem getElem?_moveTo (stands : race.points[index]? = some point) (changed : Race) (same : changed.points = race.points)
    (after : Point) (other : Nat) : (changed.moveTo index after).points[other]? = if other = index then some after else race.points[other]? := by
  have inside := (Array.getElem?_eq_some_iff.mp stands).1
  rw [moveTo, same, Array.getElem?_setIfInBounds]
  grind

theorem Moves.points (moves : Moves race index contender point label changed after) : changed.points = race.points := by
  cases moves <;> rfl

theorem Moves.contenders (moves : Moves race index contender point label changed after) :
    changed.contenders = race.contenders := by
  cases moves <;> rfl

/-- Nothing is published but once. -/
theorem Moves.published (moves : Moves race index contender point label changed after) :
    changed.published = race.published ∨ (race.published = none ∧ changed.published = some index ∧ point = .publishing) := by
  cases moves with
  | publish unknown => exact .inr ⟨unknown, rfl, rfl⟩
  | _ => exact .inl rfl

theorem Moves.outcome {outcome : Except BridgeError Unit} (moves : Moves race index contender point label changed after)
    (ended : point.outcome? = some outcome) : after.outcome? = some outcome := by
  cases moves with
  | leave => exact ended
  | _ => cases ended

theorem Moves.publications (moves : Moves race index contender point label changed after) :
    race.published.toList ++ label.published?.toList = changed.published.toList := by
  cases moves with
  | publish unknown => rw [unknown]; rfl
  | _ => exact List.append_nil _

theorem Moves.exclusive (moves : Moves race index contender point label changed after)
    (here : point.inside = true ↔ race.holder = some index) :
    (after.inside = true ↔ changed.holder = some index) ∧
      ∀ other, other ≠ index → (race.holder = some other ↔ changed.holder = some other) := by
  cases moves with
  | lock free =>
    refine ⟨⟨fun _ => rfl, fun _ => rfl⟩, fun other different => ?_⟩
    rw [free]
    exact ⟨nofun, fun same => absurd (Option.some.inj same).symm different⟩
  | leave =>
    have held := here.mp rfl
    refine ⟨⟨nofun, nofun⟩, fun other different => ?_⟩
    rw [held]
    exact ⟨fun same => absurd (Option.some.inj same).symm different, nofun⟩
  | validate | decline | ask | mismatch | late | clear | boot | refuse | publish => exact ⟨here, fun _ _ => .rfl⟩

theorem Moves.standing (moves : Moves race index contender point label changed after)
    (known : Standing race.published index contender point) : Standing changed.published index contender after := by
  cases moves with
  | validate valid => exact valid
  | decline invalid =>
    refine ⟨(Contender.refusal_invalid invalid).symm, fun eligible => ?_⟩
    rw [eligible.1] at invalid
    cases invalid
  | ask same => exact ⟨known, same⟩
  | mismatch different => exact ⟨(Contender.refusal_mismatch known different).symm, fun eligible => absurd eligible.2 different⟩
  | lock free => exact known
  | late published => exact ⟨(Contender.refusal_eligible known).symm, fun _ => published⟩
  | clear unknown => exact ⟨known, unknown⟩
  | boot => exact known
  | refuse published => rw [known.2] at published; cases published
  | publish unknown => exact ⟨known.1, rfl⟩
  | leave => exact known

/-- What is known of an attempt outside of the lock stays known when another one is published. -/
theorem Standing.other {winner : Nat} (known : Standing none index contender point) (outside : point.inside = false) :
    Standing (some winner) index contender point := by
  cases point with
  | validating | asking | waiting => exact known
  | inspecting | booting | publishing | leaving => cases outside
  | finished outcome =>
    cases outcome with
    | ok value => cases known.2
    | error error => exact ⟨known.1, fun _ => rfl⟩

theorem Orderly.alone (orderly : Orderly begun events race) {other : Nat} {point' : Point}
    (stands : race.points[index]? = some point) (inside : point.inside = true) (stands' : race.points[other]? = some point')
    (inside' : point'.inside = true) : other = index := by
  have held := (orderly.exclusive index point stands).mp inside
  rw [(orderly.exclusive other point' stands').mp inside'] at held
  exact Option.some.inj held

/-- A heap that is booted is so by the attempt that is about to be published, or has been. -/
theorem Orderly.boots_step (orderly : Orderly begun events race) (entered : race.contenders[index]? = some contender)
    (stands : race.points[index]? = some point) (moves : Moves race index contender point label changed after)
    (known : Standing race.published index contender point) :
    ((events ++ [(index, label)]).boots = [] ∧ (changed.moveTo index after).published = none ∧
        ∀ other : Nat, (changed.moveTo index after).points[other]? ≠ some Point.publishing) ∨
      ∃ (other : Nat) (contender : Contender), (changed.moveTo index after).contenders[other]? = some contender ∧
        (events ++ [(index, label)]).boots = [(other, contender.heap)] ∧
        ((changed.moveTo index after).points[other]? = some Point.publishing ∨
          (changed.moveTo index after).published = some other) := by
  have placed := getElem?_moveTo stands changed moves.points after
  rw [History.boots_snoc]
  cases moves with
  | boot =>
    rcases orderly.boots with ⟨none, unknown, -⟩ | ⟨other, contender', entered', one, stands' | published⟩
    · exact .inr ⟨index, contender, entered, by rw [none]; rfl, .inl (by rw [placed, if_pos rfl])⟩
    · cases orderly.alone stands rfl stands' rfl
      rw [stands] at stands'
      cases stands'
    · rw [known.2] at published
      cases published
  | publish unknown =>
    rcases orderly.boots with ⟨-, -, never⟩ | ⟨other, contender', entered', one, stands' | published⟩
    · exact absurd stands (never index)
    · cases orderly.alone stands rfl stands' rfl
      exact .inr ⟨index, contender', entered', by rw [one]; rfl, .inr rfl⟩
    · rw [unknown] at published
      cases published
  | refuse published =>
    rw [known.2] at published
    cases published
  | validate | decline | ask | mismatch | lock | late | clear | leave =>
    rcases orderly.boots with ⟨none, unknown, never⟩ | ⟨other, contender', entered', one, stands' | published⟩
    · refine .inl ⟨by rw [none]; rfl, unknown, fun other => ?_⟩
      rw [placed]
      split
      · nofun
      · exact never other
    · refine .inr ⟨other, contender', entered', by rw [one]; rfl, .inl ?_⟩
      rw [placed, if_neg, stands']
      rintro rfl
      rw [stands] at stands'
      cases stands'
    · exact .inr ⟨other, contender', entered', by rw [one]; rfl, .inr published⟩

theorem Orderly.step (orderly : Orderly begun events race) (moved : race.step index = some (label, next)) :
    Orderly begun (events ++ [(index, label)]) next := by
  obtain ⟨contender, point, changed, after, entered, stands, moves, rfl⟩ := moves_of_step moved
  have placed := getElem?_moveTo stands changed moves.points after
  have here := orderly.exclusive index point stands
  have known := orderly.standing index contender point entered stands
  obtain ⟨own, others⟩ := moves.exclusive here
  have size : (changed.moveTo index after).points.size = (changed.moveTo index after).contenders.size := by
    rw [moveTo, moves.points, moves.contenders, Array.size_setIfInBounds, orderly.size]
  refine ⟨moves.contenders.trans orderly.contenders, size, ?_, ?_, ?_, ?_, ?_, ?_, ?_⟩
  · intro other point' stands'
    rw [placed] at stands'
    split at stands'
    next same => cases stands'; exact same ▸ own
    next different => exact (orderly.exclusive other point' stands').trans (others other different)
  · intro other contender' point' entered' stands'
    rw [placed] at stands'
    change changed.contenders[other]? = _ at entered'
    change Standing changed.published _ _ _
    rw [moves.contenders] at entered'
    split at stands'
    next same =>
      subst same
      rw [entered] at entered'
      cases entered'
      cases stands'
      exact moves.standing known
    next different =>
      have before := orderly.standing other contender' point' entered' stands'
      rcases moves.published with same | ⟨unknown, published, rfl⟩
      · rwa [same]
      · rw [published]
        rw [unknown] at before
        refine before.other ?_
        cases inside : point'.inside with
        | false => rfl
        | true => exact absurd (orderly.alone stands rfl stands' inside) different
  · intro winner published
    change changed.published = _ at published
    rw [placed]
    rcases moves.published with same | ⟨unknown, published', rfl⟩
    · obtain ⟨point', stands', ended⟩ := orderly.winner winner (same ▸ published)
      split
      next here =>
        subst here
        rw [stands] at stands'
        cases stands'
        exact ⟨after, rfl, moves.outcome ended⟩
      next => exact ⟨point', stands', ended⟩
    · rw [published'] at published
      cases published
      cases moves with
      | publish => exact ⟨_, if_pos rfl, rfl⟩
      | refuse known' => rw [unknown] at known'; cases known'
  · rw [History.publications_snoc, orderly.publications]
    exact moves.publications
  · rw [History.refusals_snoc, orderly.refusals]
    cases moves with
    | refuse published => rw [known.2] at published; cases published
    | _ => rfl
  · exact orderly.boots_step entered stands moves known
  · change changed.booted = _
    rw [History.boots_snoc, List.foldl_append, ← orderly.booted]
    cases moves <;> rfl

theorem run_cons (race : Race) (rest : List Nat) :
    race.run (index :: rest) = ((race.step index).elim race (·.2)).run rest := by
  rw [run, List.foldl_cons]
  cases race.step index <;> rfl

theorem Orderly.run {schedule : List Nat} (orderly : Orderly begun events race) :
    Orderly begun (events ++ race.history schedule) (race.run schedule) := by
  induction schedule generalizing events race with
  | nil =>
    rw [history, List.append_nil]
    exact orderly
  | cons index rest ih =>
    rw [history, run_cons]
    cases moved : race.step index with
    | none => exact ih orderly
    | some move =>
      have further := ih (orderly.step moved)
      rwa [List.append_assoc] at further

def await (contenders : List Contender) (booted : Array Bool) : Race := { start contenders 0 with booted }

variable {contenders : List Contender} {booted : Array Bool}

theorem orderly_await (contenders : List Contender) (booted : Array Bool) :
    Orderly (await contenders booted) [] (await contenders booted) := by
  have begins (index : Nat) (point : Point) (stands : (await contenders booted).points[index]? = some point) :
      point = .validating := by
    simp only [await, start, List.getElem?_toArray, List.getElem?_map, Option.map_eq_some_iff] at stands
    obtain ⟨-, -, same⟩ := stands
    exact same.symm
  refine ⟨rfl, by simp [await, start], fun index point stands => ?_, fun index contender point _ stands => ?_, nofun, rfl, rfl,
    .inl ⟨rfl, rfl, fun index stands => ?_⟩, rfl⟩
  · rw [begins index point stands]
    exact ⟨nofun, nofun⟩
  · rw [begins index point stands]
    trivial
  · cases begins index _ stands

theorem outcome?_eq_some {outcome : Except BridgeError Unit} :
    race.outcome? index = some outcome ↔ race.points[index]? = some (.finished outcome) := by
  unfold outcome?
  split
  next found => simp [found]
  next other => exact ⟨nofun, fun found => absurd found (other outcome)⟩

/-- How a race stands at any time, whoever runs in it; `booted` tells which systems were booted
before it began. -/
structure Decided (contenders : List Contender) (booted : Array Bool) (events : History) (race : Race) : Prop where
  /-- At most one attempt succeeds. -/
  single : ∀ first second, race.outcome? first = some (.ok ()) → race.outcome? second = some (.ok ()) → first = second
  /-- Once all have finished, one has succeeded if any could, and it booted its system. -/
  won : (∀ index < contenders.length, (race.outcome? index).isSome) → (∃ contender ∈ contenders, contender.Eligible) →
    ∃ winner contender, contenders[winner]? = some contender ∧ race.outcome? winner = some (.ok ()) ∧
      events.boots = [(winner, contender.heap)]
  /-- At most one system is booted, and not by an attempt that fails. -/
  boots : events.boots.length ≤ 1
  lossless : ∀ index heap, (index, heap) ∈ events.boots →
    (∃ contender, contenders[index]? = some contender ∧ heap = contender.heap) ∧
      ∀ error, race.outcome? index ≠ some (.error error)
  /-- No other system is touched. -/
  untouched : ∀ heap, (∀ index, (index, heap) ∉ events.boots) → race.booted[heap]? = booted[heap]?
  /-- Nothing is bound before something is published, and then it is the winner's. -/
  unbound : events.publications = [] → race.current = .error .notBootstrapped
  bound : ∀ winner ∈ events.publications, ∃ contender, contenders[winner]? = some contender ∧
    race.current = .ok contender ∧ contender.Eligible ∧ events.boots = [(winner, contender.heap)] ∧
    ∀ outcome, race.outcome? winner = some outcome → outcome = .ok ()
  /-- Who does not win is refused for the first reason that stands against it. -/
  refused : ∀ index contender outcome, contenders[index]? = some contender → race.outcome? index = some outcome →
    (outcome = .ok () ∧ contender.Eligible ∧ index ∈ events.publications) ∨ outcome = .error contender.refusal
  /-- Nobody boots a system in vain. -/
  vain : events.refusals = []

section Outcomes

variable (orderly : Orderly (await contenders booted) events race)

include orderly

theorem Orderly.entered (index : Nat) : race.contenders[index]? = contenders[index]? := by
  rw [orderly.contenders]
  exact List.getElem?_toArray

theorem Orderly.exists_contender {point : Point} (stands : race.points[index]? = some point) :
    ∃ contender, contenders[index]? = some contender ∧ Standing race.published index contender point := by
  have inside := (Array.getElem?_eq_some_iff.mp stands).1
  rw [orderly.size] at inside
  have entered : race.contenders[index]? = some race.contenders[index] := Array.getElem?_eq_getElem inside
  exact ⟨_, (orderly.entered index).symm.trans entered, orderly.standing index _ point entered stands⟩

theorem Orderly.published_of_ok (ended : race.outcome? index = some (.ok ())) : race.published = some index := by
  obtain ⟨contender, -, known⟩ := orderly.exists_contender (outcome?_eq_some.mp ended)
  exact known.2

/-- The one that is published booted its system, and only that. -/
theorem Orderly.boots_of_published (published : race.published = some index) :
    ∃ contender, contenders[index]? = some contender ∧ contender.Eligible ∧ events.boots = [(index, contender.heap)] := by
  obtain ⟨point, stands, ended⟩ := orderly.winner index published
  obtain ⟨contender, entered, known⟩ := orderly.exists_contender stands
  have eligible : contender.Eligible := by
    cases point with
    | leaving outcome | finished outcome => cases ended; exact known.1
    | _ => cases ended
  refine ⟨contender, entered, eligible, ?_⟩
  rcases orderly.boots with ⟨-, unknown, -⟩ | ⟨other, contender', entered', one, stands' | published'⟩
  · rw [published] at unknown
    cases unknown
  · obtain ⟨contender'', -, known'⟩ := orderly.exists_contender stands'
    have unknown := known'.2
    rw [published] at unknown
    cases unknown
  · rw [published] at published'
    cases published'
    rw [orderly.entered, entered] at entered'
    cases entered'
    exact one

theorem Orderly.outcome_of_published (published : race.published = some index) {outcome : Except BridgeError Unit}
    (ended : race.outcome? index = some outcome) : outcome = .ok () := by
  obtain ⟨point, stands, ended'⟩ := orderly.winner index published
  rw [outcome?_eq_some.mp ended] at stands
  cases stands
  exact Option.some.inj ended'

theorem Orderly.decided : Decided contenders booted events race where
  single first second ended ended' := by
    have published := orderly.published_of_ok ended
    rw [orderly.published_of_ok ended'] at published
    exact (Option.some.inj published).symm
  won all some := by
    obtain ⟨contender, member, eligible⟩ := some
    obtain ⟨index, inside, rfl⟩ := List.getElem_of_mem member
    have entered : contenders[index]? = some contenders[index] := List.getElem?_eq_getElem inside
    obtain ⟨outcome, ended⟩ := Option.isSome_iff_exists.mp (all index inside)
    have known : Standing race.published index contenders[index] (.finished outcome) :=
      orderly.standing index _ _ ((orderly.entered index).trans entered) (outcome?_eq_some.mp ended)
    have published : race.published.isSome = true := by
      cases outcome with
      | ok value => rw [known.2]; rfl
      | error error => exact known.2 eligible
    obtain ⟨winner, published⟩ := Option.isSome_iff_exists.mp published
    obtain ⟨first, entered, -, one⟩ := orderly.boots_of_published published
    obtain ⟨outcome, ended⟩ := Option.isSome_iff_exists.mp (all winner (List.getElem?_eq_some_iff.mp entered).1)
    rw [orderly.outcome_of_published published ended] at ended
    exact ⟨winner, first, entered, ended, one⟩
  boots := by
    rcases orderly.boots with ⟨none, -⟩ | ⟨_, _, _, one, -⟩
    · rw [none]
      exact Nat.zero_le 1
    · rw [one]
      exact Nat.le_refl 1
  lossless index heap booted := by
    rcases orderly.boots with ⟨none, -⟩ | ⟨other, contender, entered, one, reached⟩
    · rw [none] at booted
      cases booted
    · rw [one, List.mem_singleton] at booted
      cases booted
      refine ⟨⟨contender, (orderly.entered index).symm.trans entered, rfl⟩, fun error ended => ?_⟩
      rcases reached with stands | published
      · rw [outcome?_eq_some.mp ended] at stands
        cases stands
      · cases orderly.outcome_of_published published ended
  untouched heap elsewhere := by
    rw [orderly.booted]
    rcases orderly.boots with ⟨none, -⟩ | ⟨other, contender, entered, one, -⟩
    · rw [none]
      rfl
    · have apart : contender.heap ≠ heap := fun same => elsewhere other (by rw [one, same]; exact List.mem_singleton_self _)
      rw [one]
      exact Array.getElem?_setIfInBounds_ne apart
  unbound nothing := by
    have unknown : race.published = none := by
      rw [orderly.publications] at nothing
      exact Option.toList_eq_nil_iff.mp nothing
    rw [current, unknown]
    rfl
  bound winner published := by
    rw [orderly.publications, Option.mem_toList] at published
    obtain ⟨contender, entered, eligible, one⟩ := orderly.boots_of_published published
    refine ⟨contender, entered, ?_, eligible, one, fun outcome ended => orderly.outcome_of_published published ended⟩
    rw [current, show race.published = some winner from published, Option.bind_some, orderly.entered, entered]
  refused index contender outcome entered ended := by
    have known : Standing race.published index contender (.finished outcome) :=
      orderly.standing index _ _ ((orderly.entered index).trans entered) (outcome?_eq_some.mp ended)
    cases outcome with
    | ok value => exact .inl ⟨rfl, known.1, by rw [orderly.publications, known.2]; exact List.mem_singleton_self _⟩
    | error error => exact .inr (congrArg _ known.1)
  vain := orderly.refusals

end Outcomes

theorem decided_run (contenders : List Contender) (booted : Array Bool) (schedule : List Nat) :
    Decided contenders booted ((await contenders booted).history schedule) ((await contenders booted).run schedule) :=
  (orderly_await contenders booted).run.decided

theorem history_append (race : Race) (first second : List Nat) :
    race.history (first ++ second) = race.history first ++ (race.run first).history second := by
  induction first generalizing race with
  | nil => rfl
  | cons index rest ih =>
    rw [List.cons_append, history, history, run_cons]
    cases race.step index with
    | none => exact ih race
    | some move => exact congrArg _ (ih move.2)

end Race

end CountBridge.Bootstrap
