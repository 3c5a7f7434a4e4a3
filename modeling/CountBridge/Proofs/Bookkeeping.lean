import CountBridge.Proofs.Dealings

/-! A program's own books. Its world is in balance with what the program owns, and
what the bridge owns is what waits and what the wrappers in open scopes hold. Names
resolve without a change to the books, and what is kept moves within them. -/

namespace CountBridge.Program

open Bridge World

variable {α β : Type}

/-- If an answer tells of a fault, nobody broke a condition. -/
def Answer.Blameless (answer : Answer α) : Prop := ∀ cause, answer.fault? = some cause → cause = .invalidError

namespace Session

def ledger (session : Session α) : Ledger := ({} : Ledger).after (exchanges session.steps)

def terms (session : Session α) (strict : Bool) (taken : Multiset ObjectId) : Terms :=
  ⟨strict, session.world.heaps.size, session.ledger.add taken⟩

/-- `hand` is in hand besides what the program keeps, and `mine` is the bridge's besides what its
wrappers hold. The step under way will tell that `taken` was taken over. -/
structure Balanced (strict bound : Bool) (taken hand mine : Multiset ObjectId) (session : Session α) : Prop where
  world : session.world.Balanced (session.terms strict taken) bound (hand + session.holdings)
    (mine + unitsIn (contents session.frames))
  idle : bound = false → ∀ wrapper ∈ contents session.frames, wrapper.handle = none
  inside : ∀ name heap, lookup name session.heaps = some heap → heap < session.world.heaps.size
  watched : strict = true → session.watched = true
  honours : strict = true → ({} : Ledger).Honours (exchanges session.steps)
  blameless : ∀ step ∈ session.steps, step.answer.Blameless

variable {session : Session α} {strict bound bound' wrapped wrapped' : Bool} {taken hand hand' mine mine' : Multiset ObjectId}

namespace Balanced

theorem congr (balanced : session.Balanced strict bound taken hand mine) (same : hand = hand') (same' : mine = mine') :
    session.Balanced strict bound taken hand' mine' := same ▸ same' ▸ balanced

/-- A world that is known to be bound may be relied on to be. -/
theorem upgrade (balanced : session.Balanced strict bound taken hand mine) (known : session.world.isBound = true) :
    session.Balanced strict true taken hand mine :=
  ⟨balanced.world.upgrade known true, nofun, balanced.inside, balanced.watched, balanced.honours, balanced.blameless⟩

/-- What happens to the world leaves the books as they are. -/
theorem moved {world : World} (balanced : session.Balanced strict bound taken hand mine)
    (met : world.Balanced (session.terms strict taken) bound' (hand' + session.holdings)
      (mine' + unitsIn (contents session.frames)))
    (learnt : bound' = false → bound = false) :
    ({ session with world } : Session α).Balanced strict bound' taken hand' mine' := by
  have size : world.heaps.size = session.world.heaps.size := met.heaps
  refine ⟨?_, fun unknown => balanced.idle (learnt unknown), fun name heap found => ?_, balanced.watched, balanced.honours,
    balanced.blameless⟩
  · have same : ({ session with world } : Session α).terms strict taken = session.terms strict taken := by
      simp only [terms, size, ledger]
    rw [same]
    exact met
  · exact (balanced.inside name heap found).trans_eq size.symm

/-- The program keeps its own otherwise, and may take something in hand or put it away. -/
theorem rebook {units : List ObjectId} {handles : List (Name × Handle)} {frames : List Frame}
    (balanced : session.Balanced strict bound taken hand mine)
    (paid : hand' + (↑units + unitsIn (contents frames)) = hand + session.holdings)
    (paid' : mine' + unitsIn (contents frames) = mine + unitsIn (contents session.frames))
    (idle : bound = false → ∀ wrapper ∈ contents frames, wrapper.handle = none) :
    ({ session with units, handles, frames } : Session α).Balanced strict bound taken hand' mine' :=
  ⟨balanced.world.congr paid.symm paid'.symm, idle, balanced.inside, balanced.watched, balanced.honours, balanced.blameless⟩

/-- A unit of the program becomes the bridge's. -/
theorem takeOver (balanced : session.Balanced strict bound 0 hand mine) (units : Multiset ObjectId) :
    session.Balanced strict bound units hand (units + mine) := by
  obtain ⟨sound, unbroken, heaps, housed, tallied, careful⟩ := balanced.world
  refine ⟨⟨sound, unbroken, heaps, housed, tallied, fun strictly => ?_⟩, balanced.idle, balanced.inside, balanced.watched,
    balanced.honours, balanced.blameless⟩
  obtain ⟨plain, worded, honours, ledger⟩ := careful strictly
  simp only [terms, Ledger.add_zero] at honours ledger
  obtain ⟨honours', ledger'⟩ := honours.add units
  refine ⟨plain, worded, honours', ?_⟩
  rw [terms, ledger', ledger, Ledger.add]
  simp only [Ledger.mk.injEq, true_and]
  abel

end Balanced

/-- A wrapper holds its unit. -/
theorem mem_holdings_of_find {name : Name} {wrapper : Wrapper} {id : ObjectId}
    (found : findWrapper name session.frames = some wrapper) (present : wrapper.handle = some id) : id ∈ session.holdings := by
  obtain ⟨rest, split⟩ := Multiset.exists_cons_of_mem (mem_contents_of_find found)
  have units : unitsIn (contents session.frames) = {id} + unitsIn rest := by
    rw [split, ← Multiset.singleton_add, unitsIn_add, unitsIn_singleton, present, unitOf_some]
  simp [holdings, units]

end Session

/-- What is in hand is known, and maybe that a system is bound. -/
def Keeping (strict wrapped : Bool) (taken hand mine : Multiset ObjectId) (session : Session α) : Prop :=
  ∃ bound, (wrapped = true → bound = true) ∧ session.Balanced strict bound taken hand mine

abbrev Tidy (strict : Bool) : Session α → Prop := Keeping strict false 0 0 0

def Adrift (strict : Bool) (payload : Unwind) (session : Session α) : Prop :=
  payload.Blameless ∧ Keeping strict payload.isWrapped 0 payload.units payload.units session

/-- An operation is over, but for the units that the step will tell of. -/
def Answered (strict : Bool) (op : String) (answer : Answer α) (session : Session α) : Prop :=
  answer.Blameless ∧ Keeping strict false (unitOf (received op answer)) 0 (unitOf (parted op answer)) session

variable {strict bound bound' wrapped wrapped' : Bool} {taken hand hand' mine mine' : Multiset ObjectId} {op : String}
  {before : Session α → Prop} {after : β → Session α → Prop} {unwound : Unwind → Session α → Prop} {session : Session α}

theorem Session.Balanced.keeping (balanced : session.Balanced strict bound taken hand mine) (known : wrapped = true → bound = true) :
    Keeping strict wrapped taken hand mine session := ⟨bound, known, balanced⟩

theorem Keeping.relax (keeping : Keeping strict wrapped taken hand mine session) :
    Keeping strict false taken hand mine session := by
  obtain ⟨bound, -, balanced⟩ := keeping
  exact ⟨bound, nofun, balanced⟩

/-- Operations that neither take a unit of the program over nor hand one out. -/
def Inward (op : String) : Prop := op ∉ receiving ∧ op ∉ parting

theorem Answer.blameless_of_none {answer : Answer α} (none : answer.fault? = none) : answer.Blameless := by
  intro cause some
  rw [none] at some
  cases some

theorem Tidy.answered (tidy : Tidy strict session) (inward : Inward op) {answer : Answer α} (blameless : answer.Blameless) :
    Answered strict op answer session := by
  refine ⟨blameless, ?_⟩
  rw [received, if_neg inward.1, parted, if_neg inward.2]
  exact tidy

theorem Answered.tidy {answer : Answer α} (answered : Answered strict op answer session) (inward : Inward op) :
    Tidy strict session := by
  have keeping := answered.2
  rwa [received, if_neg inward.1, parted, if_neg inward.2] at keeping

/-- An answer that gives no unit tells of none, whatever the operation. -/
theorem Tidy.answered_without (tidy : Tidy strict session) {answer : Answer α} (without : answer.unit = none)
    (blameless : answer.Blameless) : Answered strict op answer session := by
  refine ⟨blameless, ?_⟩
  rw [received, parted, without, ite_self, ite_self]
  exact tidy

/-- Something happens to the world, and the books say what is in hand afterwards. -/
theorem upholds_lift {action : Bridge β} {gives brings : β → Multiset ObjectId} (goes : Goes action)
    (keeping : ∀ session, before session → Keeping strict wrapped taken hand mine session)
    (each : ∀ session bound, before session → (wrapped = true → bound = true) →
      session.world.Balanced (session.terms strict taken) bound (hand + session.holdings) (mine + unitsIn (contents session.frames)) →
      World.course.quiet' (ends action session.world).2 →
      Met (fun value world => world.Balanced (session.terms strict taken) bound (gives value + session.holdings)
        (brings value + unitsIn (contents session.frames))) Nowhere (ends action session.world)) :
    Upholds Session.course before (lift action : Run α β)
      (fun value session => Keeping strict wrapped taken (gives value) (brings value) session) unwound := by
  refine ⟨goes_lift goes, fun session known quiet => ?_⟩
  obtain ⟨bound, told, balanced⟩ := keeping session known
  rw [ends_lift] at quiet ⊢
  have met := each session bound known told balanced.world quiet
  generalize ends action session.world = ended at met ⊢
  obtain ⟨outcome, world⟩ := ended
  cases outcome with
  | ok value => exact ⟨bound, told, balanced.moved met id⟩
  | error payload => exact met.elim

/-- Native code may raise instead. It only ever has units of the program's own. -/
theorem upholds_lift_raising {action : Bridge β} (gives : β → Multiset ObjectId) (fact : β → World → Prop) (goes : Goes action)
    (keeping : ∀ session, before session → Keeping strict wrapped 0 hand 0 session)
    (each : ∀ session bound, before session → (wrapped = true → bound = true) →
      session.world.Balanced (session.terms strict 0) bound (hand + session.holdings) (0 + unitsIn (contents session.frames)) →
      World.course.quiet' (ends action session.world).2 →
      Met (fun value world => world.Balanced (session.terms strict 0) bound (gives value + session.holdings)
        (0 + unitsIn (contents session.frames)) ∧ fact value world)
        (Aloft (session.terms strict 0) bound session.holdings (0 + unitsIn (contents session.frames))) (ends action session.world)) :
    Upholds Session.course before (lift action : Run α β)
      (fun value session => Keeping strict wrapped 0 (gives value) 0 session ∧ fact value session.world) (Adrift strict) := by
  refine ⟨goes_lift goes, fun session known quiet => ?_⟩
  obtain ⟨bound, told, balanced⟩ := keeping session known
  rw [ends_lift] at quiet ⊢
  have met := each session bound known told balanced.world quiet
  generalize ends action session.world = ended at met ⊢
  obtain ⟨outcome, world⟩ := ended
  cases outcome with
  | ok value => exact ⟨⟨bound, told, balanced.moved met.1 id⟩, met.2⟩
  | error payload =>
    obtain ⟨blameless, aloft⟩ := met
    rw [zero_add] at aloft
    exact ⟨blameless, bound || payload.isWrapped, by simp +contextual, balanced.moved aloft (by simp +contextual)⟩

theorem add_bare (units rest : Multiset ObjectId) : units + rest = units + (0 + rest) := by rw [zero_add]

theorem Inward.parted (inward : Inward op) (answer : Answer α) : CountBridge.Program.parted op answer = none :=
  if_neg inward.2

theorem upholds_answer (inward : Inward op) {answer : Answer α} (blameless : answer.Blameless) :
    Upholds Session.course (Keeping strict wrapped 0 0 0) (pure answer) (Answered strict op) unwound :=
  .pure fun _ keeping => Tidy.answered keeping.relax inward blameless

theorem goes_bindHandle (keep : Option Name) (handle : Handle) :
    Onward Session.course (update fun session : Session α => session.bindHandle keep handle) := by
  intro session
  rw [ends_update]
  cases keep <;> exact Session.course.refl session

theorem upholds_keepHandle (keep : Option Name) (handle : Handle) (inward : Inward op) :
    Upholds (α := Answer α) Session.course (Keeping strict wrapped 0 0 0) (keepHandle keep handle) (Answered strict op) unwound := by
  have bound : Upholds Session.course (Keeping (α := α) strict wrapped 0 0 0) (update fun session => session.bindHandle keep handle)
      (fun _ => Keeping strict wrapped 0 0 0) unwound := by
    refine ⟨goes_bindHandle keep handle, fun session keeping _ => ?_⟩
    obtain ⟨bound, known, balanced⟩ := keeping
    cases keep with
    | none => exact ⟨bound, known, balanced⟩
    | some name => exact ⟨bound, known, balanced.rebook rfl rfl balanced.idle⟩
  exact bound.bind fun _ => upholds_answer inward (Answer.blameless_of_none rfl)

theorem goes_gain (handle : Handle) : Onward Session.course (update fun session : Session α => session.gain handle) := by
  intro session
  rw [ends_update]
  cases handle <;> exact Session.course.refl session

/-- The program comes to own a unit that was in hand. -/
theorem upholds_gain (handle : Handle) :
    Upholds Session.course (Keeping (α := α) strict wrapped taken (unitOf handle) mine) (update fun session => session.gain handle)
      (fun _ session => Keeping strict wrapped taken 0 mine session ∧ ∀ id, handle = some id → id ∈ session.holdings) unwound := by
  refine ⟨goes_gain handle, ?_⟩
  rintro session ⟨bound, known, balanced⟩ _
  cases handle with
  | none => exact ⟨⟨bound, known, balanced⟩, nofun⟩
  | some id =>
    have paid : (0 : Multiset ObjectId) + (↑(id :: session.units) + unitsIn (contents session.frames)) =
        unitOf (some id) + session.holdings := by
      simp only [Session.holdings, unitOf_some, ← Multiset.cons_coe, ← Multiset.singleton_add]
      abel
    refine ⟨⟨bound, known, balanced.rebook paid rfl balanced.idle⟩, fun other same => ?_⟩
    cases same
    simp [Session.gain, Session.holdings]

/-- A unit is the program's own from then on. The step tells whether the bridge hands it out. -/
theorem upholds_keepUnit (keep : Option Name) (handle : Handle) (inward : op ∉ receiving) :
    Upholds Session.course (Keeping strict wrapped 0 (unitOf handle) (unitOf (parted op (.handle handle : Answer α))))
      (keepUnit keep handle) (Answered strict op) unwound := by
  have performs : Performs (α := α) false true (unitOf handle) (keepUnit keep handle) := performs_keepUnit keep handle
  refine ⟨performs.onward, fun session keeping quiet => ?_⟩
  have gained : Upholds Session.course (Keeping strict wrapped 0 (unitOf handle) (unitOf (parted op (.handle handle : Answer α)))) _ _
      unwound := upholds_gain handle
  obtain ⟨⟨bound, -, balanced⟩, -⟩ := gained.met session keeping (by cases keep <;> exact quiet)
  refine ⟨Answer.blameless_of_none rfl, bound, nofun, ?_⟩
  rw [received, if_neg inward]
  cases keep with
  | none => exact balanced
  | some name => exact balanced.rebook rfl rfl balanced.idle

theorem upholds_keepUnit_inward (keep : Option Name) (handle : Handle) (inward : Inward op) :
    Upholds (α := Answer α) Session.course (Keeping strict wrapped 0 (unitOf handle) 0) (keepUnit keep handle) (Answered strict op)
      unwound := by
  have kept : Upholds Session.course (Keeping strict wrapped 0 (unitOf handle) (unitOf (parted op (.handle handle : Answer α))))
      (keepUnit keep handle) (Answered strict op) unwound := upholds_keepUnit keep handle inward.1
  rwa [inward.parted] at kept

/-- What is in hand is a wrapper's unit, and stays with it or is given back. -/
theorem upholds_keepWrapper (keep : Option Name) (wrapper : Wrapper) (known : wrapper.handle ≠ none → wrapped = true) :
    Upholds (α := Unit) Session.course (Keeping (α := α) strict wrapped taken (unitOf wrapper.handle) (unitOf wrapper.handle))
      (keepWrapper keep wrapper) (fun _ => Keeping strict wrapped taken 0 0) unwound := by
  cases keep with
  | none =>
    have keeps : Settles false true (unitOf wrapper.handle) wrapper.drop wrapper.drop Eq fun _ => 0 := wrapper.keeps_drop fun _ => rfl
    refine upholds_lift (keeps 0).onward (fun _ keeping => keeping) fun session bound _ told balanced quiet => ?_
    exact (Wrapper.upholds_drop fun present => told (known present)).met session.world
      (balanced.congr (add_bare _ _) (add_bare _ _)) quiet
  | some name =>
    refine ⟨fun session => Session.course.refl session, ?_⟩
    rintro session ⟨bound, told, balanced⟩ _
    refine ⟨bound, told, balanced.rebook ?_ ?_ fun unknown other member => ?_⟩
    · simp only [Session.holdings, contents_store, unitsIn_add, unitsIn_singleton]
      abel
    · simp only [contents_store, unitsIn_add, unitsIn_singleton, zero_add]
    · rw [contents_store, Multiset.mem_add, Multiset.mem_singleton] at member
      rcases member with rfl | member
      · by_contra present
        rw [told (known present)] at unknown
        cases unknown
      · exact balanced.idle unknown other member

theorem upholds_record {entry : Entry} (silent : entry.exchanges true = []) :
    Upholds Session.course (Keeping strict wrapped taken hand mine) (lift (record entry) : Run α Unit)
      (fun _ => Keeping strict wrapped taken hand mine) unwound :=
  upholds_lift (goes_record entry) (fun _ keeping => keeping) fun _ _ _ _ balanced _ => balanced.note entry silent

theorem upholds_keepMade (keep : Option Name) (made : Except BridgeError Wrapper) (inward : Inward op)
    (known : ∀ wrapper, made = .ok wrapper → wrapper.handle ≠ none → wrapped = true) :
    Upholds (α := Answer α) Session.course (Keeping strict wrapped 0 (Wrapper.madeUnits made) (Wrapper.madeUnits made))
      (keepMade keep made) (Answered strict op) unwound := by
  cases made with
  | error error => exact upholds_answer inward (Answer.blameless_of_none rfl)
  | ok wrapper =>
    exact (upholds_record rfl).bind fun _ => (upholds_keepWrapper keep wrapper (known wrapper rfl)).bind fun _ =>
      upholds_answer inward (Answer.blameless_of_none rfl)

abbrev Having (strict : Bool) (wrapper : Wrapper) : Session α → Prop :=
  Keeping strict wrapper.handle.isSome 0 (unitOf wrapper.handle) (unitOf wrapper.handle)

theorem upholds_caught (keep : Option Name) (err : Wrapper) :
    Upholds (α := Report) Session.course (Having (α := α) strict err) (caught keep err) (fun _ => Tidy strict) unwound := by
  have known : err.handle ≠ none → err.handle.isSome = true := Option.isSome_iff_ne_none.mpr
  have keeps : Settles false true 0 err.message err.message Eq fun _ => 0 := err.keeps_message fun _ => rfl
  have read : Upholds Session.course (Having (α := α) strict err) (lift err.message : Run α String) (fun _ => Having strict err)
      unwound := by
    refine upholds_lift (keeps 0).onward (fun _ having => having) fun session bound _ told balanced quiet => ?_
    have own (id : ObjectId) (same : err.handle = some id) : id ∈ unitOf err.handle + session.holdings := by simp [same]
    exact (Wrapper.upholds_message (fun present => told (known present)) own).met session.world balanced quiet
  have shown : Upholds Session.course (Having (α := α) strict err) (describe err) (fun _ => Having strict err) unwound :=
    (upholds_record rfl).bind fun _ => read.bind fun _ => .pure fun _ having => having
  exact shown.bind fun _ => (upholds_keepWrapper keep err known).bind fun _ => .pure fun _ keeping => keeping.relax

/-- What unwound to the end of a thread or of the program is dropped there. -/
theorem upholds_conclude (payload : Unwind) :
    Upholds (α := Ending) Session.course (Adrift (α := α) strict payload) (conclude payload)
      (fun ending session => Tidy strict session ∧ ∀ cause, ending = .fault cause → cause = .invalidError) unwound := by
  cases payload with
  | native err =>
    refine ((upholds_caught none err).strengthen fun _ adrift => adrift.2).bind fun _ => .pure fun _ tidy => ⟨tidy, nofun⟩
  | text message => exact .pure fun _ adrift => ⟨adrift.2, nofun⟩
  | number value => exact .pure fun _ adrift => ⟨adrift.2, nofun⟩
  | fault cause => exact .pure fun _ adrift => ⟨adrift.2, fun other same => adrift.1 other (by cases same; rfl)⟩

section Resolving

variable {name : Name}

theorem upholds_refuse (refusal : Refusal) (alive : refusal ≠ .deadHandle) (tidy : ∀ session, before session → Tidy strict session) :
    Upholds (α := Answer α) Session.course before (refuse refusal) (Answered strict op) unwound := by
  rw [refuse, if_neg alive]
  exact .pure fun session known => (tidy session known).answered_without rfl (Answer.blameless_of_none rfl)

theorem upholds_withHeap {next : HeapId → Run α (Answer α)} (tidy : ∀ session, before session → Tidy strict session)
    (each : ∀ heap, Upholds Session.course (fun session => before session ∧ lookup name session.heaps = some heap) (next heap)
      (Answered strict op) unwound) :
    Upholds Session.course before (withHeap name next) (Answered strict op) unwound := by
  have goes : Onward Session.course (withHeap name next) := by
    apply goes_session.bind
    intro session
    split
    next heap _ => exact (each heap).onward
    next => exact goes_refuse _
  refine ⟨goes, fun session known quiet => ?_⟩
  rw [ends_withHeap] at quiet ⊢
  cases found : lookup name session.heaps with
  | none =>
    rw [found] at quiet
    exact (upholds_refuse .noSuchHeap nofun tidy).met session known quiet
  | some heap =>
    rw [found] at quiet
    exact (each heap).met session ⟨known, found⟩ quiet

theorem upholds_withHandle {next : Handle → Run α (Answer α)} (tidy : ∀ session, before session → Tidy strict session)
    (usable : ∀ session, before session → session.Usable name)
    (each : ∀ handle, Upholds Session.course (fun session => before session ∧ session.handleNamed name = .ok handle) (next handle)
      (Answered strict op) unwound) :
    Upholds Session.course before (withHandle name next) (Answered strict op) unwound := by
  have goes : Onward Session.course (withHandle name next) := by
    apply goes_session.bind
    intro session
    split
    next handle _ => exact (each handle).onward
    next refusal _ => exact goes_refuse _
  refine ⟨goes, fun session known quiet => ?_⟩
  rw [ends_withHandle] at quiet ⊢
  cases found : session.handleNamed name with
  | error refusal =>
    rw [found] at quiet
    have alive : refusal ≠ .deadHandle := fun same => usable session known (same ▸ found)
    exact (upholds_refuse refusal alive tidy).met session known quiet
  | ok handle =>
    rw [found] at quiet
    exact (each handle).met session ⟨known, found⟩ quiet

theorem upholds_withLive {next : ObjectId → Run α (Answer α)} (tidy : ∀ session, before session → Tidy strict session)
    (usable : ∀ session, before session → session.Usable name)
    (each : ∀ id, Upholds Session.course (fun session => before session ∧ session.handleNamed name = .ok (some id)) (next id)
      (Answered strict op) unwound) :
    Upholds Session.course before (withLive name next) (Answered strict op) unwound := by
  apply upholds_withHandle tidy usable
  intro handle
  cases handle with
  | none => exact upholds_refuse .nullHandle nofun fun session known => tidy session known.1
  | some id => exact each id

/-- What is named as live does live. -/
theorem Session.lives_of_named {id : ObjectId} (named : session.handleNamed name = .ok (some id)) : session.world.Lives id := by
  unfold Session.handleNamed at named
  split at named
  next => cases named
  next => cases named
  next other _ =>
    split at named
    next live =>
      cases named
      exact Option.isSome_iff_exists.mp live
    next => cases named

theorem upholds_withBinding {next : Binding → Run α (Answer α)} (tidy : ∀ session, before session → Tidy strict session)
    (each : ∀ binding, Upholds Session.course (fun session => before session ∧ Keeping strict true 0 0 0 session) (next binding)
      (Answered strict op) unwound) :
    Upholds Session.course before (withBinding next) (Answered strict op) unwound := by
  have goes : Onward Session.course (withBinding next) := by
    apply goes_session.bind
    intro session
    split
    next binding _ => exact (each binding).onward
    next => exact .pure _
  refine ⟨goes, fun session known quiet => ?_⟩
  rw [ends_withBinding] at quiet ⊢
  obtain ⟨bound, told, balanced⟩ := tidy session known
  cases found : session.world.binding? with
  | none => exact Tidy.answered_without ⟨bound, told, balanced⟩ rfl (Answer.blameless_of_none rfl)
  | some binding =>
    rw [found] at quiet
    have isBound : session.world.isBound = true := by simp [World.isBound, found]
    exact (each binding).met session ⟨known, true, fun _ => rfl, balanced.upgrade isBound⟩ quiet

/-- A unit of the program's own is in hand, and nothing else has changed. -/
theorem upholds_spending {handle : Handle} {next : Run α (Answer α)}
    (fact : World → Prop) (keeping : ∀ session, before session → Keeping strict wrapped 0 0 0 session)
    (facts : ∀ session, before session → fact session.world)
    (spent : Upholds Session.course (fun session => Keeping strict wrapped 0 (unitOf handle) 0 session ∧ fact session.world) next
      (Answered strict op) unwound) :
    Upholds Session.course before (spending handle next) (Answered strict op) unwound := by
  cases handle with
  | none => exact spent.strengthen fun session known => ⟨keeping session known, facts session known⟩
  | some id =>
    have ended (session : Session α) : ends (spending (some id) next) session = ends (if id ∈ session.units then do
        update fun session : Session α => { session with units := session.units.erase id }
        next
      else refuse .noUnit) session := rfl
    have goes : Onward Session.course (spending (some id) next) := by
      apply goes_session.bind
      intro session
      split
      · exact fun session => spent.onward { session with units := session.units.erase id }
      · exact goes_refuse _
    refine ⟨goes, fun session known quiet => ?_⟩
    rw [ended] at quiet ⊢
    split at quiet
    next member =>
      rw [if_pos member]
      obtain ⟨bound, told, balanced⟩ := keeping session known
      refine spent.met { session with units := session.units.erase id }
        ⟨⟨bound, told, balanced.rebook ?_ rfl balanced.idle⟩, facts session known⟩ quiet
      have split : ({id} : Multiset ObjectId) + ↑(session.units.erase id) = ↑session.units := by
        rw [← Multiset.coe_erase, Multiset.singleton_add, Multiset.cons_erase (Multiset.mem_coe.mpr member)]
      rw [unitOf_some, ← add_assoc, split, zero_add]
      rfl
    next missing =>
      rw [if_neg missing]
      exact (upholds_refuse .noUnit nofun fun session known => (keeping session known).relax).met session known quiet

theorem upholds_withWrapper {next : Wrapper → Run α (Answer α)} (tidy : ∀ session, before session → Tidy strict session)
    (each : ∀ wrapper, Upholds Session.course (fun session => (before session ∧ findWrapper name session.frames = some wrapper) ∧
      Keeping strict wrapper.handle.isSome 0 0 0 session) (next wrapper) (Answered strict op) unwound) :
    Upholds Session.course before (withWrapper name next) (Answered strict op) unwound := by
  have goes : Onward Session.course (withWrapper name next) := by
    apply goes_session.bind
    intro session
    split
    next wrapper _ => exact (each wrapper).onward
    next => exact goes_refuse _
  refine ⟨goes, fun session known quiet => ?_⟩
  rw [ends_withWrapper] at quiet ⊢
  cases found : findWrapper name session.frames with
  | none =>
    rw [found] at quiet
    exact (upholds_refuse .noSuchWrapper nofun tidy).met session known quiet
  | some wrapper =>
    rw [found] at quiet
    obtain ⟨bound, -, balanced⟩ := tidy session known
    refine (each wrapper).met session ⟨⟨known, found⟩, bound, fun present => ?_, balanced⟩ quiet
    by_contra unknown
    rw [balanced.idle (eq_false_of_ne_true unknown) wrapper (mem_contents_of_find found)] at present
    cases present

/-- A wrapper leaves its scope, and its unit is in hand. -/
theorem Tidy.take {wrapper : Wrapper} {frames : List Frame} (tidy : Tidy strict session)
    (taken : takeWrapper name session.frames = some (wrapper, frames)) : Having strict wrapper { session with frames } := by
  obtain ⟨bound, -, balanced⟩ := tidy
  have split := contents_take taken
  refine ⟨bound, fun present => ?_, balanced.rebook ?_ ?_ fun unknown other member => ?_⟩
  · by_contra unknown
    rw [balanced.idle (eq_false_of_ne_true unknown) wrapper (by simp [split])] at present
    cases present
  · simp only [Session.holdings, split, unitsIn_add, unitsIn_singleton]
    abel
  · simp only [split, unitsIn_add, unitsIn_singleton, zero_add]
  · exact balanced.idle unknown other (by rw [split]; exact Multiset.mem_add.mpr (.inr member))

theorem upholds_taking {next : Wrapper → Run α (Answer α)} (tidy : ∀ session, before session → Tidy strict session)
    (each : ∀ wrapper, Upholds Session.course (Having strict wrapper) (next wrapper) (Answered strict op) unwound) :
    Upholds Session.course before (taking name next) (Answered strict op) unwound := by
  have goes : Onward Session.course (taking name next) := by
    intro session
    rw [ends_taking]
    split
    next wrapper frames _ => exact (each wrapper).onward { session with frames }
    next => exact goes_refuse _ session
  refine ⟨goes, fun session known quiet => ?_⟩
  rw [ends_taking] at quiet ⊢
  cases taken : takeWrapper name session.frames with
  | none =>
    rw [taken] at quiet
    exact (upholds_refuse .noSuchWrapper nofun tidy).met session known quiet
  | some found =>
    obtain ⟨wrapper, frames⟩ := found
    rw [taken] at quiet
    exact (each wrapper).met { session with frames } ((tidy session known).take taken) quiet

end Resolving

end CountBridge.Program
