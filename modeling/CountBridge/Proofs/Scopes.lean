import CountBridge.Proofs.Trapping

/-! The open scopes. An operation leaves as many as it finds, with the same guards. Of the
wrappers in them it takes out or changes only such as it names; every other one stays where
it is, as it is. -/

namespace CountBridge.Program

variable {α β γ : Type}

def guardsOf (frames : List Frame) : List (Option Wrapper) := frames.map (·.guard?)

/-- The wrappers that an action takes out of their scopes or changes. At others it only looks. -/
def Action.takes : Action → List Name
  | .convert wrapper _ | .intoRaw wrapper _ | .release wrapper | .dropWrapper wrapper | .raise wrapper => [wrapper]
  | _ => []

mutual

def Op.takes : Op α → List Name
  | .act action => action.takes
  | .scoped wrapper body => wrapper :: takesAll body
  | .attempt _ body _ | .hostTrap _ body _ | .runRoutine _ body _ | .trap body _ _ | .guarded body _ | .scope body
  | .thread body _ | .trapFuture body _ _ | .spawn body _ _ => takesAll body

def takesAll : List (Op α) → List Name
  | [] => []
  | op :: rest => op.takes ++ takesAll rest

end

namespace Frame

def others (named : List Name) (frame : Frame) : List (Name × Wrapper) := frame.wrappers.filter (·.1 ∉ named)

/-- A scope keeps its guard and all wrappers but those named, and gets no new ones. -/
structure Spares (named : List Name) (before after : Frame) : Prop where
  guard : after.guard? = before.guard?
  others : after.others named = before.others named
  fewer : after.wrappers.length ≤ before.wrappers.length

structure Grows (named : List Name) (before after : Frame) : Prop where
  guard : after.guard? = before.guard?
  others : before.others named <:+ after.others named

variable {named : List Name} {first second third : Frame}

theorem Spares.refl (frame : Frame) : frame.Spares named frame := ⟨rfl, rfl, le_rfl⟩

theorem Spares.trans (early : first.Spares named second) (late : second.Spares named third) : first.Spares named third :=
  ⟨late.guard.trans early.guard, late.others.trans early.others, late.fewer.trans early.fewer⟩

theorem Spares.grows (spares : first.Spares named second) : first.Grows named second :=
  ⟨spares.guard, by rw [spares.others]⟩

theorem Grows.trans (early : first.Grows named second) (late : second.Grows named third) : first.Grows named third :=
  ⟨late.guard.trans early.guard, early.others.trans late.others⟩

end Frame

/-- Scopes stay open, and only the innermost one gets new wrappers. -/
inductive Arranged (named : List Name) : List Frame → List Frame → Prop
  | opened {frame frame' outer outer'} (innermost : frame.Grows named frame')
      (further : List.Forall₂ (Frame.Spares named) outer outer') : Arranged named (frame :: outer) (frame' :: outer')

section Arranged

variable {named : List Name} {first second third : List Frame}

theorem spares_trans (early : List.Forall₂ (Frame.Spares named) first second)
    (late : List.Forall₂ (Frame.Spares named) second third) : List.Forall₂ (Frame.Spares named) first third := by
  induction early generalizing third with
  | nil => exact late
  | cons spares _ ih =>
    cases late with
    | cons spares' rest => exact .cons (spares.trans spares') (ih rest)

theorem guards_spared (spared : List.Forall₂ (Frame.Spares named) first second) : guardsOf second = guardsOf first := by
  induction spared with
  | nil => rfl
  | cons spares _ ih => exact congrArg₂ List.cons spares.guard ih

theorem Arranged.ne_nil (arranged : Arranged named first second) : second ≠ [] := by
  cases arranged
  nofun

theorem Arranged.of_spared (spared : List.Forall₂ (Frame.Spares named) first second) (opened : first ≠ []) :
    Arranged named first second := by
  cases spared with
  | nil => exact absurd rfl opened
  | cons spares further => exact .opened spares.grows further

theorem Arranged.refl (opened : first ≠ []) : Arranged named first first :=
  .of_spared (List.forall₂_same.mpr fun frame _ => .refl frame) opened

theorem Arranged.trans (early : Arranged named first second) (late : Arranged named second third) :
    Arranged named first third := by
  cases early with
  | opened grows further =>
    cases late with
    | opened grows' further' => exact .opened (grows.trans grows') (spares_trans further further')

theorem Arranged.further {frame : Frame} (arranged : Arranged named (frame :: first) second) :
    List.Forall₂ (Frame.Spares named) first second.tail := by
  cases arranged with
  | opened grows further => exact further

theorem Arranged.guards (arranged : Arranged named first second) : guardsOf second = guardsOf first := by
  cases arranged with
  | opened grows further => exact congrArg₂ List.cons grows.guard (guards_spared further)

end Arranged

/-- Wrappers under other names than those given stay. With no scope open, the first wrapper opens one. -/
def arranging (named : List Name) : Course (Session α) where
  order before after := before.frames ≠ [] → Arranged named before.frames after.frames
  refl _ := .refl
  trans := by
    intro first second third begun further opened
    have early := begun opened
    exact early.trans (further early.ne_nil)
  quiet _ := True
  quiet' _ := True
  quiet_of_order _ _ := trivial
  quiet_of_order' _ _ := trivial

abbrev Arranges (named : List Name) (routine : Run α β) : Prop := Onward (arranging named) routine

variable {named : List Name} {name : Name} {wrapper : Wrapper} {frames rest : List Frame}

theorem arranged_store (name : Name) (wrapper : Wrapper) (opened : frames ≠ []) :
    Arranged named frames (storeWrapper name wrapper frames) := by
  cases frames with
  | nil => exact absurd rfl opened
  | cons frame outer =>
    refine .opened ⟨rfl, ?_⟩ (List.forall₂_same.mpr fun frame _ => .refl frame)
    simp only [Frame.others, List.filter_cons]
    split
    · exact List.suffix_cons _ _
    · exact List.suffix_refl _

theorem others_takeOut {entries kept : List (Name × β)} {found : β} (covers : name ∈ named)
    (taken : takeOut name entries = some (found, kept)) :
    kept.filter (·.1 ∉ named) = entries.filter (·.1 ∉ named) ∧ kept.length ≤ entries.length := by
  induction entries generalizing kept with
  | nil => cases taken
  | cons entry entries ih =>
    obtain ⟨other, value⟩ := entry
    simp only [takeOut] at taken
    split at taken
    next same =>
      cases taken
      subst same
      simp [covers]
    next =>
      simp only [Option.map_eq_some_iff, Prod.mk.injEq] at taken
      obtain ⟨⟨value', left⟩, inner, rfl, rfl⟩ := taken
      obtain ⟨others, fewer⟩ := ih inner
      exact ⟨by rw [List.filter_cons, List.filter_cons, others], by simpa using fewer⟩

theorem spared_take (covers : name ∈ named) (taken : takeWrapper name frames = some (wrapper, rest)) :
    List.Forall₂ (Frame.Spares named) frames rest := by
  induction frames generalizing rest with
  | nil => cases taken
  | cons frame outer ih =>
    simp only [takeWrapper] at taken
    split at taken
    next found wrappers out =>
      cases taken
      obtain ⟨others, fewer⟩ := others_takeOut covers out
      exact .cons ⟨rfl, others, fewer⟩ (List.forall₂_same.mpr fun frame _ => .refl frame)
    next =>
      simp only [Option.map_eq_some_iff, Prod.mk.injEq] at taken
      obtain ⟨⟨found, others⟩, inner, rfl, rfl⟩ := taken
      exact .cons (.refl frame) (ih inner)

theorem others_exchange {entries changed : List (Name × β)} {replacement : β} (covers : name ∈ named)
    (exchanged : exchange name replacement entries = some changed) :
    changed.filter (·.1 ∉ named) = entries.filter (·.1 ∉ named) ∧ changed.length = entries.length := by
  induction entries generalizing changed with
  | nil => cases exchanged
  | cons entry entries ih =>
    obtain ⟨other, value⟩ := entry
    simp only [exchange] at exchanged
    split at exchanged
    next same =>
      cases exchanged
      subst same
      simp [covers]
    next =>
      obtain ⟨left, inner, rfl⟩ := Option.map_eq_some_iff.mp exchanged
      obtain ⟨others, same⟩ := ih inner
      exact ⟨by rw [List.filter_cons, List.filter_cons, others], by simpa using same⟩

theorem spared_replace (covers : name ∈ named) (wrapper : Wrapper) (frames : List Frame) :
    List.Forall₂ (Frame.Spares named) frames (replaceWrapper name wrapper frames) := by
  induction frames with
  | nil => exact .nil
  | cons frame outer ih =>
    simp only [replaceWrapper]
    split
    next wrappers exchanged =>
      obtain ⟨others, same⟩ := others_exchange covers exchanged
      exact .cons ⟨rfl, others, same.le⟩ (List.forall₂_same.mpr fun frame _ => .refl frame)
    next => exact .cons (.refl frame) ih

def entries (frames : List Frame) : List (Name × Wrapper) := frames.flatMap (·.wrappers)

/-- The newest wrapper of a name is gone or another is in its place, and nothing else has changed. -/
def Touched (name : Name) (wrapper : Wrapper) (instead : List (Name × Wrapper)) (before after : List Frame) : Prop :=
  ∃ newer older, entries before = newer ++ (name, wrapper) :: older ∧ (∀ entry ∈ newer, entry.1 ≠ name) ∧
    entries after = newer ++ instead ++ older

section Newest

variable {newer older listed : List (Name × β)} {value : β}

theorem split_of_lookup (found : lookup name listed = some value) :
    ∃ newer older, listed = newer ++ (name, value) :: older ∧ ∀ entry ∈ newer, entry.1 ≠ name := by
  induction listed with
  | nil => cases found
  | cons entry rest ih =>
    obtain ⟨other, here⟩ := entry
    simp only [lookup] at found
    split at found
    next same =>
      cases found
      exact ⟨[], rest, by rw [same]; rfl, List.forall_mem_nil _⟩
    next different =>
      obtain ⟨newer, older, rfl, fresh⟩ := ih found
      exact ⟨(other, here) :: newer, older, rfl, List.forall_mem_cons.mpr ⟨different, fresh⟩⟩

theorem fresh_of_lookup (missing : lookup name listed = none) : ∀ entry ∈ listed, entry.1 ≠ name := by
  induction listed with
  | nil => exact List.forall_mem_nil _
  | cons entry rest ih =>
    simp only [lookup] at missing
    split at missing
    next => cases missing
    next different => exact List.forall_mem_cons.mpr ⟨different, ih missing⟩

theorem takeOut_newest (fresh : ∀ entry ∈ newer, entry.1 ≠ name) :
    takeOut name (newer ++ (name, value) :: older) = some (value, newer ++ older) := by
  induction newer with
  | nil => simp [takeOut]
  | cons entry rest ih =>
    obtain ⟨different, others⟩ := List.forall_mem_cons.mp fresh
    simp [takeOut, different, ih others]

theorem takeOut_fresh (fresh : ∀ entry ∈ listed, entry.1 ≠ name) : takeOut name listed = none := by
  induction listed with
  | nil => rfl
  | cons entry rest ih =>
    obtain ⟨different, others⟩ := List.forall_mem_cons.mp fresh
    simp [takeOut, different, ih others]

theorem exchange_newest (fresh : ∀ entry ∈ newer, entry.1 ≠ name) (replacement : β) :
    exchange name replacement (newer ++ (name, value) :: older) = some (newer ++ (name, replacement) :: older) := by
  induction newer with
  | nil => simp [exchange]
  | cons entry rest ih =>
    obtain ⟨different, others⟩ := List.forall_mem_cons.mp fresh
    simp [exchange, different, ih others]

theorem exchange_fresh (fresh : ∀ entry ∈ listed, entry.1 ≠ name) (replacement : β) :
    exchange name replacement listed = none := by
  induction listed with
  | nil => rfl
  | cons entry rest ih =>
    obtain ⟨different, others⟩ := List.forall_mem_cons.mp fresh
    simp [exchange, different, ih others]

end Newest

/-- Where a scope has no wrapper of the name, the next one is asked. -/
theorem Touched.outward {frame : Frame} {outer outer' : List Frame} {instead : List (Name × Wrapper)}
    (fresh : ∀ entry ∈ frame.wrappers, entry.1 ≠ name) (touched : Touched name wrapper instead outer outer') :
    Touched name wrapper instead (frame :: outer) (frame :: outer') := by
  obtain ⟨newer, older, before, newest, after⟩ := touched
  refine ⟨frame.wrappers ++ newer, older, ?_, fun entry member => ?_, ?_⟩
  · rw [entries, List.flatMap_cons, ← entries, before, List.append_assoc]
  · exact (List.mem_append.mp member).elim (fresh entry) (newest entry)
  · rw [entries, List.flatMap_cons, ← entries, after]
    simp only [List.append_assoc]

theorem touched_newest (found : findWrapper name frames = some wrapper) :
    (∃ rest, takeWrapper name frames = some (wrapper, rest) ∧ Touched name wrapper [] frames rest) ∧
      ∀ instead, Touched name wrapper [(name, instead)] frames (replaceWrapper name instead frames) := by
  induction frames with
  | nil => cases found
  | cons frame outer ih =>
    simp only [findWrapper] at found
    simp only [takeWrapper, replaceWrapper]
    split at found
    next here there =>
      cases found
      obtain ⟨guard?, wrappers⟩ := frame
      obtain ⟨newer, older, rfl, newest⟩ := split_of_lookup there
      simp only [takeOut_newest newest, exchange_newest newest]
      refine ⟨⟨_, rfl, newer, older ++ entries outer, ?_, newest, ?_⟩,
        fun instead => ⟨newer, older ++ entries outer, ?_, newest, ?_⟩⟩
      all_goals simp [entries]
    next missing =>
      have fresh := fresh_of_lookup missing
      obtain ⟨⟨rest, taken, touched⟩, replaced⟩ := ih found
      simp only [takeOut_fresh fresh, exchange_fresh fresh, taken]
      exact ⟨⟨_, rfl, touched.outward fresh⟩, fun instead => (replaced instead).outward fresh⟩

theorem arranges_lift (action : Bridge β) : Arranges named (lift action : Run α β) := fun _ => .refl

theorem arranges_session : Arranges named (session : Run α (Session α)) := fun _ => .refl

theorem arranges_update {change : Session α → Session α}
    (same : ∀ session : Session α, (change session).frames = session.frames) :
    Arranges named (update change) := by
  intro session opened
  rw [ends_update, same]
  exact .refl opened

theorem arranges_refuse (refusal : Refusal) : Arranges named (refuse refusal : Run α (Answer α)) := by
  rw [refuse]
  split
  · exact (arranges_lift _).bind fun _ => .pure _
  · exact .pure _

theorem arranges_withHeap {next : HeapId → Run α (Answer α)} (each : ∀ heap, Arranges named (next heap)) :
    Arranges named (withHeap name next) := by
  apply arranges_session.bind
  intro session
  split
  · exact each _
  · exact arranges_refuse _

theorem arranges_withHandle {next : Handle → Run α (Answer α)} (each : ∀ handle, Arranges named (next handle)) :
    Arranges named (withHandle name next) := by
  apply arranges_session.bind
  intro session
  split
  · exact each _
  · exact arranges_refuse _

theorem arranges_withLive {next : ObjectId → Run α (Answer α)} (each : ∀ id, Arranges named (next id)) :
    Arranges named (withLive name next) := by
  apply arranges_withHandle
  intro handle
  cases handle with
  | none => exact arranges_refuse _
  | some id => exact each id

theorem arranges_withBinding {next : Binding → Run α (Answer α)} (each : ∀ binding, Arranges named (next binding)) :
    Arranges named (withBinding next) := by
  apply arranges_session.bind
  intro session
  split
  · exact each _
  · exact .pure _

theorem arranges_spending {handle : Handle} {next : Run α (Answer α)} (spent : Arranges named next) :
    Arranges named (spending handle next) := by
  cases handle with
  | none => exact spent
  | some id =>
    apply arranges_session.bind
    intro session
    split
    · exact Onward.bind (arranges_update fun _ => rfl) fun _ => spent
    · exact arranges_refuse _

theorem arranges_withWrapper {next : Wrapper → Run α (Answer α)} (each : ∀ wrapper, Arranges named (next wrapper)) :
    Arranges named (withWrapper name next) := by
  apply arranges_session.bind
  intro session
  split
  · exact each _
  · exact arranges_refuse _

theorem arranges_taking {next : Wrapper → Run α (Answer α)} (covers : name ∈ named)
    (each : ∀ wrapper, Arranges named (next wrapper)) : Arranges named (taking name next) := by
  intro session
  rw [ends_taking]
  split
  next wrapper frames taken =>
    have left : (arranging named).order session { session with frames } := .of_spared (spared_take covers taken)
    exact (arranging named).trans left (each wrapper { session with frames })
  next => exact arranges_refuse _ session

theorem arranges_keepHandle (keep : Option Name) (handle : Handle) :
    Arranges named (keepHandle keep handle : Run α (Answer α)) :=
  (arranges_update fun session => frames_bindHandle session keep handle).bind fun _ => .pure _

theorem arranges_keepUnit (keep : Option Name) (handle : Handle) :
    Arranges named (keepUnit keep handle : Run α (Answer α)) := by
  refine (arranges_update fun session => ?_).bind fun _ => .pure _
  rw [frames_bindHandle, frames_gain]

theorem arranges_keepWrapper (keep : Option Name) (wrapper : Wrapper) :
    Arranges named (keepWrapper keep wrapper : Run α Unit) := by
  cases keep with
  | none => exact arranges_lift _
  | some name => exact fun session opened => arranged_store name wrapper opened

theorem arranges_keepMade (keep : Option Name) (made : Except BridgeError Wrapper) :
    Arranges named (keepMade keep made : Run α (Answer α)) := by
  cases made with
  | error error => exact .pure _
  | ok wrapper => exact (arranges_lift _).bind fun _ => (arranges_keepWrapper keep wrapper).bind fun _ => .pure _

theorem arranges_caught (keep : Option Name) (err : Wrapper) : Arranges named (caught keep err : Run α Report) := by
  have described : Arranges named (describe err : Run α Report) :=
    (arranges_lift _).bind fun _ => (arranges_lift _).bind fun _ => .pure _
  exact described.bind fun _ => (arranges_keepWrapper keep err).bind fun _ => .pure _

theorem arranges_conclude (payload : Unwind) : Arranges named (conclude payload : Run α Ending) := by
  cases payload with
  | native err => exact (arranges_caught none err).bind fun _ => .pure _
  | text message => exact .pure _
  | number value => exact .pure _
  | fault cause => exact .pure _

theorem arranges_perform (action : Action) (covers : action.takes ⊆ named) :
    Arranges named (perform action : Run α (Answer α)) := by
  cases action with
  | openHeap name => exact Onward.bind (arranges_update fun _ => rfl) fun _ => .pure _
  | boot heap => exact arranges_withHeap fun heap => (arranges_lift _).bind fun _ => .pure _
  | heapInfo heap => exact arranges_withHeap fun heap => (arranges_lift _).bind fun _ => .pure _
  | newPlain | newBytes | newVector | newString =>
    exact arranges_withHeap fun heap => (arranges_lift _).bind fun _ => arranges_keepUnit _ _
  | newError heap mess keep =>
    exact arranges_withHeap fun heap => arranges_withHandle fun mess => arranges_spending <|
      (arranges_lift _).bind fun _ => arranges_keepUnit _ _
  | increment heap handle =>
    refine arranges_withHeap fun heap => arranges_withHandle fun handle => (arranges_lift _).bind fun _ => ?_
    refine (arranges_update fun session => frames_gain session handle).bind fun _ => ?_
    cases handle with
    | none => exact .pure _
    | some id => exact (arranges_lift _).bind fun _ => .pure _
  | decrement heap handle =>
    exact arranges_withHeap fun heap => arranges_withHandle fun handle =>
      arranges_spending ((arranges_lift _).bind fun _ => .pure _)
  | push heap vector item =>
    exact arranges_withHeap fun heap => arranges_withLive fun vector => arranges_withHandle fun item => arranges_spending <|
      (arranges_lift _).bind fun _ => (arranges_lift _).bind fun _ => .pure _
  | look heap handle => exact arranges_withHeap fun _ => arranges_withLive fun id => (arranges_lift _).bind fun _ => .pure _
  | alive heap handle =>
    apply arranges_withHeap
    intro _
    apply arranges_session.bind
    intro session
    split
    · exact arranges_refuse _
    · exact arranges_session.bind fun _ => .pure _
  | toString heap handle keep =>
    exact arranges_withHeap fun heap => arranges_withLive fun id => (arranges_lift _).bind fun _ =>
      (arranges_lift _).bind fun _ =>
      (arranges_keepUnit _ _).bind fun _ => .pure _
  | messageOf heap handle keep =>
    exact arranges_withHeap fun _ => arranges_withLive fun id => (arranges_lift _).bind fun _ => arranges_keepHandle _ _
  | throwHandle | hostRaise =>
    exact arranges_withHeap fun _ => arranges_withHandle fun handle => arranges_spending (arranges_lift _)
  | throwMessage heap message => exact arranges_withHeap fun heap => arranges_lift _
  | bootstrap heap config version =>
    apply arranges_withHeap
    intro heap
    apply (arranges_lift _).bind
    intro bound
    cases bound with
    | ok config => exact .pure _
    | error error => exact .pure _
  | current | bindingInfo => exact arranges_withBinding fun _ => .pure _
  | collect => exact arranges_withBinding fun _ => (arranges_lift _).bind fun _ => .pure _
  | makeString | makeError => exact arranges_withBinding fun _ => (arranges_lift _).bind fun _ => arranges_keepMade _ _
  | extract handle keep =>
    apply arranges_withHandle
    intro handle
    apply arranges_withBinding
    intro _
    apply (arranges_lift _).bind
    intro read
    cases read with
    | ok text => exact .pure _
    | error err => exact (arranges_caught _ _).bind fun _ => .pure _
  | stub stubs => exact Onward.bind (arranges_update fun _ => rfl) fun _ => .pure _
  | burst | hammer =>
    exact arranges_withLive fun id => arranges_withBinding fun _ => arranges_session.bind fun _ =>
      (arranges_lift _).bind fun _ => .pure _
  | adopt kind handle keep =>
    exact arranges_withHandle fun handle => arranges_withBinding fun _ => arranges_spending (arranges_keepMade _ _)
  | ofRaw kind handle keep =>
    refine arranges_withHandle fun handle => arranges_withBinding fun _ => arranges_spending ?_
    cases handle with
    | none => exact .pure _
    | some id => exact (arranges_lift _).bind fun _ => (arranges_keepWrapper _ _).bind fun _ => .pure _
  | retain handle keep =>
    exact arranges_withHandle fun handle => arranges_withBinding fun _ => (arranges_lift _).bind fun _ => arranges_keepMade _ _
  | convert wrapper kind =>
    exact arranges_taking (covers List.mem_cons_self) fun taken => (arranges_keepWrapper _ _).bind fun _ => .pure _
  | intoRaw wrapper keep => exact arranges_taking (covers List.mem_cons_self) fun taken => arranges_keepUnit _ _
  | handleOf wrapper keep => exact arranges_withWrapper fun found => arranges_keepHandle _ _
  | release wrapper =>
    refine arranges_withWrapper fun found => Onward.bind (fun session => ?_) fun _ => (arranges_lift _).bind fun _ => .pure _
    exact .of_spared (spared_replace (covers List.mem_cons_self) found.released session.frames)
  | clone wrapper keep => exact arranges_withWrapper fun found => (arranges_lift _).bind fun _ => arranges_keepMade _ _
  | dropWrapper wrapper =>
    exact arranges_taking (covers List.mem_cons_self) fun taken => (arranges_lift _).bind fun _ => .pure _
  | inspect wrapper =>
    exact arranges_withWrapper fun found => (arranges_lift _).bind fun _ => (arranges_lift _).bind fun _ => .pure _
  | text wrapper =>
    apply arranges_withWrapper
    intro found
    split
    · apply (arranges_lift _).bind
      rintro ⟨first, display⟩
      cases first with
      | ok text => exact .pure _
      | error err => exact (arranges_caught _ _).bind fun _ => .pure _
    · exact arranges_refuse _
  | message wrapper =>
    apply arranges_withWrapper
    intro found
    split
    · exact (arranges_lift _).bind fun _ => .pure _
    · exact arranges_refuse _
  | compare first second => exact arranges_withWrapper fun second => arranges_withWrapper fun first => .pure _
  | raise wrapper =>
    apply arranges_withWrapper
    intro found
    split
    · exact arranges_taking (covers List.mem_cons_self) fun taken => arranges_lift _
    · exact arranges_refuse _
  | panicText | panicNumber => exact .throw _

def framing : Course (Session α) where
  order before after := after.frames = before.frames
  refl _ := rfl
  trans begun further := further.trans begun
  quiet _ := True
  quiet' _ := True
  quiet_of_order _ _ := trivial
  quiet_of_order' _ _ := trivial

/-- The innermost scope is gone, and the others are as they were. -/
theorem frames_closeFrame (session : Session α) : (ends closeFrame session).2.frames = session.frames.tail := by
  rw [ends_closeFrame]
  split
  next closed => rw [closed]; rfl
  next frame outer opened =>
    rw [opened]
    have lifted {β : Type} (action : Bridge β) : Onward (framing (α := α)) (lift action) := fun _ => rfl
    exact onward_leave (fun _ => lifted _) (fun _ => lifted _) frame { session with frames := outer }

/-- A scope is opened, and closed however the routine ends. -/
theorem frames_inFrame (frame : Frame) (routine : Run α β) (session : Session α) :
    (ends (inFrame frame routine) session).2.frames = (ends routine (session.opened frame)).2.frames.tail := by
  rw [ends_inFrame_opened, ends_bind, ends_outcomeOf]
  dsimp only
  rcases ended : ends closeFrame (ends routine (session.opened frame)).2 with ⟨outcome, last⟩
  have left := frames_closeFrame (ends routine (session.opened frame)).2
  rw [ended] at left
  cases outcome with
  | ok value => rw [ends_bind_ok ended, ends_settle]; exact left
  | error payload => rw [ends_bind_error ended]; exact left

/-- New wrappers go with the scope they were put into. -/
theorem spares_inFrame (frame : Frame) {routine : Run α β} (arranges : Arranges named routine) (session : Session α) :
    List.Forall₂ (Frame.Spares named) session.frames (ends (inFrame frame routine) session).2.frames := by
  have inside : Arranged named (frame :: session.frames) (ends routine (session.opened frame)).2.frames :=
    arranges (session.opened frame) nofun
  rw [frames_inFrame]
  exact inside.further

theorem arranges_inFrame (frame : Frame) {routine : Run α β} (arranges : Arranges named routine) :
    Arranges named (inFrame frame routine) :=
  fun session opened => .of_spared (spares_inFrame frame arranges session) opened

theorem arranges_recorded (name : String) {routine : Run α (Answer α)} (arranges : Arranges named routine) :
    Arranges named (recorded name routine) := by
  apply arranges.outcomeOf.bind
  intro outcome
  cases outcome with
  | ok answer => exact arranges_update fun _ => rfl
  | error payload => exact Onward.bind (arranges_update fun _ => rfl) fun _ => .throw payload

theorem arranges_trap {routine : Run α β} (arranges : Arranges named routine) : Arranges named (trap routine) := by
  apply arranges.outcomeOf.bind
  intro outcome
  cases outcome with
  | ok value => exact .pure _
  | error payload => exact (arranges_lift _).bind fun _ => .pure _

theorem arranges_hostTrap {routine : Run α Unit} (arranges : Arranges named routine) : Arranges named (hostTrap routine) := by
  apply (arranges_trap arranges).bind
  intro outcome
  cases outcome with
  | ok value => exact .pure _
  | error err => exact .pure _

section Bodied

variable {body : Run α Progress}

theorem spares_asRoutine (arranges : Arranges named body) (session : Session α) :
    List.Forall₂ (Frame.Spares named) session.frames (ends (asRoutine body) session).2.frames :=
  spares_inFrame {} (arranges.bind fun _ => .settle _) session

theorem arranges_asRoutine (arranges : Arranges named body) : Arranges named (asRoutine body) :=
  fun session opened => .of_spared (spares_asRoutine arranges session) opened

theorem arranges_hooked (keep : Option Name) (arranges : Arranges named body) :
    Arranges named (do keepUnit keep (← hostTrap (asRoutine body)) : Run α (Answer α)) :=
  (arranges_hostTrap (arranges_asRoutine arranges)).bind fun _ => arranges_keepUnit _ _

end Bodied

mutual

theorem arranges_runOp : (op : Op α) → op.takes ⊆ named → Arranges named (runOp op)
  | .act action => fun covers => arranges_recorded _ (arranges_perform action covers)
  | .attempt heap body keep => fun covers => by
    refine arranges_recorded _ (arranges_withHeap fun heap => (arranges_lift _).bind fun counters => ?_)
    split
    · exact arranges_hooked keep (arranges_runBody body covers)
    · exact arranges_lift _
  | .hostTrap heap body keep => fun covers =>
    arranges_recorded _ (arranges_withHeap fun _ => arranges_hooked keep (arranges_runBody body covers))
  | .runRoutine heap body keep => fun covers =>
    arranges_recorded _ (arranges_withHeap fun _ =>
      (arranges_asRoutine (arranges_runBody body covers)).bind fun _ => arranges_keepHandle _ _)
  | .trap body value keep => fun covers => by
    refine arranges_recorded _ ((arranges_trap (arranges_asRoutine (arranges_runBody body covers))).bind
      fun outcome => ?_)
    cases outcome with
    | ok value => exact .pure _
    | error err => exact (arranges_caught _ _).bind fun _ => .pure _
  | .guarded body value => fun covers =>
    arranges_recorded _ ((arranges_asRoutine (arranges_runBody body covers)).bind fun _ => .pure _)
  | .scope body => fun covers =>
    arranges_recorded _ ((arranges_asRoutine (arranges_runBody body covers)).bind fun _ => .pure _)
  | .scoped wrapper body => fun covers =>
    arranges_recorded _ (arranges_taking (covers List.mem_cons_self) fun taken => arranges_inFrame _ <|
      (arranges_asRoutine (arranges_runBody body (List.subset_of_cons_subset covers))).bind fun _ =>
        (arranges_lift _).bind fun _ => .pure _)
  | .thread body value => fun covers => by
    refine arranges_recorded _ ((arranges_asRoutine (arranges_runBody body covers)).outcomeOf.bind fun outcome => ?_)
    cases outcome with
    | ok value => exact .pure _
    | error payload => exact (arranges_conclude payload).bind fun _ => .pure _
  | .trapFuture body value keep => fun covers => by
    refine arranges_recorded _ ((arranges_inFrame {} (arranges_runBody body covers)).bind fun progress => ?_)
    split
    · exact .pure _
    · exact (arranges_lift _).bind fun _ => (arranges_caught _ _).bind fun _ => .pure _
  | .spawn body value keep => fun covers => by
    refine arranges_recorded _ ((arranges_trap (arranges_asRoutine (arranges_runBody body covers))).outcomeOf.bind
      fun outcome => ?_)
    rcases outcome with payload | (err | value)
    · exact (arranges_conclude payload).bind fun _ => .pure _
    · exact (arranges_caught _ _).bind fun _ => .pure _
    · exact .pure _

theorem arranges_runBody : (body : List (Op α)) → takesAll body ⊆ named → Arranges named (runBody body)
  | [] => fun _ => .pure _
  | op :: rest => fun covers => by
    refine (arranges_runOp op (List.append_subset.mp covers).1).outcomeOf.bind fun outcome => ?_
    cases outcome with
    | error payload => exact .pure _
    | ok value => exact (arranges_runBody rest (List.append_subset.mp covers).2).bind fun _ => .pure _

end

/-- Whatever a body does, the scopes stay open with the same guards. -/
theorem guards_runBody (body : List (Op α)) (session : Session α) (opened : session.frames ≠ []) :
    guardsOf (ends (runBody body) session).2.frames = guardsOf session.frames :=
  (arranges_runBody body (List.Subset.refl _) session opened).guards

end CountBridge.Program
