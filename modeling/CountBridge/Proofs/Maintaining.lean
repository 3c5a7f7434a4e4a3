import CountBridge.Proofs.HeapActing
import CountBridge.Proofs.Stepping
import CountBridge.Proofs.Wording

/-! What is known of a session lasts as long as a program runs: in whatever state it comes
through, the fact still holds, if only the messages that callers choose for new errors are
such as the fact asks for. A fact of the store alone is a case of it. What the object system does
on the heap that an action names is kept apart from what the bridge does on the heap that is bound. -/

namespace CountBridge.Program

open Bridge

variable {α β γ : Type} {strict : Bool}

/-- A fact that has to do with objects, with heaps and their names, and with what is bound, but with nothing else. -/
structure Session.Apart (fact : Session α → Prop) : Prop where
  elsewhere : ∀ {before after : Session α}, fact before → after.world.store = before.world.store →
    after.world.heaps = before.world.heaps → after.world.binding? = before.world.binding? →
    after.heaps = before.heaps → fact after

/-- Besides, it lasts whatever the object system does on that heap. -/
structure Session.Sturdy (strict : Bool) (heap : HeapId) (fact : Session α → Prop) : Prop extends Session.Apart fact where
  crafts : ∀ {session : Session α}, fact session → ∃ housed within, World.Sturdy strict housed within ∧ within session.world ∧
    housed heap ∧ ∀ world, within world → fact { session with world }

/-- Besides, it lasts whatever the bridge does. -/
structure Session.Bridged (strict : Bool) (fact : Session α → Prop) : Prop extends Session.Apart fact where
  bridges : ∀ {session : Session α}, fact session → ∃ housed within, World.Steady strict housed within ∧ within session.world ∧
    ∀ world, within world → fact { session with world }

/-- A fact of sessions that lasts whatever the program does. Each action on the world keeps `within`, of
which all heaps that have a name or are bound are `housed`. -/
structure Session.Steady (strict : Bool) (fact : Session α → Prop) : Prop extends Session.Apart fact where
  opens : ∀ {session : Session α} (name : Name), fact session → fact (session.withNewHeap name)
  acts : ∀ {session : Session α}, fact session → ∃ housed within, World.Steady strict housed within ∧ within session.world ∧
    (∀ heap ∈ session.heaps.map (·.2), housed heap) ∧ ∀ world, within world → fact { session with world }

/-- What is known of the store has nothing to do with names. -/
theorem Session.steady_of_store {fact : Store → Prop} (steady : Store.Steady strict fact) :
    Session.Steady strict fun session : Session α => fact session.world.store where
  elsewhere known same _ _ _ := same ▸ known
  opens _ known := known
  acts known := ⟨_, _, steady.world, known, fun _ _ => trivial, fun _ kept => kept⟩

def Session.Naming (fact : Session α → Prop) (name : Name) (heap : HeapId) (session : Session α) : Prop :=
  fact session ∧ lookup name session.heaps = some heap

/-- What a name means does not change meanwhile. -/
theorem Session.Apart.naming {fact : Session α → Prop} (apart : Session.Apart fact) (name : Name) (heap : HeapId) :
    Session.Apart (Session.Naming fact name heap) where
  elsewhere known store heaps bound same := ⟨apart.elsewhere known.1 store heaps bound same, by rw [same, known.2]⟩

theorem Session.Steady.bridged {fact : Session α → Prop} (steady : Session.Steady strict fact) : Session.Bridged strict fact where
  toApart := steady.toApart
  bridges known := by
    obtain ⟨housed, within, world, inside, -, back⟩ := steady.acts known
    exact ⟨housed, within, world, inside, back⟩

theorem Session.Steady.sturdy {fact : Session α → Prop} (steady : Session.Steady strict fact) (name : Name) (heap : HeapId) :
    Session.Sturdy strict heap (Session.Naming fact name heap) where
  toApart := steady.toApart.naming name heap
  crafts known := by
    obtain ⟨housed, within, world, inside, named, back⟩ := steady.acts known.1
    exact ⟨housed, within, world.toSturdy, inside, named heap (mem_of_lookup known.2), fun world kept => ⟨back world kept, known.2⟩⟩

abbrev Maintains (fact : Session α → Prop) (routine : Run α β) : Prop :=
  Onward (lasting fact) routine

variable {fact : Session α → Prop}

theorem maintains_session : Maintains fact (session : Run α (Session α)) := fun _ => id

section Apart

variable (apart : Session.Apart fact)

include apart

/-- What is changed besides the objects, the heaps and their names does not matter. -/
theorem maintains_update {change : Session α → Session α}
    (store : ∀ session, (change session).world.store = session.world.store := by exact fun _ => rfl)
    (heaps : ∀ session, (change session).world.heaps = session.world.heaps := by exact fun _ => rfl)
    (bound : ∀ session, (change session).world.binding? = session.world.binding? := by exact fun _ => rfl)
    (names : ∀ session, (change session).heaps = session.heaps := by exact fun _ => rfl) : Maintains fact (update change) :=
  fun session known => apart.elsewhere known (store session) (heaps session) (bound session) (names session)

theorem maintains_fault (cause : Fault) : Maintains fact (lift (Bridge.fault cause) : Run α β) := by
  intro session known
  rw [ends_lift]
  cases kind : cause.isBreach with
  | true => rw [ends_fault_breach kind]; exact apart.elsewhere known rfl rfl rfl rfl
  | false => rw [ends_fault_lawful kind]; exact known

theorem maintains_refuse (refusal : Refusal) : Maintains fact (refuse refusal : Run α (Answer α)) := by
  rw [refuse]
  split
  · have broken : Maintains fact (lift breach : Run α Unit) := fun _ known => apart.elsewhere known rfl rfl rfl rfl
    exact broken.bind fun _ => .pure _
  · exact .pure _

section Resolving

variable {name : Name} {heap : HeapId}

theorem maintains_withHeap {next : HeapId → Run α (Answer α)} (each : ∀ heap, Maintains (Session.Naming fact name heap) (next heap)) :
    Maintains fact (withHeap name next) := by
  intro session known
  rw [ends_withHeap]
  split
  next heap found => exact (each heap session ⟨known, found⟩).1
  next => exact maintains_refuse apart _ session known

theorem maintains_withHandle {next : Handle → Run α (Answer α)} (each : ∀ handle, Maintains fact (next handle)) :
    Maintains fact (withHandle name next) := by
  refine maintains_session.bind fun session => ?_
  split
  · exact each _
  · exact maintains_refuse apart _

theorem maintains_withLive {next : ObjectId → Run α (Answer α)} (each : ∀ id, Maintains fact (next id)) :
    Maintains fact (withLive name next) := by
  refine maintains_withHandle apart fun handle => ?_
  cases handle with
  | none => exact maintains_refuse apart _
  | some id => exact each id

omit apart in
theorem maintains_withBinding {next : Binding → Run α (Answer α)} (each : ∀ binding, Maintains fact (next binding)) :
    Maintains fact (withBinding next) := by
  refine maintains_session.bind fun session => ?_
  split
  · exact each _
  · exact .pure _

theorem maintains_spending {handle : Handle} {next : Run α (Answer α)} (spent : Maintains fact next) :
    Maintains fact (spending handle next) := by
  cases handle with
  | none => exact spent
  | some id =>
    refine maintains_session.bind fun session => ?_
    split
    · exact Onward.bind (maintains_update apart) fun _ => spent
    · exact maintains_refuse apart _

theorem maintains_withWrapper {next : Wrapper → Run α (Answer α)} (each : ∀ wrapper, Maintains fact (next wrapper)) :
    Maintains fact (withWrapper name next) := by
  refine maintains_session.bind fun session => ?_
  split
  · exact each _
  · exact maintains_refuse apart _

theorem maintains_taking {next : Wrapper → Run α (Answer α)} (each : ∀ wrapper, Maintains fact (next wrapper)) :
    Maintains fact (taking name next) := by
  refine maintains_session.bind fun session => ?_
  split
  · exact Onward.bind (maintains_update apart) fun _ => each _
  · exact maintains_refuse apart _

theorem maintains_gain (handle : Handle) : Maintains fact (update (·.gain handle)) := by
  cases handle <;> exact maintains_update apart

theorem maintains_keepHandle (keep : Option Name) (handle : Handle) : Maintains fact (keepHandle keep handle : Run α (Answer α)) := by
  refine Onward.bind ?_ fun _ => .pure _
  cases keep <;> exact maintains_update apart

theorem maintains_keepUnit (keep : Option Name) (handle : Handle) : Maintains fact (keepUnit keep handle : Run α (Answer α)) := by
  refine Onward.bind ?_ fun _ => .pure _
  cases keep <;> cases handle <;> exact maintains_update apart

theorem maintains_addStep (name : String) (answer : Answer α) : Maintains fact (update (·.addStep name answer)) :=
  maintains_update apart

/-- A step tells of what was done, whatever that was. -/
theorem kept_recorded (name : String) (routine : Run α (Answer α)) (s : Session α) (kept : fact (ends routine s).2) :
    fact (ends (recorded name routine) s).2 := by
  rw [recorded, ends_bind, ends_outcomeOf]
  rcases ended : ends routine s with ⟨payload | answer, t⟩
  · rw [ended] at kept
    exact maintains_addStep apart _ _ t kept
  · rw [ended] at kept
    exact maintains_addStep apart _ _ t kept

end Resolving

end Apart

section Native

variable {name : Name} {heap : HeapId} {action : Action}

/-- What the object system does on the heap. -/
theorem maintains_craft (sturdy : Session.Sturdy strict heap fact) {action : Bridge β}
    (lasts : ∀ {housed within}, World.Sturdy strict housed within → housed heap → Lasts within action) :
    Maintains fact (lift action : Run α β) := by
  intro session known
  obtain ⟨housed, within, world, inside, allowed, back⟩ := sturdy.crafts known
  exact back _ (lasts world allowed session.world inside)

theorem maintains_objectAt (sturdy : Session.Sturdy strict heap fact) (id : ObjectId) :
    Maintains fact (lift (Bridge.objectAt id) : Run α Object) :=
  maintains_craft sturdy fun world _ => world.unread.objectAt id

/-- A unit of a new object is kept. -/
theorem maintains_born (sturdy : Session.Sturdy strict heap fact) {payload : Payload} (keep : Option Name)
    (accepted : ∀ store : Store, store.Accepts strict payload) :
    Maintains fact (do keepUnit keep (some (← Native.allocate heap payload)) : Run α (Answer α)) :=
  (maintains_craft sturdy fun world within => world.allocatePayload within payload accepted).bind fun _ =>
    maintains_keepUnit sturdy.toApart _ _

variable (apart : Session.Apart fact) (sturdy : ∀ heap, Session.Sturdy strict heap (Session.Naming fact name heap))

include apart sturdy

/-- But for new errors, whose messages the caller chooses. -/
theorem maintains_native (asks : action.heap? = some name) (chosen : ∀ heap mess keep, action ≠ .newError heap mess keep) :
    Maintains fact (perform action : Run α (Answer α)) := by
  cases action with
  | newError heap mess keep => exact absurd rfl (chosen heap mess keep)
  | boot =>
    cases asks
    exact maintains_withHeap apart fun heap => (maintains_craft (sturdy heap) fun world _ => world.nativeBoot heap).bind fun _ => .pure _
  | heapInfo =>
    cases asks
    exact maintains_withHeap apart fun heap =>
      (maintains_craft (sturdy heap) fun _ _ => lasts_get.bind fun _ => .pure _).bind fun _ => .pure _
  | newPlain _ _ keep | newBytes _ _ keep | newVector _ keep =>
    cases asks
    exact maintains_withHeap apart fun heap => maintains_born (sturdy heap) keep fun _ => trivial
  | newString _ bytes keep =>
    cases asks
    exact maintains_withHeap apart fun heap =>
      (maintains_craft (sturdy heap) fun world within => world.newString within bytes).bind fun _ =>
        maintains_keepUnit (sturdy heap).toApart _ _
  | increment _ handle =>
    cases asks
    refine maintains_withHeap apart fun heap => maintains_withHandle (sturdy heap).toApart fun handle => ?_
    refine (maintains_craft (sturdy heap) fun world _ => world.unread.increment handle).bind fun _ => ?_
    refine (maintains_gain (sturdy heap).toApart handle).bind fun _ => ?_
    cases handle with
    | none => exact .pure _
    | some id => exact (maintains_objectAt (sturdy heap) id).bind fun _ => .pure _
  | decrement _ handle =>
    cases asks
    refine maintains_withHeap apart fun heap => maintains_withHandle (sturdy heap).toApart fun handle => ?_
    refine maintains_spending (sturdy heap).toApart ?_
    exact (maintains_craft (sturdy heap) fun world within => world.toUnspent.decrement heap within handle).bind fun _ => .pure _
  | push _ vector item =>
    cases asks
    refine maintains_withHeap apart fun heap => maintains_withLive (sturdy heap).toApart fun vector => ?_
    refine maintains_withHandle (sturdy heap).toApart fun item => maintains_spending (sturdy heap).toApart ?_
    exact (maintains_craft (sturdy heap) fun world within => world.push within vector item).bind fun _ =>
      (maintains_objectAt (sturdy heap) vector).bind fun _ => .pure _
  | look _ handle =>
    cases asks
    exact maintains_withHeap apart fun heap => maintains_withLive (sturdy heap).toApart fun id =>
      (maintains_objectAt (sturdy heap) id).bind fun _ => .pure _
  | alive _ handle =>
    cases asks
    refine maintains_withHeap apart fun heap => maintains_session.bind fun session => ?_
    split
    · exact maintains_refuse (sturdy heap).toApart _
    · exact maintains_session.bind fun _ => .pure _
  | toString _ handle keep =>
    cases asks
    refine maintains_withHeap apart fun heap => maintains_withLive (sturdy heap).toApart fun id => ?_
    refine (maintains_craft (sturdy heap) fun world within => world.unread.toString within).bind fun made => ?_
    exact (maintains_craft (sturdy heap) fun _ _ => lasts_ownText made).bind fun _ =>
      (maintains_keepUnit (sturdy heap).toApart _ _).bind fun _ => .pure _
  | messageOf _ handle keep =>
    cases asks
    exact maintains_withHeap apart fun heap => maintains_withLive (sturdy heap).toApart fun id =>
      (maintains_objectAt (sturdy heap) id).bind fun _ => maintains_keepHandle (sturdy heap).toApart _ _
  | throwHandle _ handle =>
    cases asks
    exact maintains_withHeap apart fun heap => maintains_withHandle (sturdy heap).toApart fun handle =>
      maintains_spending (sturdy heap).toApart <| maintains_craft (sturdy heap) fun world _ => world.throwHandle heap handle
  | hostRaise _ handle =>
    cases asks
    exact maintains_withHeap apart fun heap => maintains_withHandle (sturdy heap).toApart fun handle =>
      maintains_spending (sturdy heap).toApart <| maintains_craft (sturdy heap) fun world _ => world.unread.hostRaise handle
  | throwMessage _ message =>
    cases asks
    exact maintains_withHeap apart fun heap =>
      maintains_craft (sturdy heap) fun world within => world.unread.throwMessage within message
  | bootstrap _ config version =>
    cases asks
    refine maintains_withHeap apart fun heap =>
      (maintains_craft (sturdy heap) fun world within => world.bootstrap within config version).bind fun bound => ?_
    cases bound with
    | ok config => exact .pure _
    | error error => exact .pure _
  | _ => cases asks

theorem kept_newError {mess : Name} {keep : Option Name} {s : Session α}
    (plain : strict = true → (Action.newError name mess keep).Plain s) (known : fact s) :
    fact (ends (perform (.newError name mess keep)) s).2 := by
  rw [perform, ends_withHeap]
  split
  next heap found =>
    rw [ends_withHandle]
    split
    next handle named =>
      have accepted : s.world.store.Accepts strict (.error handle) := by
        cases handle with
        | none => trivial
        | some id => exact fun strict => hasString_of_isString (plain strict id named)
      have made (t : Session α) (known : fact t) (same : t.world = s.world) (names : t.heaps = s.heaps) :
          fact (ends (do keepUnit keep (some (← Native.newError heap handle)) : Run α (Answer α)) t).2 := by
        have born : ends (liftM (Native.newError heap handle) : Run α ObjectId) t =
            (.ok t.world.store.allocated, { t with world := t.world.born heap (.error handle) }) := rfl
        obtain ⟨housed, within, world, inside, allowed, back⟩ := (sturdy heap).crafts ⟨known, names ▸ found⟩
        rw [ends_bind_ok born]
        exact maintains_keepUnit apart keep _ _ (back _ (world.allocate allowed (same ▸ accepted) inside)).1
      cases handle with
      | none => exact made s known rfl rfl
      | some id =>
        rw [spending, ends_bind_ok (ends_session s)]
        split
        · rw [ends_bind_ok (ends_update _ s)]
          exact made _ (apart.elsewhere known rfl rfl rfl rfl) rfl rfl
        · exact maintains_refuse apart _ s known
    next refusal => exact maintains_refuse apart _ s known
  next => exact maintains_refuse apart _ s known

theorem kept_native {s : Session α} (asks : action.heap? = some name)
    (plain : ∀ heap mess keep, action = .newError heap mess keep → strict = true → action.Plain s) (known : fact s) :
    fact (ends (perform action) s).2 := by
  by_cases chosen : ∃ heap mess keep, action = .newError heap mess keep
  · obtain ⟨heap, mess, keep, rfl⟩ := chosen
    cases asks
    exact kept_newError apart sturdy (plain _ mess keep rfl) known
  · exact maintains_native apart sturdy asks (fun heap mess keep same => chosen ⟨heap, mess, keep, same⟩) s known

end Native

section Bridged

variable (bridged : Session.Bridged strict fact)

include bridged

theorem maintains_lift {action : Bridge β} (lasts : ∀ {housed within}, World.Steady strict housed within → Lasts within action) :
    Maintains fact (lift action : Run α β) := by
  intro session known
  obtain ⟨housed, within, world, inside, back⟩ := bridged.bridges known
  exact back _ (lasts world session.world inside)

theorem maintains_keepWrapper (keep : Option Name) (wrapper : Wrapper) : Maintains fact (keepWrapper keep wrapper : Run α Unit) := by
  cases keep with
  | none => exact maintains_lift bridged fun world => world.drop wrapper
  | some name => exact maintains_update bridged.toApart

theorem maintains_keepMade (keep : Option Name) (made : Except BridgeError Wrapper) :
    Maintains fact (keepMade keep made : Run α (Answer α)) := by
  cases made with
  | error error => exact .pure _
  | ok wrapper =>
    exact (maintains_lift bridged fun world => world.record _).bind fun _ =>
      (maintains_keepWrapper bridged keep wrapper).bind fun _ => .pure _

theorem maintains_caught (keep : Option Name) (err : Wrapper) : Maintains fact (caught keep err : Run α Report) := by
  have described : Maintains fact (describe err : Run α Report) :=
    (maintains_lift bridged fun world => world.record _).bind fun _ =>
      (maintains_lift bridged fun world => world.message err).bind fun _ => .pure _
  exact described.bind fun _ => (maintains_keepWrapper bridged keep err).bind fun _ => .pure _

theorem maintains_conclude (payload : Unwind) : Maintains fact (conclude payload : Run α Ending) := by
  cases payload with
  | native err => exact (maintains_caught bridged none err).bind fun _ => .pure _
  | text | number | fault => exact .pure _

theorem maintains_bridging (action : Action) (asks : action.heap? = none) (stays : ∀ name, action ≠ .openHeap name) :
    Maintains fact (perform action : Run α (Answer α)) := by
  cases action with
  | openHeap name => exact absurd rfl (stays name)
  | current | bindingInfo => exact maintains_withBinding fun _ => .pure _
  | collect => exact maintains_withBinding fun _ => (maintains_lift bridged fun world => world.collect).bind fun _ => .pure _
  | makeString text keep =>
    exact maintains_withBinding fun _ => (maintains_lift bridged fun world => world.makeString text).bind fun _ =>
      maintains_keepMade bridged _ _
  | makeError text keep =>
    exact maintains_withBinding fun _ => (maintains_lift bridged fun world => world.newError text).bind fun _ =>
      maintains_keepMade bridged _ _
  | extract handle keep =>
    refine maintains_withHandle bridged.toApart fun handle => maintains_withBinding fun _ =>
      (maintains_lift bridged fun world => world.extractText handle).bind fun read => ?_
    cases read with
    | ok text => exact .pure _
    | error err => exact (maintains_caught bridged _ _).bind fun _ => .pure _
  | stub stubs =>
    exact Onward.bind (maintains_update bridged.toApart) fun _ => .pure _
  | burst handle count =>
    exact maintains_withLive bridged.toApart fun id => maintains_withBinding fun _ => maintains_session.bind fun session =>
      (maintains_lift bridged fun world => lasts_burst world session.watched id count).bind fun _ => .pure _
  | hammer handle threads count =>
    exact maintains_withLive bridged.toApart fun id => maintains_withBinding fun _ => maintains_session.bind fun session =>
      (maintains_lift bridged fun world => lasts_hammer world session.watched id count threads true).bind fun _ => .pure _
  | adopt kind handle keep =>
    exact maintains_withHandle bridged.toApart fun handle => maintains_withBinding fun _ =>
      maintains_spending bridged.toApart (maintains_keepMade bridged _ _)
  | ofRaw kind handle keep =>
    refine maintains_withHandle bridged.toApart fun handle => maintains_withBinding fun _ => maintains_spending bridged.toApart ?_
    cases handle with
    | none => exact .pure _
    | some id =>
      exact (maintains_lift bridged fun world => world.record _).bind fun _ =>
        (maintains_keepWrapper bridged _ _).bind fun _ => .pure _
  | retain handle keep =>
    exact maintains_withHandle bridged.toApart fun handle => maintains_withBinding fun _ =>
      (maintains_lift bridged fun world => world.retain _ handle).bind fun _ => maintains_keepMade bridged _ _
  | convert wrapper kind => exact maintains_taking bridged.toApart fun taken => (maintains_keepWrapper bridged _ _).bind fun _ => .pure _
  | intoRaw wrapper keep => exact maintains_taking bridged.toApart fun taken => maintains_keepUnit bridged.toApart _ _
  | handleOf wrapper keep => exact maintains_withWrapper bridged.toApart fun found => maintains_keepHandle bridged.toApart _ _
  | release wrapper =>
    exact maintains_withWrapper bridged.toApart fun found => Onward.bind (maintains_update bridged.toApart) fun _ =>
      (maintains_lift bridged fun world => world.release found).bind fun _ => .pure _
  | clone wrapper keep =>
    exact maintains_withWrapper bridged.toApart fun found =>
      (maintains_lift bridged fun world => world.clone found).bind fun _ => maintains_keepMade bridged _ _
  | dropWrapper wrapper =>
    exact maintains_taking bridged.toApart fun taken => (maintains_lift bridged fun world => world.drop taken).bind fun _ => .pure _
  | inspect wrapper =>
    exact maintains_withWrapper bridged.toApart fun found => (maintains_lift bridged fun world => world.record _).bind fun _ =>
      (maintains_lift bridged fun world => world.wrapperClass found).bind fun _ => .pure _
  | text wrapper =>
    refine maintains_withWrapper bridged.toApart fun found => ?_
    split
    · refine (maintains_lift bridged fun world => lasts_readTwice world found).bind fun read => ?_
      obtain ⟨first, display⟩ := read
      cases first with
      | ok text => exact .pure _
      | error err => exact (maintains_caught bridged _ _).bind fun _ => .pure _
    · exact maintains_refuse bridged.toApart _
  | message wrapper =>
    refine maintains_withWrapper bridged.toApart fun found => ?_
    split
    · exact (maintains_lift bridged fun world => world.message found).bind fun _ => .pure _
    · exact maintains_refuse bridged.toApart _
  | compare first second => exact maintains_withWrapper bridged.toApart fun second => maintains_withWrapper bridged.toApart fun first => .pure _
  | raise wrapper =>
    refine maintains_withWrapper bridged.toApart fun found => ?_
    split
    · exact maintains_taking bridged.toApart fun taken => maintains_lift bridged fun world => (world.record _).bind fun _ => .throw _
    · exact maintains_refuse bridged.toApart _
  | panicText | panicNumber => exact .throw _
  | boot | heapInfo | newPlain | newBytes | newVector | newString | newError | increment | decrement | push | look | alive
  | toString | messageOf | throwHandle | hostRaise | throwMessage | bootstrap => cases asks

theorem maintains_closeFrame : Maintains fact (closeFrame : Run α Unit) := by
  refine maintains_session.bind fun session => ?_
  split
  · exact .pure _
  next frame outer opened =>
    refine Onward.bind (maintains_update bridged.toApart) fun _ => (maintains_lift bridged fun world => world.dropAll _).bind fun _ => ?_
    split
    next wrapper guard => exact (maintains_lift bridged fun world => world.release wrapper).bind fun _ => .pure _
    next => exact .pure _

theorem maintains_leave (progress : Progress) : Maintains fact (progress.leave : Run α Unit) :=
  (maintains_closeFrame bridged).bind fun _ => .settle _

theorem maintains_trap {routine : Run α β} (maintains : Maintains fact routine) : Maintains fact (trap routine) := by
  refine maintains.outcomeOf.bind fun outcome => ?_
  cases outcome with
  | ok value => exact .pure _
  | error payload => exact (maintains_lift bridged fun world => world.unread.intercept payload).bind fun _ => .pure _

theorem maintains_hostTrap {routine : Run α Unit} (maintains : Maintains fact routine) : Maintains fact (hostTrap routine) := by
  refine (maintains_trap bridged maintains).bind fun outcome => ?_
  cases outcome with
  | ok value => exact .pure _
  | error err => exact .pure _

theorem maintains_afterBody (op : Op α) (begun : Session α) (progress : Progress) : Maintains fact (afterBody op begun progress) := by
  have leave : Maintains fact (progress.leave : Run α Unit) := maintains_leave bridged progress
  cases op with
  | act action => exact .pure _
  | attempt heap body keep | hostTrap heap body keep =>
    exact (maintains_hostTrap bridged leave).bind fun _ => maintains_keepUnit bridged.toApart _ _
  | runRoutine heap body keep => exact leave.bind fun _ => maintains_keepHandle bridged.toApart _ _
  | trap body value keep =>
    refine (maintains_trap bridged leave).bind fun outcome => ?_
    cases outcome with
    | ok value => exact .pure _
    | error err => exact (maintains_caught bridged _ _).bind fun _ => .pure _
  | guarded body value => exact leave.bind fun _ => .pure _
  | scope body => exact leave.bind fun _ => .pure _
  | «scoped» name body =>
    rw [afterBody]
    split
    · exact .pure _
    next taken frames found =>
      refine Onward.bind (Onward.outcomeOf ?_) fun outcome => (maintains_closeFrame bridged).bind fun _ => .settle _
      exact leave.bind fun _ => (maintains_lift bridged fun world => world.wrapperClass taken).bind fun _ => .pure _
  | thread body value =>
    refine leave.outcomeOf.bind fun outcome => ?_
    cases outcome with
    | ok value => exact .pure _
    | error payload => exact (maintains_conclude bridged payload).bind fun _ => .pure _
  | trapFuture body value keep =>
    refine (maintains_closeFrame bridged).bind fun _ => ?_
    split
    · exact .pure _
    · exact (maintains_lift bridged fun world => world.unread.intercept _).bind fun _ => (maintains_caught bridged _ _).bind fun _ => .pure _
  | spawn body value keep =>
    refine (maintains_trap bridged leave).outcomeOf.bind fun outcome => ?_
    rcases outcome with payload | (err | value)
    · exact (maintains_conclude bridged payload).bind fun _ => .pure _
    · exact (maintains_caught bridged _ _).bind fun _ => .pure _
    · exact .pure _

end Bridged

section Steps

variable {op : Op α} {s t u entered start : Session α} {program body : List (Op α)} {above : List (Op α × Session α)}

section Apart

variable (apart : Session.Apart fact)

include apart

/-- What an operation does instead of its body. -/
theorem kept_unentered (missing : op.entry? s = none) (composed : ∀ action, op ≠ .act action) (known : fact s) :
    fact (ends (runOp op) s).2 := by
  suffices instead : ∃ routine, Maintains fact routine ∧ ends (runOp op) s = ends (recorded op.name routine) s by
    obtain ⟨routine, maintains, same⟩ := instead
    rw [same]
    exact kept_recorded apart _ _ s (maintains s known)
  cases op with
  | act action => exact absurd rfl (composed action)
  | attempt name body keep =>
    cases found : lookup name s.heaps with
    | none => exact ⟨_, maintains_refuse apart .noSuchHeap, ends_recorded_congr _ (by rw [ends_withHeap, found])⟩
    | some heap =>
      have cold : (s.world.heaps[heap]?.getD {}).booted = false := by
        by_contra booted
        simp only [Op.entry?, found, Bool.not_eq_false _ ▸ booted, if_true] at missing
        cases missing
      refine ⟨_, maintains_fault apart .usedBeforeBoot, ends_recorded_congr _ ?_⟩
      rw [ends_withHeap, found]
      change ends (if (s.world.heaps[heap]?.getD {}).booted then _ else _) s = _
      rw [cold]
      rfl
  | hostTrap name body keep =>
    exact ⟨_, maintains_refuse apart .noSuchHeap, ends_recorded_congr _ (by rw [ends_withHeap, Option.map_eq_none_iff.mp missing])⟩
  | runRoutine name body keep =>
    exact ⟨_, maintains_refuse apart .noSuchHeap, ends_recorded_congr _ (by rw [ends_withHeap, Option.map_eq_none_iff.mp missing])⟩
  | «scoped» name body =>
    exact ⟨_, maintains_refuse apart .noSuchWrapper, ends_recorded_congr _ (by rw [ends_taking, Option.map_eq_none_iff.mp missing])⟩
  | trap | guarded | scope | thread | trapFuture | spawn => cases missing

/-- To enter a body is to open a scope. -/
theorem kept_entered (entry : op.entry? s = some entered) (known : fact s) : fact entered := by
  obtain ⟨frames, -, rfl⟩ := Op.entry_eq entry
  exact apart.elsewhere known rfl rfl rfl rfl

end Apart

section Bridged

variable (bridged : Session.Bridged strict fact)

include bridged

theorem kept_left {progress : Progress} (entry : op.entry? s = some entered)
    (ran : ends (runBody op.body) entered = (.ok progress, t)) (known : fact t) : fact (ends (runOp op) s).2 := by
  rw [ends_runOp entry ran]
  exact kept_recorded bridged.toApart _ _ t (maintains_afterBody bridged op s progress t known)

theorem kept_dropped {dropped : List Wrapper} {outer : List Frame}
    (ended : ends (lift (Wrapper.dropAll dropped)) { t with frames := outer } = (.ok (), u)) (known : fact t) : fact u := by
  have outside : fact { t with frames := outer } := bridged.elsewhere known rfl rfl rfl rfl
  have kept : fact (ends (lift (Wrapper.dropAll dropped)) { t with frames := outer }).2 :=
    maintains_lift bridged (fun world => world.dropAll dropped) { t with frames := outer } outside
  rwa [ended] at kept

theorem kept_uncaught {payload : Unwind} (left : ends (runOp op) s = (.error payload, t)) (known : fact t) :
    fact (ends (runTop op) s).2 := by
  have told : Maintains fact (do
      let ending ← conclude payload
      update (·.addStep "uncaught" (.uncaught ending)) : Run α Unit) :=
    (maintains_conclude bridged payload).bind fun _ => maintains_addStep bridged.toApart _ _
  rw [runTop, ends_bind, ends_outcomeOf, left]
  exact told t known

theorem kept_finished (ran : ends (runEach program) start = (.ok (), t)) (ended : ends (runAll program) start = (.ok (), u))
    (known : fact t) : fact u := by
  have last : Maintains fact (do closeFrame; update (·.addStep "end" .done) : Run α Unit) :=
    (maintains_closeFrame bridged).bind fun _ => maintains_addStep bridged.toApart _ _
  have kept := last t known
  rw [runAll, ends_bind_ok ran] at ended
  rwa [ended] at kept

end Bridged

/-- New errors are given strings, or null, wherever the program makes one of the system itself. -/
def PhrasesErrors (program : List (Op α)) (start : Session α) : Prop :=
  ∀ above heap mess keep s, Begun program start above (.act (.newError heap mess keep)) s → (Action.newError heap mess keep).Plain s

section Steady

variable {heap? : Option HeapId} {session : Session α} {hand : List Wrapper} (steady : Session.Steady strict fact)

include steady

theorem kept_act {action : Action} (plain : ∀ heap mess keep, action = .newError heap mess keep → strict = true → action.Plain s)
    (known : fact s) : fact (ends (runOp (.act action)) s).2 := by
  rw [runOp]
  refine kept_recorded steady.toApart _ _ s ?_
  cases asks : action.heap? with
  | some name => exact kept_native steady.toApart (steady.sturdy name) asks plain known
  | none =>
    by_cases opened : ∃ name, action = .openHeap name
    · obtain ⟨name, rfl⟩ := opened
      exact steady.opens name known
    · exact maintains_bridging steady.bridged action asks (fun name same => opened ⟨name, same⟩) s known

theorem Advances.kept (step : Advances program start s heap? t) (phrases : strict = true → PhrasesErrors program start)
    (known : fact s) : fact t := by
  cases step with
  | acts begun =>
    refine kept_act steady (fun heap mess keep same strictly => ?_) known
    subst same
    exact phrases strictly _ _ _ _ _ begun
  | refuses begun composed missing => exact kept_unentered steady.toApart missing composed known
  | enters begun entry => exact kept_entered steady.toApart entry known
  | leaves begun entry ran => exact kept_left steady.bridged entry ran known
  | drops begun entry ran innermost divided ended => exact kept_dropped steady.bridged ended known
  | uncaught begun left => exact kept_uncaught steady.bridged left known
  | finishes ran ended => exact kept_finished steady.bridged ran ended known

/-- The fact holds in whatever state a program comes through. -/
theorem Comes.retains (comes : Comes program start s t) (phrases : strict = true → PhrasesErrors program start) (known : fact s) :
    fact t := by
  obtain ⟨stages, leads⟩ := comes
  exact leads.kept (fun step => step.kept steady phrases) known

omit steady in
theorem Reached.known {fact : Store → Prop} (reached : Reached program start session hand) (steady : Store.Steady strict fact)
    (phrases : strict = true → PhrasesErrors program start) (known : fact start.world.store) : fact session.world.store :=
  reached.comes.retains (Session.steady_of_store steady) phrases known

end Steady

end Steps

end CountBridge.Program
