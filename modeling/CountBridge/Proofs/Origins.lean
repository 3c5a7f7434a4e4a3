import CountBridge.Proofs.Faults

/-! Where payloads come from. The bridge and the object system are left by faults, or
by an error with its unit; only a program itself can raise a wrapper that was
released, or panic. -/

namespace CountBridge

open Bridge

inductive Unwind.Proper : Unwind → Prop
  | fault (cause : Fault) : Proper (.fault cause)
  | native (id : ObjectId) : Proper (.native ⟨.error, some id⟩)

def LeftBy (allowed : Unwind → Prop) (routine : ExceptT Unwind (StateM σ) α) : Prop :=
  ∀ state payload, (ends routine state).1 = .error payload → allowed payload

abbrev Proper (routine : ExceptT Unwind (StateM σ) α) : Prop := LeftBy Unwind.Proper routine

namespace LeftBy

variable {σ α β : Type} {allowed allowed' : Unwind → Prop} {routine : ExceptT Unwind (StateM σ) α}

theorem of_returns (returns : ∀ state, ∃ value, (ends routine state).1 = .ok value) : LeftBy allowed routine := by
  intro state payload left
  obtain ⟨value, ended⟩ := returns state
  rw [ended] at left
  cases left

theorem pure (value : α) : LeftBy allowed (pure value : ExceptT Unwind (StateM σ) α) := .of_returns fun _ => ⟨value, rfl⟩

theorem throw {payload : Unwind} (fits : allowed payload) : LeftBy allowed (throw payload : ExceptT Unwind (StateM σ) α) := by
  intro state other left
  cases left
  exact fits

theorem bind {next : α → ExceptT Unwind (StateM σ) β} (first : LeftBy allowed routine)
    (rest : ∀ value, LeftBy allowed (next value)) : LeftBy allowed (routine >>= next) := by
  intro state payload left
  rcases seen : ends routine state with ⟨outcome, after⟩
  cases outcome with
  | ok value =>
    rw [ends_bind_ok seen] at left
    exact rest value after payload left
  | error other =>
    rw [ends_bind_error seen] at left
    cases left
    exact first state _ (by rw [seen])

theorem map (change : α → β) (first : LeftBy allowed routine) : LeftBy allowed (change <$> routine) := by
  rw [map_eq_pure_bind]
  exact first.bind fun _ => .pure _

theorem outcomeOf (routine : ExceptT Unwind (StateM σ) α) : LeftBy allowed (outcomeOf routine) :=
  .of_returns fun state => ⟨_, by rw [ends_outcomeOf]⟩

theorem modify (change : World → World) : LeftBy allowed (modify change : Bridge Unit) := .of_returns fun _ => ⟨_, rfl⟩

theorem get : LeftBy allowed (get : Bridge World) := .of_returns fun world => ⟨world, rfl⟩

theorem mono (left : LeftBy allowed routine) (wider : ∀ payload, allowed payload → allowed' payload) :
    LeftBy allowed' routine :=
  fun state payload out => wider payload (left state payload out)

end LeftBy

variable {α : Type} {routine : Bridge α}

theorem proper_record (entry : Entry) : Proper (record entry) := .modify _

theorem proper_fault (cause : Fault) : Proper (fault cause : Bridge α) := by
  rw [fault]
  split
  · exact (LeftBy.modify _).bind fun _ => .throw (.fault cause)
  · exact .throw (.fault cause)

theorem proper_objectAt (id : ObjectId) : Proper (objectAt id) := by
  refine LeftBy.get.bind fun world => ?_
  split
  · exact .pure _
  · exact proper_fault _

theorem proper_binding : Proper Bridge.binding := by
  refine LeftBy.get.bind fun world => ?_
  split
  · exact .pure _
  · exact proper_fault _

theorem proper_heapAt (heap : HeapId) : Proper (heapAt heap) := LeftBy.get.bind fun _ => .pure _

theorem proper_changeStore (change : Store → α × Store) : Proper (changeStore change) :=
  .of_returns fun _ => ⟨_, rfl⟩

theorem proper_hostRaise (handle : Handle) : Proper (hostRaise handle : Bridge α) := by
  refine LeftBy.get.bind fun world => ?_
  split
  · exact proper_fault _
  · exact proper_fault _
  next id _ => exact (proper_record _).bind fun _ => .throw (.native id)

namespace Native

theorem proper_allocate (heap : HeapId) (payload : Payload) : Proper (allocate heap payload) :=
  (proper_changeStore _).bind fun _ => (LeftBy.modify _).bind fun _ => .pure _

theorem proper_increment (handle : Handle) : Proper (increment handle) := by
  cases handle with
  | none => exact .pure _
  | some id =>
    apply (proper_objectAt id).bind
    intro object
    apply (proper_changeStore _).bind
    intro _
    split
    · exact .modify _
    · exact .pure _

theorem proper_decrement (heap : HeapId) (handle : Handle) : Proper (decrement heap handle) := by
  cases handle with
  | none => exact .pure _
  | some id =>
    refine (proper_objectAt id).bind fun object => (proper_changeStore _).bind fun _ => (LeftBy.modify _).bind fun _ => ?_
    split
    · exact proper_fault _
    · exact .pure _

theorem proper_throwHandle (heap : HeapId) (handle : Handle) : Proper (throwHandle heap handle : Bridge α) := by
  apply (proper_heapAt heap).bind
  intro _
  split
  · exact proper_hostRaise handle
  · exact proper_fault _

theorem proper_throwMessage (heap : HeapId) (message : String) : Proper (throwMessage heap message : Bridge α) := by
  apply (proper_heapAt heap).bind
  intro _
  split
  · exact (proper_allocate heap _).bind fun _ => (proper_allocate heap _).bind fun _ => proper_hostRaise _
  · exact proper_fault _

theorem proper_newString (heap : HeapId) (bytes : ByteArray) : Proper (newString heap bytes) := by
  rw [newString]
  split
  · exact proper_allocate heap _
  · exact proper_throwMessage heap _

theorem proper_push (heap : HeapId) (vector : ObjectId) (item : Handle) : Proper (push heap vector item) := by
  apply (proper_objectAt vector).bind
  intro object
  split
  · exact proper_changeStore _
  · exact (proper_decrement heap item).bind fun _ => proper_throwMessage heap _

theorem proper_toString (heap : HeapId) (id : ObjectId) : Proper (toString heap id) := by
  apply (proper_objectAt id).bind
  intro object
  have identity (className : String) : Proper (do
      let bytes : ByteArray ← (do return (identityText (← get).origin className id).toUTF8 : Bridge ByteArray)
      allocate heap (.string bytes)) :=
    (LeftBy.get.bind fun _ => .pure _).bind fun _ => proper_allocate heap _
  split
  · exact (proper_increment _).bind fun _ => .pure _
  · exact (proper_increment _).bind fun _ => .pure _
  · exact proper_allocate heap _
  · split
    · exact proper_allocate heap _
    · exact proper_throwMessage heap _
  · exact identity _
  · exact identity _

theorem proper_boot (heap : HeapId) : Proper (boot heap) := by
  apply (proper_heapAt heap).bind
  intro _
  split
  · exact proper_record _
  · exact .modify _

end Native

namespace Bound

theorem proper_heap : Proper heap := proper_binding.bind fun _ => .pure _

theorem proper_before (demand : Demand) (call : Call) (proper : Proper routine) : Proper (before demand call routine) :=
  LeftBy.get.bind fun _ => (proper_record _).bind fun _ => proper

theorem proper_after (demand : Demand) (call : α → Call) (proper : Proper routine) : Proper (after demand call routine) :=
  LeftBy.get.bind fun _ => proper.bind fun _ => (proper_record _).bind fun _ => .pure _

theorem proper_boot (heap : HeapId) : Proper (boot heap) := proper_before _ _ (Native.proper_boot heap)

theorem proper_increment (id : ObjectId) : Proper (increment id) := proper_before _ _ (Native.proper_increment _)

theorem proper_decrement (id : ObjectId) : Proper (decrement id) :=
  proper_after _ _ (proper_heap.bind fun heap => Native.proper_decrement heap _)

theorem proper_newString (bytes : ByteArray) : Proper (newString bytes) :=
  proper_after _ _ (proper_heap.bind fun heap => Native.proper_newString heap bytes)

theorem proper_newError (mess : Handle) : Proper (newError mess) :=
  proper_after _ _ (proper_heap.bind fun heap => Native.proper_allocate heap _)

theorem proper_messageOf (id : ObjectId) : Proper (messageOf id) :=
  proper_after _ _ ((proper_objectAt id).bind fun _ => .pure _)

theorem proper_isString (id : ObjectId) : Proper (isString id) :=
  proper_after _ _ ((proper_objectAt id).bind fun _ => LeftBy.get.bind fun _ => .pure _)

theorem proper_toString (id : ObjectId) : Proper (toString id) :=
  (proper_before _ _ (proper_heap.bind fun heap => Native.proper_toString heap id)).bind fun _ =>
    proper_before _ _ (.pure _)

theorem proper_stringBytes (id : ObjectId) : Proper (stringBytes id) :=
  proper_after _ _ ((proper_objectAt id).bind fun _ => LeftBy.get.bind fun _ => .pure _)

theorem proper_className (id : ObjectId) : Proper (className id) :=
  proper_before _ _ ((proper_objectAt id).bind fun _ => .pure _)

end Bound

theorem proper_releaseHandle (id : ObjectId) : Proper (releaseHandle id) :=
  (Bound.proper_decrement id).bind fun _ => proper_record _

theorem proper_releaseAll (ids : List ObjectId) : Proper (releaseAll ids) := by
  induction ids with
  | nil => exact .pure _
  | cons id rest ih => exact (proper_releaseHandle id).bind fun _ => ih

theorem proper_collect : Proper collect := by
  refine proper_binding.bind fun binding => (LeftBy.modify _).bind fun _ => (proper_releaseAll _).bind fun _ => ?_
  split
  · exact (proper_record _).bind fun _ => .pure _
  · exact .pure _

theorem proper_dispose (id : ObjectId) : Proper (dispose id) := by
  apply proper_binding.bind
  intro binding
  split
  · exact proper_releaseHandle id
  · refine (LeftBy.modify _).bind fun _ => proper_binding.bind fun _ => (proper_record _).bind fun _ => ?_
    apply proper_binding.bind
    intro _
    split
    · exact proper_collect.bind fun _ => .pure _
    · exact .pure _

theorem proper_bootstrap (heap : HeapId) (config : Config) (version : UInt32) : Proper (bootstrap heap config version) := by
  rw [bootstrap]
  split
  · exact .pure _
  · apply (Bound.proper_before _ _ (.pure _)).bind
    intro _
    split
    · exact .pure _
    · refine LeftBy.get.bind fun _ => ?_
      split
      · exact .pure _
      · exact (Bound.proper_boot heap).bind fun _ => (LeftBy.modify _).bind fun _ => (proper_record _).bind fun _ => .pure _

theorem proper_intercept {payload : Unwind} (proper : payload.Proper) : Proper (intercept payload) := by
  cases proper with
  | fault cause => exact .throw (.fault cause)
  | native id => exact (proper_record _).bind fun _ => .pure _

/-- What a trap lets through is what left the routine. -/
theorem proper_trap (proper : Proper routine) : Proper (trap routine) := by
  intro world payload left
  rw [trap, ends_bind, ends_outcomeOf] at left
  rcases seen : ends routine world with ⟨outcome, after⟩
  rw [seen] at left
  cases outcome with
  | ok value => cases left
  | error other =>
    have fits : other.Proper := proper world other (by rw [seen])
    have rest : Proper (do return Except.error (← intercept other) : Bridge (Except Wrapper α)) :=
      (proper_intercept fits).bind fun _ => .pure _
    exact rest after payload left

theorem proper_newStringUnchecked (text : String) : Proper (newStringUnchecked text) :=
  (Bound.proper_newString _).bind fun _ => .pure _

theorem proper_newString (text : String) : Proper (newString text) := by
  apply proper_binding.bind
  intro binding
  dsimp only
  split
  · exact .pure _
  · exact (proper_newStringUnchecked text).map _

theorem proper_newError (text : String) : Proper (newError text) :=
  proper_binding.bind fun _ => (proper_newStringUnchecked _).bind fun _ => (Bound.proper_newError _).bind fun _ => .pure _

theorem proper_copyText (id : ObjectId) : Proper (copyText id) := by
  apply (Bound.proper_stringBytes id).bind
  intro found
  split
  · exact .pure _
  · exact .pure _

theorem proper_extractText (handle : Handle) : Proper (extractText handle) := by
  cases handle with
  | none => exact .pure _
  | some id =>
    apply (Bound.proper_isString id).bind
    intro isString
    split
    · exact (proper_copyText id).map _
    · apply (proper_trap (Bound.proper_toString id)).bind
      intro coerced
      split
      · exact .pure _
      · exact (proper_copyText _).bind fun _ => (proper_releaseHandle _).bind fun _ => .pure _

namespace Wrapper

theorem proper_retain (kind : WrapperKind) (handle : Handle) : Proper (retain kind handle) := by
  cases handle with
  | none => exact .pure _
  | some id => exact (Bound.proper_increment id).bind fun _ => .pure _

theorem proper_clone (wrapper : Wrapper) : Proper wrapper.clone := by
  rw [clone]
  split
  · exact .pure _
  · exact (Bound.proper_increment _).bind fun _ => .pure _

theorem proper_release (wrapper : Wrapper) : Proper wrapper.release := by
  rw [release]
  split
  · exact .pure _
  · exact (proper_releaseHandle _).bind fun _ => .pure _

theorem proper_drop (wrapper : Wrapper) : Proper wrapper.drop := by
  rw [drop]
  split
  · exact .pure _
  · exact proper_dispose _

theorem proper_className (wrapper : Wrapper) : Proper wrapper.className := by
  rw [className]
  split
  · exact .pure _
  · exact Bound.proper_className _

theorem proper_tryMessage (err : Wrapper) : Proper err.tryMessage := by
  rw [tryMessage]
  split
  · exact .pure _
  · exact (Bound.proper_messageOf _).bind fun _ => proper_extractText _

theorem proper_message (err : Wrapper) : Proper err.message := by
  apply (proper_tryMessage err).bind
  intro read
  split
  · exact .pure _
  · exact (proper_record _).bind fun _ => (proper_drop _).bind fun _ => .pure _

theorem proper_display (string : Wrapper) : Proper string.display := by
  apply (proper_extractText _).bind
  intro read
  split
  · exact .pure _
  · exact (proper_drop _).bind fun _ => .pure _

end Wrapper

namespace Program

variable {β : Type}

theorem leftBy_lift {allowed : Unwind → Prop} (left : LeftBy allowed routine) : LeftBy allowed (lift routine : Run β α) := by
  intro session payload out
  rw [ends_lift] at out
  exact left session.world payload out

theorem proper_update (change : Session α → Session α) : Proper (update change) := .of_returns fun _ => ⟨_, rfl⟩

theorem proper_session : Proper (CountBridge.Program.session (α := α)) := .of_returns fun session => ⟨session, rfl⟩

theorem proper_repetition (watched : Bool) (proper : Proper routine) : Proper (repetition watched routine) := by
  rw [repetition]
  split
  · exact proper
  · intro world payload left
    rw [ends_unrecorded] at left
    exact proper world payload left

theorem proper_repeatedly (watched : Bool) (count : Nat) {action : Bridge Unit} (proper : Proper action) :
    Proper (repeatedly watched count action) := by
  induction count with
  | zero => exact .pure _
  | succ count ih => exact (proper_repetition watched proper).bind fun _ => ih

theorem proper_countOf (id : ObjectId) : Proper (countOf id) := LeftBy.get.bind fun _ => .pure _

theorem proper_burst (watched : Bool) (id : ObjectId) (count : Nat) : Proper (burst watched id count) := by
  apply (proper_repeatedly watched count ((Wrapper.proper_retain _ _).bind fun _ => .pure _)).bind
  intro _
  apply (proper_countOf id).bind
  intro _
  apply (proper_repeatedly watched count (Wrapper.proper_drop _)).bind
  intro _
  exact (proper_countOf id).bind fun _ => .pure _

theorem proper_cloneRepeatedly (watched : Bool) (wrapper : Wrapper) (count : Nat) (equal : Bool) :
    Proper (cloneRepeatedly watched wrapper count equal) := by
  induction count generalizing equal with
  | zero => exact .pure _
  | succ count ih => exact (proper_repetition watched wrapper.proper_clone).bind fun _ => ih _

theorem proper_hammer (watched : Bool) (id : ObjectId) (count threads : Nat) (equal : Bool) :
    Proper (hammer watched id count threads equal) := by
  induction threads generalizing equal with
  | zero => exact (proper_countOf id).bind fun _ => .pure _
  | succ threads ih =>
    apply (proper_repetition watched (Wrapper.proper_retain _ _)).bind
    intro _
    apply (proper_cloneRepeatedly watched _ count equal).bind
    intro _
    exact (proper_repeatedly watched (count + 1) (Wrapper.proper_drop _)).bind fun _ => ih _

theorem proper_readTwice (wrapper : Wrapper) : Proper (readTwice wrapper) := by
  rw [readTwice]
  split
  · exact (proper_extractText _).bind fun _ => wrapper.proper_display.bind fun _ => .pure _
  · exact wrapper.proper_tryMessage.bind fun _ => wrapper.proper_message.bind fun _ => .pure _

theorem proper_refuse (refusal : Refusal) : Proper (refuse refusal : Run α (Answer α)) :=
  .of_returns fun session => by
    obtain ⟨after, refused⟩ := refuse_returns refusal session
    exact ⟨_, by rw [refused]⟩

section Resolving

variable {name : Name}

theorem proper_withHeap {next : HeapId → Run α (Answer α)} (each : ∀ heap, Proper (next heap)) : Proper (withHeap name next) := by
  apply proper_session.bind
  intro session
  split
  · exact each _
  · exact proper_refuse _

theorem proper_withHandle {next : Handle → Run α (Answer α)} (each : ∀ handle, Proper (next handle)) :
    Proper (withHandle name next) := by
  apply proper_session.bind
  intro session
  split
  · exact each _
  · exact proper_refuse _

theorem proper_withLive {next : ObjectId → Run α (Answer α)} (each : ∀ id, Proper (next id)) : Proper (withLive name next) := by
  apply proper_withHandle
  intro handle
  cases handle with
  | none => exact proper_refuse _
  | some id => exact each id

theorem proper_withBinding {next : Binding → Run α (Answer α)} (each : ∀ binding, Proper (next binding)) :
    Proper (withBinding next) := by
  apply proper_session.bind
  intro session
  split
  · exact each _
  · exact .pure _

theorem proper_spending {handle : Handle} {next : Run α (Answer α)} (proper : Proper next) : Proper (spending handle next) := by
  cases handle with
  | none => exact proper
  | some id =>
    apply proper_session.bind
    intro session
    split
    · exact (proper_update _).bind fun _ => proper
    · exact proper_refuse _

theorem proper_withWrapper {next : Wrapper → Run α (Answer α)} (each : ∀ found, Proper (next found)) :
    Proper (withWrapper name next) := by
  apply proper_session.bind
  intro session
  split
  · exact each _
  · exact proper_refuse _

theorem proper_taking {next : Wrapper → Run α (Answer α)} (each : ∀ taken, Proper (next taken)) : Proper (taking name next) := by
  apply proper_session.bind
  intro session
  split
  · exact (proper_update _).bind fun _ => each _
  · exact proper_refuse _

end Resolving

theorem proper_keepUnit (keep : Option Name) (handle : Handle) : Proper (keepUnit (α := α) keep handle) :=
  (proper_update _).bind fun _ => .pure _

theorem proper_keepHandle (keep : Option Name) (handle : Handle) : Proper (keepHandle (α := α) keep handle) :=
  (proper_update _).bind fun _ => .pure _

theorem proper_keepWrapper (keep : Option Name) (wrapper : Wrapper) : Proper (keepWrapper (α := α) keep wrapper) := by
  cases keep with
  | none => exact leftBy_lift wrapper.proper_drop
  | some name => exact proper_update _

theorem proper_keepMade (keep : Option Name) (made : Except BridgeError Wrapper) : Proper (keepMade (α := α) keep made) := by
  cases made with
  | error error => exact .pure _
  | ok wrapper => exact (leftBy_lift (proper_record _)).bind fun _ => (proper_keepWrapper keep wrapper).bind fun _ => .pure _

theorem proper_caught (keep : Option Name) (err : Wrapper) : Proper (caught (α := α) keep err) := by
  have described : Proper (describe (α := α) err) :=
    (leftBy_lift (proper_record _)).bind fun _ => (leftBy_lift err.proper_message).bind fun _ => .pure _
  exact described.bind fun _ => (proper_keepWrapper keep err).bind fun _ => .pure _

def Action.isOwn : Action → Bool
  | .raise _ | .panicText _ | .panicNumber _ => true
  | _ => false

theorem proper_perform {action : Action} (other : action.isOwn = false) : Proper (perform (α := α) action) := by
  have made {heap : Name} {keep : Option Name} {made : HeapId → Bridge ObjectId} (proper : ∀ heap, Proper (made heap)) :
      Proper (withHeap (α := α) heap fun heap => do keepUnit keep (some (← made heap))) :=
    proper_withHeap fun heap => (leftBy_lift (proper heap)).bind fun _ => proper_keepUnit _ _
  cases action with
  | openHeap name => exact (proper_update _).bind fun _ => .pure _
  | boot heap => exact proper_withHeap fun heap => (leftBy_lift (Native.proper_boot heap)).bind fun _ => .pure _
  | heapInfo heap => exact proper_withHeap fun heap => (leftBy_lift (proper_heapAt heap)).bind fun _ => .pure _
  | newPlain heap className keep => exact made fun heap => Native.proper_allocate heap _
  | newBytes heap bytes keep => exact made fun heap => Native.proper_allocate heap _
  | newVector heap keep => exact made fun heap => Native.proper_allocate heap _
  | newString heap bytes keep => exact made fun heap => Native.proper_newString heap bytes
  | newError heap mess keep =>
    refine proper_withHeap fun heap => proper_withHandle fun mess => proper_spending ?_
    exact (leftBy_lift (Native.proper_allocate heap _)).bind fun _ => proper_keepUnit _ _
  | increment heap handle =>
    apply proper_withHeap
    intro _
    apply proper_withHandle
    intro handle
    apply (leftBy_lift (Native.proper_increment handle)).bind
    intro _
    apply (proper_update _).bind
    intro _
    cases handle with
    | none => exact (LeftBy.pure _).bind fun _ => .pure _
    | some id => exact (leftBy_lift (proper_objectAt id)).bind fun _ => (LeftBy.pure _).bind fun _ => .pure _
  | decrement heap handle =>
    refine proper_withHeap fun heap => proper_withHandle fun handle => proper_spending ?_
    exact (leftBy_lift (Native.proper_decrement heap handle)).bind fun _ => .pure _
  | push heap vector item =>
    refine proper_withHeap fun heap => proper_withLive fun vector => proper_withHandle fun item => proper_spending ?_
    exact (leftBy_lift (Native.proper_push heap vector item)).bind fun _ => (leftBy_lift (proper_objectAt _)).bind fun _ => .pure _
  | look heap handle =>
    exact proper_withHeap fun _ => proper_withLive fun id => (leftBy_lift (proper_objectAt id)).bind fun _ => .pure _
  | alive heap handle =>
    apply proper_withHeap
    intro _
    apply proper_session.bind
    intro session
    split
    · exact proper_refuse _
    · exact proper_session.bind fun _ => .pure _
  | toString heap handle keep =>
    apply proper_withHeap
    intro heap
    apply proper_withLive
    intro id
    apply (leftBy_lift (Native.proper_toString heap id)).bind
    intro _
    refine (leftBy_lift (LeftBy.get.bind fun _ => .pure _)).bind fun _ => ?_
    exact (proper_keepUnit _ _).bind fun _ => .pure _
  | messageOf heap handle keep =>
    apply proper_withHeap
    intro _
    apply proper_withLive
    intro id
    exact (leftBy_lift (proper_objectAt id)).bind fun _ => proper_keepHandle _ _
  | throwHandle heap handle =>
    exact proper_withHeap fun heap => proper_withHandle fun handle =>
      proper_spending (leftBy_lift (Native.proper_throwHandle heap handle))
  | hostRaise heap handle =>
    exact proper_withHeap fun _ => proper_withHandle fun handle => proper_spending (leftBy_lift (proper_hostRaise handle))
  | throwMessage heap message => exact proper_withHeap fun heap => leftBy_lift (Native.proper_throwMessage heap message)
  | bootstrap heap config version =>
    apply proper_withHeap
    intro heap
    apply (leftBy_lift (proper_bootstrap heap config version)).bind
    intro bound
    cases bound with
    | ok config => exact .pure _
    | error error => exact .pure _
  | current => exact proper_withBinding fun _ => .pure _
  | bindingInfo => exact proper_withBinding fun _ => .pure _
  | collect => exact proper_withBinding fun _ => (leftBy_lift proper_collect).bind fun _ => .pure _
  | makeString given keep =>
    exact proper_withBinding fun _ => (leftBy_lift (proper_newString given)).bind fun _ => proper_keepMade _ _
  | makeError given keep =>
    exact proper_withBinding fun _ => (leftBy_lift (proper_newError given)).bind fun _ => proper_keepMade _ _
  | extract handle keep =>
    apply proper_withHandle
    intro handle
    apply proper_withBinding
    intro _
    apply (leftBy_lift (proper_extractText handle)).bind
    intro read
    cases read with
    | ok text => exact .pure _
    | error err => exact (proper_caught _ _).bind fun _ => .pure _
  | stub stubs => exact (proper_update _).bind fun _ => .pure _
  | burst handle count =>
    apply proper_withLive
    intro id
    apply proper_withBinding
    intro _
    apply proper_session.bind
    intro session
    exact (leftBy_lift (proper_burst _ _ _)).bind fun _ => .pure _
  | hammer handle threads count =>
    apply proper_withLive
    intro id
    apply proper_withBinding
    intro _
    apply proper_session.bind
    intro session
    exact (leftBy_lift (proper_hammer _ _ _ _ _)).bind fun _ => .pure _
  | adopt kind handle keep =>
    exact proper_withHandle fun handle => proper_withBinding fun _ => proper_spending (proper_keepMade _ _)
  | ofRaw kind handle keep =>
    refine proper_withHandle fun handle => proper_withBinding fun _ => proper_spending ?_
    cases Wrapper.ofRaw? kind handle with
    | none => exact .pure _
    | some wrapper =>
      exact (leftBy_lift (proper_record _)).bind fun _ => (proper_keepWrapper _ _).bind fun _ => .pure _
  | retain handle keep =>
    apply proper_withHandle
    intro handle
    apply proper_withBinding
    intro _
    exact (leftBy_lift (Wrapper.proper_retain _ _)).bind fun _ => proper_keepMade _ _
  | convert wrapper kind => exact proper_taking fun taken => (proper_keepWrapper _ _).bind fun _ => .pure _
  | intoRaw wrapper keep => exact proper_taking fun taken => proper_keepUnit _ _
  | handleOf wrapper keep => exact proper_withWrapper fun found => proper_keepHandle _ _
  | release wrapper =>
    exact proper_withWrapper fun found => (proper_update _).bind fun _ => (leftBy_lift found.proper_release).bind fun _ => .pure _
  | clone wrapper keep =>
    exact proper_withWrapper fun found => (leftBy_lift found.proper_clone).bind fun _ => proper_keepMade _ _
  | dropWrapper wrapper => exact proper_taking fun taken => (leftBy_lift taken.proper_drop).bind fun _ => .pure _
  | inspect wrapper =>
    apply proper_withWrapper
    intro found
    apply (leftBy_lift (proper_record _)).bind
    intro _
    exact (leftBy_lift found.proper_className).bind fun _ => .pure _
  | text wrapper =>
    apply proper_withWrapper
    intro found
    split
    · apply (leftBy_lift (proper_readTwice found)).bind
      intro read
      obtain ⟨first, display⟩ := read
      cases first with
      | ok text => exact .pure _
      | error err => exact (proper_caught _ _).bind fun _ => .pure _
    · exact proper_refuse _
  | message wrapper =>
    apply proper_withWrapper
    intro found
    split
    · exact (leftBy_lift found.proper_message).bind fun _ => .pure _
    · exact proper_refuse _
  | compare first second => exact proper_withWrapper fun second => proper_withWrapper fun first => .pure _
  | raise wrapper => cases other
  | panicText message => cases other
  | panicNumber value => cases other

end Program

end CountBridge
