import CountBridge.Proofs.Accounting

/-! The operations of the object system, and the calls of the bridge on it, keep
the accounts. -/

namespace CountBridge

open Bridge World

variable {α β : Type} {late bound : Bool} {exit : Exit} {needs held : Multiset ObjectId} {heap : HeapId}
  {agree : α → α → Prop} {gives : α → Multiset ObjectId}

theorem ends_raise (err : Wrapper) (world : World) :
    ends (raise err : Bridge α) world =
      (.error (.native err), { world with journal := world.journal.push (.event (.raising err.handle)) }) := rfl

theorem ends_hostRaise {binding : Binding} {world : World} (found : world.binding? = some binding) (id : ObjectId) :
    ends (hostRaise (some id) : Bridge α) world = ends (raise ⟨.error, some id⟩) world := by
  simp only [hostRaise, ends_bind, ends_get, found]

theorem ends_hostRaise_null {binding : Binding} {world : World} (found : world.binding? = some binding) :
    ends (hostRaise none : Bridge α) world = (.error (.fault .invalidError), world) := by
  simp only [hostRaise, ends_bind, ends_get, found]
  exact ends_fault_lawful rfl world

theorem ends_hostRaise_unbound {world : World} (err : Handle) (unbound : world.binding? = none) :
    ends (hostRaise err : Bridge α) world =
      (.error (.fault (.noRuntime err)), { world with breached := true }) := by
  have reached : ends (hostRaise err : Bridge α) world = ends (fault (.noRuntime err)) world := by
    simp only [hostRaise, ends_bind, ends_get, unbound]
  rw [reached]
  exact ends_fault_breach rfl world

theorem goes_hostRaise (err : Handle) : Goes (hostRaise err : Bridge α) := by
  apply goes_get.bind
  intro world
  split
  · exact goes_fault _
  · exact goes_fault _
  · exact (goes_record _).bind fun _ => .throw _

theorem sim_raise {after : α → α → World → World → Prop} (err : Wrapper) (known : err.handle ≠ none → bound = true) :
    Sim World.course (Linked late bound (unitOf err.handle + held)) (raise err) (raise err) agree after
      (Escapes late bound held) := by
  have goes : Goes (raise err : Bridge α) := (goes_record _).bind fun _ => .throw _
  refine ⟨goes, goes, fun s t linked _ _ => ?_⟩
  rw [ends_raise, ends_raise]
  refine .unwind ?_
  have same : (bound || (Unwind.native err).isWrapped) = bound := by
    cases handle : err.handle with
    | none => simp [Unwind.isWrapped, handle]
    | some id => simp [known (by simp [handle])]
  rw [Escapes, same]
  exact linked.journal fun never => by rw [linked.same never]

theorem sim_hostRaise {exit : Unwind → World → World → Prop} {after : α → α → World → World → Prop} (err : Handle)
    (wrapped : ∀ id s t, err = some id → Linked late true ({id} + held) s t → exit (.native ⟨.error, some id⟩) s t)
    (invalid : ∀ s t, err = none → Linked late bound held s t → exit (.fault .invalidError) s t) :
    Sim World.course (Linked late bound (unitOf err + held)) (hostRaise err) (hostRaise err) agree after exit := by
  refine ⟨goes_hostRaise err, goes_hostRaise err, fun s t linked quiet quiet' => ?_⟩
  cases present : t.binding? with
  | none =>
    have absent : s.binding? = none := by
      simpa [World.isBound, present] using linked.isBound
    rw [ends_hostRaise_unbound err absent] at quiet
    cases quiet.2
  | some binding =>
    have known : t.isBound = true := by simp [World.isBound, present]
    obtain ⟨binding', found⟩ := (linked.upgrade known).sound'.exists_binding
    cases err with
    | none =>
      rw [ends_hostRaise_null found, ends_hostRaise_null present]
      exact .unwind (invalid s t rfl (by simpa using linked))
    | some id =>
      rw [ends_hostRaise found, ends_hostRaise present, ends_raise, ends_raise]
      have raised := (linked.upgrade known).journal fun never => congrArg (·.journal.push (.event (.raising (some id))))
        (linked.same never)
      exact .unwind (wrapped id _ _ rfl raised)

theorem raises_hostRaise (id : ObjectId) :
    Raises late bound {id} (hostRaise (some id)) (hostRaise (some id)) agree gives := by
  refine fun held => sim_hostRaise (some id) (fun other s t same linked => ?_) (fun s t never => by cases never)
  cases same
  exact ⟨id, rfl, linked⟩

theorem escapes_hostRaise (err : Handle) :
    Keeps late bound (Escapes late bound) (unitOf err) (hostRaise err) (hostRaise err) agree gives := by
  refine fun held => sim_hostRaise err (fun id s t _ linked => ?_) fun s t _ linked => ?_
  · exact Natively.escapes ⟨id, rfl, linked⟩
  · simpa [Escapes, Unwind.isWrapped, Unwind.units] using linked

/-- Asking a heap whether it was booted before raising through it. -/
theorem keeps_ifBooted {routine : Bridge α} (single : late = true → heap = 0)
    (raised : Keeps late bound exit needs routine routine agree gives) :
    Keeps late bound exit needs (do if (← heapAt heap).booted then routine else fault .usedBeforeBoot)
      (do if (← heapAt heap).booted then routine else fault .usedBeforeBoot) agree gives := by
  refine (keeps_heapAt single).bind (Agree.refl fun _ => ⟨rfl, rfl⟩) ?_
  rintro counters counters' ⟨-, -, booted⟩
  rw [booted]
  split
  · exact raised
  · exact keeps_breach rfl

theorem Native.escapes_throwHandle (err : Handle) (single : late = true → heap = 0) :
    Keeps late bound (Escapes late bound) (unitOf err) (Native.throwHandle heap err) (Native.throwHandle heap err)
      agree gives :=
  keeps_ifBooted single (escapes_hostRaise err)

theorem Native.raises_throwMessage (message : String) (single : late = true → heap = 0) :
    Raises late bound 0 (Native.throwMessage heap message) (Native.throwMessage heap message) agree gives := by
  refine keeps_ifBooted single ?_
  apply (keeps_allocate single (by rfl)).bind_eq
  intro mess
  apply (keeps_allocate single (by rfl)).bind_eq
  intro err
  exact raises_hostRaise err

theorem Native.raises_newString (bytes : ByteArray) (single : late = true → heap = 0) :
    Raises late bound 0 (Native.newString heap bytes) (Native.newString heap bytes) Eq fun made => {made} := by
  unfold Native.newString
  split
  · exact (Native.keeps_allocate single (by rfl))
  · exact Native.raises_throwMessage _ single

theorem Native.keeps_newString {bytes : ByteArray} (valid : bytes.validateUTF8 = true) (single : late = true → heap = 0) :
    Keeps late bound exit 0 (Native.newString heap bytes) (Native.newString heap bytes) Eq fun made => {made} := by
  rw [Native.newString, if_pos valid]
  exact Native.keeps_allocate single (by rfl)

theorem Native.keeps_newError (mess : Handle) (single : late = true → heap = 0) :
    Keeps late bound exit (unitOf mess) (Native.newError heap mess) (Native.newError heap mess) Eq
      fun made => {made} :=
  Native.keeps_allocate single (by simp [Payload.units, Payload.slots])

section Push

variable {world : World} {vector : ObjectId} {object : Object} {items : Array Handle} {item : Handle}

theorem Native.ends_push_vector (found : world.store.find? vector = some object) (fits : object.payload = .vector items) :
    ends (Native.push heap vector item) world = (.ok (), { world with
      store := world.store.set vector { object with payload := .vector (items.push item) } }) := by
  simp only [Native.push, ends_bind, ends_objectAt found, fits]
  rfl

theorem Native.ends_push_other (found : world.store.find? vector = some object)
    (other : ∀ items, object.payload ≠ .vector items) :
    ends (Native.push heap vector item) world =
      ends (do let _ ← Native.decrement heap item; Native.throwMessage heap "Not a Vector") world := by
  rw [Native.push, ends_bind_ok (ends_objectAt found)]
  split
  next items fits => exact absurd fits (other items)
  next => rfl

theorem Native.goes_throwMessage (heap : HeapId) (message : String) : Goes (Native.throwMessage heap message : Bridge α) := by
  apply (goes_get.bind fun _ => .pure _).bind
  intro counters
  split
  · exact (Native.goes_allocate _ _).bind fun mess => (Native.goes_allocate _ _).bind fun err => goes_hostRaise _
  · exact goes_fault _

theorem Native.goes_push (heap : HeapId) (vector : ObjectId) (item : Handle) : Goes (Native.push heap vector item) := by
  intro world
  cases found : world.store.find? vector with
  | none =>
    have onward := goes_objectAt vector world
    rw [ends_objectAt_missing found] at onward
    rwa [Native.push, ends_bind_error (ends_objectAt_missing found)]
  | some object =>
    cases kind : object.payload with
    | vector items =>
      rw [Native.ends_push_vector found kind]
      refine .of_store (Store.continues_set found ?_) rfl rfl rfl rfl
      rw [kind, Array.push_eq_append]
      exact .grown
    | plain | string | error | bytes =>
      rw [Native.ends_push_other found fun items => by simp [kind]]
      exact ((Native.goes_decrement heap item).bind fun _ => Native.goes_throwMessage heap _) world

theorem Native.raises_push (vector : ObjectId) (item : Handle) (single : late = true → heap = 0) :
    Raises late bound (unitOf item) (Native.push heap vector item) (Native.push heap vector item) Eq fun _ => 0 := by
  refine fun held => ⟨Native.goes_push heap vector item, Native.goes_push heap vector item, fun s t linked quiet quiet' => ?_⟩
  cases found : s.store.find? vector with
  | none =>
    rw [Native.push, ends_bind_error (ends_objectAt_missing found)] at quiet
    cases quiet.2
  | some kept =>
    obtain ⟨object, present, alike, same⟩ := linked.survivor found
    by_cases fits : ∃ items, kept.payload = .vector items
    · obtain ⟨items, fits⟩ := fits
      have fits' : object.payload = .vector items := alike.symm.trans fits
      rw [Native.ends_push_vector found fits, Native.ends_push_vector present fits']
      refine .value rfl ⟨⟨?_, linked.sound.booted, linked.sound.bound⟩, fun never => ?_, fun behind => ?_⟩
      · have exact : t.store.Exact (unitOf item + (t.queued + held)) :=
          linked.sound.exact.congr (add_left_comm _ _ _)
        refine (exact.takeOver present ?_).congr (by rw [zero_add]; rfl)
        rw [fits']
        simp [Payload.units, Payload.slots]
      · rw [same never, linked.same never]
      · exact (linked.behind behind).change found present (Object.gentle_payload _ _)
    · have other : ∀ items, kept.payload ≠ .vector items := fun items fits' => fits ⟨items, fits'⟩
      have other' : ∀ items, object.payload ≠ .vector items := fun items => by rw [← alike]; exact other items
      rw [Native.ends_push_other found other] at quiet ⊢
      rw [Native.ends_push_other present other'] at quiet' ⊢
      have refused : Raises late bound (unitOf item)
          (do let _ ← Native.decrement heap item; Native.throwMessage heap "Not a Vector")
          (do let _ ← Native.decrement heap item; Native.throwMessage heap "Not a Vector") Eq fun _ : Unit => 0 :=
        (Native.keeps_decrement item single).bind Told.refl fun _ _ _ => Native.raises_throwMessage _ single
      exact (refused held).together s t linked quiet quiet'

end Push

theorem Native.keeps_identity (className : String) (id : ObjectId) :
    Keeps late bound exit needs (do return (Native.identityText (← get).origin className id).toUTF8)
      (do return (Native.identityText (← get).origin className id).toUTF8) Eq fun _ => needs :=
  keeps_get fun held s t linked => by rw [linked.origin]

theorem Native.raises_toString (id : ObjectId) (single : late = true → heap = 0) :
    Raises late bound 0 (Native.toString heap id) (Native.toString heap id) Eq fun made => {made} := by
  have incremented (id : ObjectId) : Raises late bound 0 (do Native.increment (some id); pure id)
      (do Native.increment (some id); pure id) Eq fun made => {made} :=
    ((Native.keeps_increment (some id)).bind_eq fun _ => .pure rfl (by rfl))
  have made (bytes : ByteArray) : Raises late bound 0 (Native.allocate heap (.string bytes))
      (Native.allocate heap (.string bytes)) Eq fun made => {made} :=
    (Native.keeps_allocate single (by rfl))
  refine (keeps_objectAt id).bind (Agree.refl Object.Alike.refl) ?_
  rintro object object' ⟨-, alike⟩
  rw [show object.payload = object'.payload from alike]
  cases object'.payload with
  | string bytes => exact incremented id
  | error mess =>
    cases mess with
    | none => exact made _
    | some mess => exact incremented mess
  | bytes bytes =>
    dsimp only
    split
    · exact made bytes
    · exact Native.raises_throwMessage _ single
  | vector items => exact (Native.keeps_identity _ _).bind_eq made
  | plain name => exact (Native.keeps_identity _ _).bind_eq made

theorem Native.keeps_boot (single : late = true → heap = 0) :
    Keeps late bound exit needs (Native.boot heap) (Native.boot heap) Eq fun _ => needs := by
  refine (keeps_heapAt single).bind (Agree.refl fun _ => ⟨rfl, rfl⟩) ?_
  rintro counters counters' ⟨-, -, booted⟩
  rw [booted]
  split
  · exact keeps_record fun _ => rfl
  · refine fun held => ⟨goes_modifyHeap _ _, goes_modifyHeap _ _, fun s t linked _ _ => ?_⟩
    refine .value rfl ⟨⟨linked.sound.exact, fun binding found => ?_, linked.sound.bound⟩, fun never => ?_, fun behind => ?_⟩
    · exact booted_modify _ _ _ _ (fun _ _ => rfl) (linked.sound.booted binding found)
    · rw [linked.same never]
    · have before := linked.behind behind
      have heaps : s.heaps = _ := before.counted
      have heaps' : t.heaps = _ := before.counted'
      rw [single behind]
      refine ⟨before.store, ?_, ?_, before.binding, before.stubs, before.origin⟩
      · simp only [Counted, heaps, modify_singleton]
      · simp only [Counted, heaps', modify_singleton]

section Calls

variable {first second : Bridge α} {demand : Demand} {unwound : Unwind → World → World → Prop}

theorem continues_journal (world : World) (journal : Array Entry) : world.Continues { world with journal } :=
  .of_store (.refl _) rfl rfl rfl rfl

theorem Sim.before {call : Call} {after : α → α → World → World → Prop}
    (sim : Sim World.course (Linked late bound held) first second agree after unwound) :
    Sim World.course (Linked late bound held) (Bound.before demand call first) (Bound.before demand call second)
      agree after unwound := by
  refine ⟨fun world => ?_, fun world => ?_, fun s t linked quiet quiet' => ?_⟩
  · rw [ends_before]
    exact (continues_journal world _).trans (sim.onward _)
  · rw [ends_before]
    exact (continues_journal world _).trans (sim.onward' _)
  · rw [ends_before] at quiet quiet' ⊢
    rw [ends_before]
    exact sim.together _ _ (linked.journal fun never => by rw [linked.same never]) quiet quiet'

theorem ends_after (demand : Demand) (call : α → Call) (action : Bridge α) (world : World) :
    ends (Bound.after demand call action) world = match ends action world with
      | (.ok answer, last) =>
        (.ok answer, { last with journal := last.journal.push (.call (call answer) (world.meets demand)) })
      | (.error payload, last) => (.error payload, last) := by
  change ends (action >>= _) world = _
  rw [ends_bind]
  rcases ends action world with ⟨outcome, last⟩
  cases outcome <;> rfl

theorem goes_after {call : α → Call} (goes : Goes first) : Goes (Bound.after demand call first) := by
  intro world
  have onward := goes world
  rw [ends_after]
  rcases seen : ends first world with ⟨outcome, last⟩
  rw [seen] at onward
  cases outcome with
  | ok answer => exact onward.trans (continues_journal last _)
  | error payload => exact onward

theorem Sim.after {call : α → Call} {gives : α → Multiset ObjectId} {before : World → World → Prop}
    (same : late = false → ∀ s t, before s t → s = t) (told : ∀ a b, agree a b → late = false → a = b)
    (sim : Sim World.course before first second agree (fun value _ => Linked late bound (gives value)) unwound) :
    Sim World.course before (Bound.after demand call first) (Bound.after demand call second) agree
      (fun value _ => Linked late bound (gives value)) unwound := by
  refine ⟨goes_after sim.onward, goes_after sim.onward', fun s t linked quiet quiet' => ?_⟩
  rw [ends_after] at quiet quiet' ⊢
  rw [ends_after]
  have together := sim.together s t linked
  generalize ends first s = left at quiet together ⊢
  generalize ends second t = right at quiet' together ⊢
  obtain ⟨outcome, last⟩ := left
  obtain ⟨outcome', last'⟩ := right
  have calm : World.course.quiet last := by cases outcome <;> exact quiet
  have calm' : World.course.quiet' last' := by cases outcome' <;> exact quiet'
  cases together calm calm' with
  | value agreed met =>
    refine .value agreed (met.journal fun never => ?_)
    rw [told _ _ agreed never, same never s t linked, met.same never]
  | unwind met => exact .unwind met

end Calls

end CountBridge
