import CountBridge.Proofs.Balance

/-! The operations of the object system, and the calls of the bridge on it, keep
worlds in balance. A call is lawful when it is made, and what it spends is owned. -/

namespace CountBridge

open Bridge World

variable {α β : Type} {terms : Terms} {bound : Bool} {held mine : Multiset ObjectId} {heap : HeapId} {id : ObjectId}
  {before : World → Prop} {after : α → World → Prop} {unwound : Unwind → World → Prop}

/-- Nobody broke a condition. Native code may raise null. -/
def Unwind.Blameless (payload : Unwind) : Prop := ∀ cause, payload = .fault cause → cause = .invalidError

def Aloft (terms : Terms) (bound : Bool) (held mine : Multiset ObjectId) (payload : Unwind) (world : World) : Prop :=
  payload.Blameless ∧ world.Balanced terms (bound || payload.isWrapped) (payload.units + held) (payload.units + mine)

def Thrown (terms : Terms) (held mine : Multiset ObjectId) (payload : Unwind) (world : World) : Prop :=
  ∃ id, payload = .native ⟨.error, some id⟩ ∧ world.Balanced terms true ({id} + held) ({id} + mine)

theorem Thrown.aloft {payload : Unwind} {world : World} (thrown : Thrown terms held mine payload world) :
    Aloft terms bound held mine payload world := by
  obtain ⟨id, rfl, balanced⟩ := thrown
  exact ⟨nofun, by simpa [Unwind.isWrapped, Unwind.units] using balanced⟩

theorem upholds_objectAt {next : Object → Bridge α}
    (each : ∀ object, Upholds World.course (fun world => before world ∧ world.store.find? id = some object) (next object)
      after unwound) :
    Upholds World.course (fun world => before world ∧ world.Lives id) (objectAt id >>= next) after unwound := by
  refine ⟨(goes_objectAt id).bind fun object => (each object).onward, ?_⟩
  rintro world ⟨known, object, found⟩ quiet
  rw [ends_bind_ok (ends_objectAt found)] at quiet ⊢
  exact (each object).met world ⟨known, found⟩ quiet

theorem upholds_look (id : ObjectId) :
    Upholds World.course (fun world => before world ∧ world.Lives id) (objectAt id) (fun _ => before) unwound := by
  refine ⟨goes_objectAt id, ?_⟩
  rintro world ⟨known, object, found⟩ _
  rw [ends_objectAt found]
  exact known

theorem upholds_binding {next : Binding → Bridge α}
    (each : ∀ binding, Upholds World.course (fun world => world.Balanced terms true held mine ∧ world.binding? = some binding)
      (next binding) after unwound) :
    Upholds World.course (fun world => world.Balanced terms true held mine) (Bridge.binding >>= next) after unwound := by
  refine ⟨goes_binding.bind fun binding => (each binding).onward, fun world balanced quiet => ?_⟩
  obtain ⟨binding, found⟩ := balanced.sound.exists_binding
  rw [ends_bind_ok (ends_binding found)] at quiet ⊢
  exact (each binding).met world ⟨balanced, found⟩ quiet

theorem upholds_get {read : World → α} :
    Upholds World.course before (do return read (← get)) (fun _ => before) unwound :=
  ⟨goes_get.bind fun _ => .pure _, fun _ held _ => held⟩

theorem upholds_note {entry : Entry} (silent : entry.exchanges true = []) :
    Upholds World.course (fun world => world.Balanced terms bound held mine) (record entry)
      (fun _ world => world.Balanced terms bound held mine) unwound :=
  ⟨goes_record entry, fun _ balanced _ => balanced.note entry silent⟩

namespace Native

theorem upholds_allocate {payload : Payload} (inside : heap < terms.heaps) :
    Upholds World.course (fun world => world.Balanced terms bound (payload.units + held) mine ∧
        (terms.strict = true → ∀ mess, payload = .error (some mess) → world.store.HasString mess))
      (allocate heap payload)
      (fun made world => world.Balanced terms bound ({made} + held) mine ∧ world.store.find? made = some { payload })
      unwound := by
  refine ⟨goes_allocate heap payload, fun world ⟨balanced, string⟩ _ => ?_⟩
  rw [ends_allocate]
  refine ⟨balanced.allocate inside string, ?_⟩
  rw [Store.find?_allocate, if_pos rfl]

/-- Payloads other than errors own nothing, and ask for nothing. -/
theorem upholds_allocate_plain (payload : Payload) (inside : heap < terms.heaps) (owns : payload.units = 0)
    (plain : ∀ mess, payload ≠ .error mess) :
    Upholds World.course (fun world => world.Balanced terms bound held mine) (allocate heap payload)
      (fun made world => world.Balanced terms bound ({made} + held) mine ∧ world.store.find? made = some { payload })
      unwound :=
  (upholds_allocate inside).strengthen fun _ balanced =>
    ⟨balanced.congr (by rw [owns, zero_add]) rfl, fun _ mess same => absurd same (plain _)⟩

theorem upholds_string {bytes : ByteArray} (inside : heap < terms.heaps) :
    Upholds World.course (fun world => world.Balanced terms bound held mine) (allocate heap (.string bytes))
      (fun made world => world.Balanced terms bound ({made} + held) mine ∧ world.store.HasString made) unwound :=
  (upholds_allocate_plain (.string bytes) inside rfl fun _ => nofun).weaken fun _ _ ⟨balanced, found⟩ => ⟨balanced, _, found, rfl⟩

/-- A live object has a unit more, and is still what it was. -/
theorem upholds_increment (id : ObjectId) :
    Upholds World.course (fun world => world.Balanced terms bound held mine ∧ world.Lives id) (increment (some id))
      (fun _ world => world.Balanced terms bound ({id} + held) mine) unwound := by
  refine ⟨goes_increment (some id), ?_⟩
  rintro world ⟨balanced, object, found⟩ quiet
  rw [ends_increment found] at quiet ⊢
  have fits : object.increment.count ≠ 0 := fun wrapped => by simp [World.course, wrapped] at quiet
  exact balanced.increment found fits

theorem upholds_increment_string (id : ObjectId) :
    Upholds World.course (fun world => world.Balanced terms bound held mine ∧ world.Lives id ∧
        (terms.strict = true → world.store.HasString id))
      (do increment (some id); pure id)
      (fun made world => world.Balanced terms bound ({made} + held) mine ∧
        (terms.strict = true → world.store.HasString made)) unwound := by
  have string : Upholds World.course (fun world => world.Lives id ∧ (terms.strict = true → world.store.HasString id))
      (increment (some id)) (fun _ world => terms.strict = true → world.store.HasString id) unwound := by
    refine ⟨goes_increment (some id), ?_⟩
    rintro world ⟨⟨object, found⟩, string⟩ _
    rw [ends_increment found]
    exact fun strict => (string strict).continues (Store.continues_set found .same) (Store.find?_set_self found _)
  have counted : Upholds World.course (fun world => world.Balanced terms bound held mine ∧ world.Lives id)
      (increment (some id)) (fun _ world => world.Balanced terms bound ({id} + held) mine) unwound := upholds_increment id
  refine ((counted.and string).conseq (fun _ known => ?_) (fun _ _ met => met) fun _ _ met => met.1).bind fun _ =>
    .pure fun _ met => met
  exact ⟨⟨known.1, known.2.1⟩, known.2.1, known.2.2⟩

theorem upholds_decrement (handle : Handle) (inside : heap < terms.heaps) :
    Upholds World.course (fun world => world.Balanced terms bound (unitOf handle + held) mine) (decrement heap handle)
      (fun _ world => world.Balanced terms bound held mine) unwound := by
  cases handle with
  | none => exact .pure fun world balanced => balanced.congr (zero_add held) rfl
  | some id =>
    refine ⟨goes_decrement heap (some id), ?_⟩
    intro world balanced _
    obtain ⟨object, found⟩ := balanced.lives (Multiset.mem_add.mpr (.inl (Multiset.mem_singleton_self id)))
    obtain ⟨regular, spent⟩ := balanced.spend inside
    rw [ends_decrement heap found, regular]
    exact spent

/-- A heap that can raise still can when units were given back through another. -/
theorem upholds_decrement_raises (handle : Handle) (other : HeapId) :
    Upholds World.course (fun world => world.CanRaise other) (decrement heap handle) (fun _ world => world.CanRaise other)
      fun _ _ => True := by
  refine ⟨goes_decrement heap handle, fun world ⟨booted, known⟩ _ => ?_⟩
  cases handle with
  | none => exact ⟨booted, known⟩
  | some id =>
    cases found : world.store.find? id with
    | none =>
      rw [decrement, ends_bind_error (ends_objectAt_missing found)]
      trivial
    | some object =>
      rw [ends_decrement heap found]
      split
      next cause _ =>
        cases kind : (Fault.misuse cause).isBreach with
        | true => rw [ends_fault_breach kind]; trivial
        | false => rw [ends_fault_lawful kind]; trivial
      next => exact ⟨booted_modify _ _ _ _ (fun _ booted => booted) booted, known⟩

theorem upholds_hostRaise (id : ObjectId) :
    Upholds World.course (fun world => world.Balanced terms true ({id} + held) mine) (hostRaise (some id)) after
      (Thrown terms held mine) := by
  refine ⟨goes_hostRaise (some id), ?_⟩
  intro world balanced _
  obtain ⟨binding, found⟩ := balanced.sound.exists_binding
  rw [ends_hostRaise found, ends_raise]
  exact ⟨id, rfl, balanced.raising id⟩

theorem upholds_hostRaise_any (err : Handle) :
    Upholds World.course (fun world => world.Balanced terms true (unitOf err + held) mine) (hostRaise err) after
      (Aloft terms bound held mine) := by
  cases err with
  | some id => exact (upholds_hostRaise id).slacken fun _ _ thrown => thrown.aloft
  | none =>
    refine ⟨goes_hostRaise none, ?_⟩
    intro world balanced _
    obtain ⟨binding, found⟩ := balanced.sound.exists_binding
    rw [ends_hostRaise_null found]
    refine ⟨fun cause same => (by cases same; rfl), ?_⟩
    exact (balanced.upgrade (balanced.sound.bound rfl) _).congr rfl (zero_add mine).symm

/-- What is raised through a heap that can raise. -/
theorem upholds_ifBooted {routine : Bridge α}
    (goes : Goes (do if (← heapAt heap).booted then routine else fault .usedBeforeBoot))
    (raised : Upholds World.course (fun world => world.Balanced terms true held mine) routine after unwound) :
    Upholds World.course (fun world => world.Balanced terms bound held mine ∧ world.CanRaise heap)
      (do if (← heapAt heap).booted then routine else fault .usedBeforeBoot) after unwound := by
  refine ⟨goes, ?_⟩
  rintro world ⟨balanced, booted, known⟩ quiet
  have begun : ends (do if (← heapAt heap).booted then routine else fault .usedBeforeBoot) world = ends routine world := by
    change ends (if (world.heaps[heap]?.getD {}).booted then routine else fault .usedBeforeBoot) world = _
    rw [if_pos booted]
  rw [begun] at quiet ⊢
  exact raised.met world (balanced.upgrade known true) quiet

theorem goes_throwHandle (err : Handle) : Goes (throwHandle heap err : Bridge α) := by
  have raised : Keeps false true (Escapes false true) (unitOf err) (throwHandle heap err : Bridge α) (throwHandle heap err)
      (fun _ _ => True) fun _ => 0 := escapes_throwHandle err nofun
  exact (raised 0).onward

theorem upholds_throwHandle (err : Handle) :
    Upholds World.course (fun world => world.Balanced terms bound (unitOf err + held) mine ∧ world.CanRaise heap)
      (throwHandle heap err) after (Aloft terms bound held mine) :=
  upholds_ifBooted (goes_throwHandle err) (upholds_hostRaise_any err)

theorem upholds_throwMessage (message : String) (inside : heap < terms.heaps) :
    Upholds World.course (fun world => world.Balanced terms bound held mine ∧ world.CanRaise heap)
      (throwMessage heap message) after (Thrown terms held mine) := by
  refine upholds_ifBooted (goes_throwMessage heap message) ?_
  apply (upholds_string inside).bind
  intro mess
  have error : Upholds World.course
      (fun world => world.Balanced terms true ({mess} + held) mine ∧ world.store.HasString mess)
      (allocate heap (.error (some mess))) (fun made world => world.Balanced terms true ({made} + held) mine)
      (Thrown terms held mine) :=
    (upholds_allocate inside).conseq
      (fun _ ⟨balanced, string⟩ => ⟨balanced, fun _ other same => by cases same; exact string⟩)
      (fun _ _ ⟨balanced, _⟩ => balanced) fun _ _ thrown => thrown
  exact error.bind fun err => upholds_hostRaise err

theorem upholds_newString (bytes : ByteArray) (inside : heap < terms.heaps) :
    Upholds World.course
      (fun world => world.Balanced terms bound held mine ∧ (bytes.validateUTF8 = false → world.CanRaise heap))
      (newString heap bytes)
      (fun made world => world.Balanced terms bound ({made} + held) mine ∧ world.store.HasString made)
      (Thrown terms held mine) := by
  unfold newString
  split
  next => exact (upholds_string inside).strengthen fun _ known => known.1
  next invalid =>
    exact (upholds_throwMessage "Invalid UTF-8" inside).strengthen fun _ ⟨balanced, can⟩ =>
      ⟨balanced, can (eq_false_of_ne_true invalid)⟩

theorem upholds_push (vector : ObjectId) (item : Handle) (inside : heap < terms.heaps) :
    Upholds World.course
      (fun world => world.Balanced terms bound (unitOf item + held) mine ∧
        ∃ object, world.store.find? vector = some object ∧ (object.isVector = false → world.CanRaise heap))
      (push heap vector item)
      (fun _ world => world.Balanced terms bound held mine ∧ world.Lives vector) (Thrown terms held mine) := by
  refine ⟨goes_push heap vector item, ?_⟩
  rintro world ⟨balanced, object, found, can⟩ quiet
  by_cases fits : ∃ items, object.payload = .vector items
  · obtain ⟨items, fits⟩ := fits
    rw [ends_push_vector found fits]
    exact ⟨balanced.append found fits, _, Store.find?_set_self found _⟩
  · have other : ∀ items, object.payload ≠ .vector items := fun items same => fits ⟨items, same⟩
    rw [ends_push_other found other] at quiet ⊢
    have spent : Upholds World.course (fun world => world.Balanced terms bound (unitOf item + held) mine) (decrement heap item)
        (fun _ world => world.Balanced terms bound held mine) Nowhere := upholds_decrement item inside
    have refused : Upholds World.course (fun world => world.Balanced terms bound (unitOf item + held) mine ∧ world.CanRaise heap)
        (do let _ ← decrement heap item; throwMessage (α := Unit) heap "Not a Vector")
        (fun _ world => world.Balanced terms bound held mine ∧ world.Lives vector) (Thrown terms held mine) :=
      ((spent.and (upholds_decrement_raises item heap)).slacken fun _ _ never => never.1.elim).bind fun _ =>
        upholds_throwMessage _ inside
    refine refused.met world ⟨balanced, can ?_⟩ quiet
    cases kind : object.payload with
    | vector items => exact absurd kind (other items)
    | plain | string | error | bytes => simp [Object.isVector, kind]

theorem upholds_toString (id : ObjectId) (inside : heap < terms.heaps) :
    Upholds World.course
      (fun world => world.Balanced terms bound held mine ∧
        ∃ object, world.store.find? id = some object ∧ (object.isReadable = false → world.CanRaise heap))
      (toString heap id)
      (fun made world => world.Balanced terms bound ({made} + held) mine ∧
        (terms.strict = true → world.store.HasString made)) (Thrown terms held mine) := by
  have made (bytes : ByteArray) : Upholds World.course (fun world => world.Balanced terms bound held mine)
      (allocate heap (.string bytes))
      (fun made world => world.Balanced terms bound ({made} + held) mine ∧
        (terms.strict = true → world.store.HasString made)) (Thrown terms held mine) :=
    (upholds_string inside).weaken fun _ _ ⟨balanced, string⟩ => ⟨balanced, fun _ => string⟩
  have readable (world : World) (known : world.Balanced terms bound held mine ∧
      ∃ object, world.store.find? id = some object ∧ (object.isReadable = false → world.CanRaise heap)) :
      (world.Balanced terms bound held mine ∧ ∀ object, world.store.find? id = some object →
        object.isReadable = false → world.CanRaise heap) ∧ world.Lives id := by
    obtain ⟨balanced, object, found, can⟩ := known
    refine ⟨⟨balanced, fun other present => ?_⟩, object, found⟩
    rw [found] at present
    cases present
    exact can
  refine (upholds_objectAt ?_).strengthen readable
  rintro ⟨count, payload⟩
  cases payload with
  | string bytes =>
    exact (upholds_increment_string id).strengthen fun world ⟨⟨balanced, _⟩, found⟩ => ⟨balanced, ⟨_, found⟩, fun _ => ⟨_, found, rfl⟩⟩
  | error mess =>
    cases mess with
    | none => exact (made _).strengthen fun _ known => known.1.1
    | some mess =>
      refine (upholds_increment_string mess).strengthen fun world ⟨⟨balanced, _⟩, found⟩ => ⟨balanced, ?_, fun strict => ?_⟩
      · exact balanced.sound.exact.live_message found rfl
      · exact (balanced.careful strict).worded id _ mess found rfl
  | bytes bytes =>
    dsimp only
    split
    next => exact (made _).strengthen fun _ known => known.1.1
    next invalid =>
      exact (upholds_throwMessage _ inside).strengthen fun world ⟨⟨balanced, can⟩, found⟩ =>
        ⟨balanced, can _ found (eq_false_of_ne_true invalid)⟩
  | vector items => exact (upholds_get.bind made).strengthen fun _ known => known.1.1
  | plain name => exact (upholds_get.bind made).strengthen fun _ known => known.1.1

theorem upholds_boot :
    Upholds World.course (fun world => world.Balanced terms bound held mine) (boot heap)
      (fun _ world => world.Balanced terms bound held mine) unwound := by
  have keeps : Keeps false true Never 0 (boot heap) (boot heap) Eq fun _ => 0 := keeps_boot nofun
  refine ⟨(keeps 0).onward, fun world balanced _ => ?_⟩
  have begun : ends (boot heap) world = ends (if (world.heaps[heap]?.getD {}).booted then report .alreadyBooted
      else modifyHeap heap fun counters => { counters with booted := true }) world := rfl
  rw [begun]
  split
  · exact balanced.note (.event .alreadyBooted) rfl
  · exact balanced.boot heap

end Native

namespace World.Balanced

variable {world : World}

theorem meets_live (balanced : world.Balanced terms true held mine) (lives : world.Lives id) :
    world.meets (.live id) = true := by
  obtain ⟨object, found⟩ := lives
  simp [meets, balanced.sound.bound rfl, Store.isLive, found]

theorem meets_string (balanced : world.Balanced terms true held mine) (string : world.store.HasString id) :
    world.meets (.string id) = true := by
  obtain ⟨object, found, is⟩ := string
  simp [meets, balanced.sound.bound rfl, isString, found, is]

theorem meets_stringOrNull (balanced : world.Balanced terms true held mine) (string : world.store.HasString id) :
    world.meets (.stringOrNull (some id)) = true := by
  obtain ⟨object, found, is⟩ := string
  simp [meets, balanced.sound.bound rfl, isString, found, is]

end World.Balanced

namespace Bound

theorem upholds_before {demand : Demand} {call : Call} {action : Bridge α} {middle : World → Prop}
    (entered : ∀ world, before world →
      middle { world with journal := world.journal.push (.call call (world.meets demand)) })
    (upholds : Upholds World.course middle action after unwound) :
    Upholds World.course before (Bound.before demand call action) after unwound := by
  refine ⟨fun world => ?_, fun world known quiet => ?_⟩
  · rw [ends_before]
    exact (continues_journal world _).trans (upholds.onward _)
  · rw [ends_before] at quiet ⊢
    exact upholds.met _ (entered world known) quiet

theorem upholds_after {demand : Demand} {call : α → Call} {action : Bridge α} {middle : α → World → Prop}
    (upholds : Upholds World.course before action middle unwound)
    (entered : ∀ world, before world → ∀ answer last, middle answer last →
      after answer { last with journal := last.journal.push (.call (call answer) (world.meets demand)) }) :
    Upholds World.course before (Bound.after demand call action) after unwound := by
  refine ⟨goes_after upholds.onward, fun world known quiet => ?_⟩
  have met := upholds.met world known
  rw [ends_after] at quiet ⊢
  generalize ends action world = ended at quiet met ⊢
  obtain ⟨outcome, last⟩ := ended
  cases outcome with
  | ok answer => exact entered world known answer last (met quiet)
  | error payload => exact met quiet

/-- Whatever is done with the heap that is bound. -/
theorem upholds_heap {next : HeapId → Bridge α} (goes : ∀ heap, Goes (next heap))
    (balanced : ∀ world, before world → world.Balanced terms true held mine)
    (each : ∀ heap, heap < terms.heaps →
      Upholds World.course (fun world => before world ∧ world.CanRaise heap) (next heap) after unwound) :
    Upholds World.course before (do next (← Bound.heap)) after unwound := by
  refine ⟨goes_heap.bind goes, ?_⟩
  intro world known quiet
  have kept := balanced world known
  obtain ⟨binding, found⟩ := kept.sound.exists_binding
  have ended : ends Bound.heap world = (.ok binding.heap, world) := ends_bind_ok (ends_binding found)
  rw [ends_bind_ok ended] at quiet ⊢
  exact (each binding.heap ((kept.housed binding found).trans_eq kept.heaps)).met world
    ⟨known, kept.sound.booted binding found, kept.sound.bound rfl⟩ quiet

theorem upholds_increment (id : ObjectId) :
    Upholds World.course (fun world => world.Balanced terms true held mine ∧ world.Lives id) (increment id)
      (fun _ world => world.Balanced terms true ({id} + held) ({id} + mine)) unwound := by
  refine upholds_before (fun world ⟨balanced, lives⟩ => ⟨?_, lives⟩) (Native.upholds_increment id)
  exact balanced.call (.increment id) _ (zero_add mine).symm rfl fun _ => ⟨balanced.meets_live lives, nofun⟩

theorem upholds_decrement (id : ObjectId) :
    Upholds World.course (fun world => world.Balanced terms true ({id} + held) ({id} + mine)) (decrement id)
      (fun _ world => world.Balanced terms true held mine) unwound := by
  have goes (heap : HeapId) : Goes (Native.decrement heap (some id)) := Native.goes_decrement heap (some id)
  refine upholds_after (upholds_heap goes (fun _ balanced => balanced) fun heap inside =>
    (Native.upholds_decrement (some id) inside).strengthen fun _ known => known.1) ?_
  intro world balanced remaining last spent
  have lives : world.Lives id := balanced.lives (by simp)
  exact (spent.call (.decrement id remaining) _ rfl rfl fun _ => ⟨balanced.meets_live lives, nofun⟩).congr rfl (zero_add mine)

theorem upholds_newString {bytes : ByteArray} (valid : bytes.validateUTF8 = true) :
    Upholds World.course (fun world => world.Balanced terms true held mine) (newString bytes)
      (fun made world => world.Balanced terms true ({made} + held) ({made} + mine) ∧ world.store.HasString made) unwound := by
  have allocated (heap : HeapId) : Native.newString heap bytes = Native.allocate heap (.string bytes) := if_pos valid
  have goes (heap : HeapId) : Goes (Native.newString heap bytes) := by
    rw [allocated]
    exact Native.goes_allocate heap _
  have made : Upholds World.course (fun world => world.Balanced terms true held mine) (do Native.newString (← heap) bytes)
      (fun made world => world.Balanced terms true ({made} + held) mine ∧ world.store.HasString made) unwound := by
    refine upholds_heap goes (fun _ balanced => balanced) fun heap inside => ?_
    rw [allocated]
    exact (Native.upholds_string inside).strengthen fun _ known => known.1
  refine upholds_after made ?_
  rintro world balanced made last ⟨kept, string⟩
  exact ⟨kept.call (.newString bytes.size made) _ (zero_add mine).symm rfl fun _ => ⟨balanced.sound.bound rfl, nofun⟩, string⟩

theorem upholds_newError (mess : ObjectId) :
    Upholds World.course
      (fun world => world.Balanced terms true ({mess} + held) ({mess} + mine) ∧ world.store.HasString mess)
      (newError (some mess)) (fun made world => world.Balanced terms true ({made} + held) ({made} + mine)) unwound := by
  have goes (heap : HeapId) : Goes (Native.newError heap (some mess)) := Native.goes_allocate heap _
  have made : Upholds World.course
      (fun world => world.Balanced terms true ({mess} + held) ({mess} + mine) ∧ world.store.HasString mess)
      (do Native.newError (← heap) (some mess))
      (fun made world => world.Balanced terms true ({made} + held) ({mess} + mine)) unwound := by
    refine upholds_heap goes (fun _ known => known.1) fun heap inside => ?_
    refine (Native.upholds_allocate inside).conseq (fun world known => ⟨known.1.1, fun _ other same => ?_⟩)
      (fun _ _ met => met.1) fun _ _ met => met
    cases same
    exact known.1.2
  refine upholds_after made ?_
  rintro world ⟨balanced, string⟩ made last kept
  exact kept.call (.newError (some mess) made) _ rfl rfl fun _ => ⟨balanced.meets_stringOrNull string, nofun⟩

theorem upholds_messageOf (id : ObjectId) :
    Upholds World.course (fun world => world.Balanced terms true held mine ∧ world.Lives id) (messageOf id)
      (fun answer world => world.Balanced terms true held mine ∧ ∀ mess, answer = some mess → world.Lives mess) unwound := by
  refine ⟨goes_after ((goes_objectAt id).bind fun _ => .pure _), ?_⟩
  rintro world ⟨balanced, object, found⟩ _
  have looked : ends (do return (← objectAt id).message) world = (.ok object.message, world) :=
    ends_bind_ok (ends_objectAt found)
  rw [Bound.messageOf, ends_after, looked]
  refine ⟨?_, fun mess same => balanced.sound.exact.live_message found same⟩
  exact balanced.asked (.messageOf id object.message) _ fun _ => balanced.meets_live ⟨object, found⟩

theorem upholds_isString (id : ObjectId) :
    Upholds World.course (fun world => world.Balanced terms true held mine ∧ world.Lives id) (isString id)
      (fun answer world => (world.Balanced terms true held mine ∧ world.Lives id) ∧
        (terms.strict = true → answer = true → world.store.HasString id)) unwound := by
  refine ⟨goes_after ((goes_objectAt id).bind fun _ => goes_get.bind fun _ => .pure _), ?_⟩
  rintro world ⟨balanced, object, found⟩ _
  have looked : ends (do let object ← objectAt id; return (← get).stubs.isString.getD object.isString) world =
      (.ok (world.stubs.isString.getD object.isString), world) := ends_bind_ok (ends_objectAt found)
  rw [Bound.isString, ends_after, looked]
  refine ⟨⟨?_, object, found⟩, fun strict answer => ⟨object, found, ?_⟩⟩
  · exact balanced.asked (.isString id _) _ fun _ => balanced.meets_live ⟨object, found⟩
  · rw [(balanced.careful strict).plain] at answer
    exact answer

theorem upholds_stringBytes (id : ObjectId) :
    Upholds World.course (fun world => (world.Balanced terms true held mine ∧ world.Lives id) ∧
        (terms.strict = true → world.store.HasString id)) (stringBytes id)
      (fun _ world => world.Balanced terms true held mine) unwound := by
  refine ⟨goes_after ((goes_objectAt id).bind fun _ => goes_get.bind fun _ => .pure _), ?_⟩
  rintro world ⟨⟨balanced, object, found⟩, string⟩ _
  have looked : ends (do
      let bytes := (← objectAt id).stringBytes?
      return (← get).stubs.stringBytes.getD (bytes, (bytes.map ByteArray.size).getD 0)) world =
      (.ok (world.stubs.stringBytes.getD (object.stringBytes?, (object.stringBytes?.map ByteArray.size).getD 0)), world) :=
    ends_bind_ok (ends_objectAt found)
  rw [Bound.stringBytes, ends_after, looked]
  exact balanced.asked (.stringBytes id _ _) _ fun strict => balanced.meets_string (string strict)

theorem upholds_className (id : ObjectId) :
    Upholds World.course (fun world => world.Balanced terms true held mine ∧ world.Lives id) (className id)
      (fun _ world => world.Balanced terms true held mine) unwound := by
  refine upholds_before (fun world ⟨balanced, lives⟩ => ⟨?_, lives⟩) (upholds_objectAt fun object => .pure fun _ known => known.1)
  exact balanced.asked (.className id) _ fun _ => balanced.meets_live lives

theorem upholds_toString (id : ObjectId) :
    Upholds World.course (fun world => world.Balanced terms true held mine ∧ world.Lives id) (toString id)
      (fun made world => world.Balanced terms true ({made} + held) ({made} + mine) ∧
        (terms.strict = true → world.store.HasString made)) (Thrown terms held mine) := by
  have goes (heap : HeapId) : Goes (Native.toString heap id) := by
    have raises : Raises false true 0 (Native.toString heap id) (Native.toString heap id) Eq fun made => {made} :=
      Native.raises_toString id nofun
    exact (raises 0).onward
  have coerced : Upholds World.course (fun world => world.Balanced terms true held mine ∧ world.Lives id)
      (do Native.toString (← heap) id)
      (fun made world => world.Balanced terms true ({made} + held) mine ∧
        (terms.strict = true → world.store.HasString made)) (Thrown terms held mine) := by
    refine upholds_heap goes (fun _ known => known.1) fun heap inside => ?_
    refine (Native.upholds_toString id inside).strengthen ?_
    rintro world ⟨⟨balanced, object, found⟩, can⟩
    exact ⟨balanced, object, found, fun _ => can⟩
  refine (upholds_before ?_ coerced).bind fun made => upholds_before ?_ (.pure fun _ known => known)
  · rintro world ⟨balanced, lives⟩
    exact ⟨balanced.asked (.toString id) _ fun _ => balanced.meets_live lives, lives⟩
  · rintro world ⟨balanced, string⟩
    exact ⟨balanced.call (.toStringReturned made) _ (zero_add mine).symm rfl fun _ => ⟨balanced.sound.bound rfl, nofun⟩, string⟩

end Bound

end CountBridge
