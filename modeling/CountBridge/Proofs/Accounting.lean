import CountBridge.Proofs.Lag

/-! Rules for routines that keep the accounts on both sides. A routine uses up
the units it needs and returns with the units it gives; whatever else is held
while it runs is still held afterwards. One that is left with a native error
leaves the unit of the error in its place. -/

namespace CountBridge

open Bridge World

def Unwind.units : Unwind → Multiset ObjectId
  | .native err => unitOf err.handle
  | .text _ | .number _ | .fault _ => 0

def Unwind.isWrapped : Unwind → Bool
  | .native err => err.handle.isSome
  | .text _ | .number _ | .fault _ => false

/-- How the worlds are related when something unwinds, given what else is held. -/
abbrev Exit := Multiset ObjectId → Unwind → World → World → Prop

def Escapes (late bound : Bool) : Exit := fun held payload =>
  Linked late (bound || payload.isWrapped) (payload.units + held)

/-- Nothing unwinds but an error, with one unit of it. -/
def Natively (late : Bool) : Exit := fun held payload left right =>
  ∃ id, payload = .native ⟨.error, some id⟩ ∧ Linked late true ({id} + held) left right

def Never : Exit := fun _ _ _ _ => False

theorem Natively.escapes {late bound : Bool} {held : Multiset ObjectId} {payload : Unwind} {left right : World}
    (natively : Natively late held payload left right) : Escapes late bound held payload left right := by
  obtain ⟨id, rfl, linked⟩ := natively
  simpa [Escapes, Unwind.isWrapped, Unwind.units] using linked

/-- The values are the same, unless one side is behind; then they are known to be alike. -/
def Agree (late : Bool) (alike : α → α → Prop) (first second : α) : Prop :=
  (late = false → first = second) ∧ alike first second

abbrev Told (late : Bool) (first second : α) : Prop := Agree late (fun _ _ => True) first second

theorem Agree.refl {late : Bool} {alike : α → α → Prop} (refl : ∀ value, alike value value) (value : α) :
    Agree late alike value value := ⟨fun _ => rfl, refl value⟩

theorem Told.refl {late : Bool} (value : α) : Told late value value := Agree.refl (fun _ => trivial) value

theorem Told.unit {late : Bool} (first second : Unit) (_ : Told late first second) : first = second := rfl

def Keeps (late bound : Bool) (exit : Exit) (needs : Multiset ObjectId) (first second : Bridge α)
    (agree : α → α → Prop) (gives : α → Multiset ObjectId) : Prop :=
  ∀ held, Sim World.course (Linked late bound (needs + held)) first second agree
    (fun value _ => Linked late bound (gives value + held)) (exit held)

abbrev Settles (late bound : Bool) (needs : Multiset ObjectId) (first second : Bridge α) (agree : α → α → Prop)
    (gives : α → Multiset ObjectId) : Prop :=
  Keeps late bound Never needs first second agree gives

abbrev Raises (late bound : Bool) (needs : Multiset ObjectId) (first second : Bridge α) (agree : α → α → Prop)
    (gives : α → Multiset ObjectId) : Prop :=
  Keeps late bound (Natively late) needs first second agree gives

variable {α β : Type} {late bound : Bool} {exit : Exit} {needs : Multiset ObjectId} {first second : Bridge α}
  {agree agree' : α → α → Prop} {gives gives' : α → Multiset ObjectId}

namespace Keeps

theorem conseq (keeps : Keeps late bound exit needs first second agree gives)
    (relax : ∀ a b, agree a b → agree' a b) (same : ∀ a b, agree a b → gives a = gives' a) :
    Keeps late bound exit needs first second agree' gives' := by
  intro held
  refine (keeps held).conseq (fun _ _ linked => linked) relax ?_ (fun _ _ _ escaped => escaped)
  intro value value' s t agreed linked
  rwa [← same value value' agreed]

/-- What always returns does so wherever it stands. -/
theorem settled (settles : Settles late bound needs first second agree gives) :
    Keeps late bound exit needs first second agree gives :=
  fun held => (settles held).slacken fun _ _ _ never => never.elim

theorem escapes (raises : Raises late bound needs first second agree gives) :
    Keeps late bound (Escapes late bound) needs first second agree gives :=
  fun held => (raises held).slacken fun _ _ _ natively => natively.escapes

/-- Whatever else is held, stays so. -/
theorem frame (settles : Settles late bound needs first second agree gives) (extra : Multiset ObjectId) :
    Settles late bound (needs + extra) first second agree fun value => gives value + extra := by
  intro held
  refine (settles (extra + held)).conseq ?_ (fun _ _ same => same) ?_ (fun _ _ _ never => never)
  · intro s t linked
    rwa [← add_assoc]
  · intro value _ s t _ linked
    rwa [add_assoc]

theorem pure {value value' : α} (same : agree value value') (paid : gives value = needs) :
    Keeps late bound exit needs (pure value) (pure value') agree gives :=
  fun _ => .pure same fun _ _ linked => paid ▸ linked

theorem bind {next next' : α → Bridge β} {agreed : β → β → Prop} {last : β → Multiset ObjectId}
    (begun : Keeps late bound exit needs first second agree gives) (refl : ∀ value, agree value value)
    (continued : ∀ value value', agree value value' →
      Keeps late bound exit (gives value) (next value) (next' value') agreed last) :
    Keeps late bound exit needs (first >>= next) (second >>= next') agreed last :=
  fun held => (begun held).bind refl fun value value' same => continued value value' same held

theorem bind_eq {next next' : α → Bridge β} {agreed : β → β → Prop} {last : β → Multiset ObjectId}
    (begun : Keeps late bound exit needs first second Eq gives)
    (continued : ∀ value, Keeps late bound exit (gives value) (next value) (next' value) agreed last) :
    Keeps late bound exit needs (first >>= next) (second >>= next') agreed last :=
  fun held => (begun held).bind_eq fun value => continued value held

theorem map {value : α → β} {last : β → Multiset ObjectId} (keeps : Keeps late bound exit needs first second Eq gives)
    (same : ∀ found, last (value found) = gives found) :
    Keeps late bound exit needs (value <$> first) (value <$> second) Eq last := by
  rw [map_eq_pure_bind, map_eq_pure_bind]
  exact keeps.bind_eq fun found => .pure rfl (same found)

end Keeps

theorem keeps_record {entry entry' : Entry} (same : late = false → entry = entry') :
    Keeps late bound exit needs (record entry) (record entry') Eq fun _ => needs := by
  refine fun held => ⟨goes_record _, goes_record _, fun s t linked _ _ => ?_⟩
  refine .value rfl (linked.journal fun never => ?_)
  rw [linked.same never, same never]

/-- Reading the world. -/
theorem keeps_get {read : World → α} (agreeing : ∀ held s t, Linked late bound held s t → agree (read s) (read t)) :
    Keeps late bound exit needs (do return read (← get)) (do return read (← get)) agree fun _ => needs := by
  refine fun held => ⟨World.Continues.refl, World.Continues.refl, fun s t linked _ _ => ?_⟩
  exact .value (agreeing _ s t linked) linked

theorem keeps_objectAt (id : ObjectId) :
    Keeps late bound exit needs (objectAt id) (objectAt id) (Agree late Object.Alike) fun _ => needs := by
  refine fun held => ⟨goes_objectAt id, goes_objectAt id, fun s t linked quiet _ => ?_⟩
  cases found : s.store.find? id with
  | none =>
    rw [ends_objectAt_missing found] at quiet
    cases quiet.2
  | some kept =>
    obtain ⟨object, present, alike, same⟩ := linked.survivor found
    rw [ends_objectAt found, ends_objectAt present]
    exact .value ⟨same, alike⟩ linked

theorem keeps_binding : Keeps late true exit needs Bridge.binding Bridge.binding
    (Agree late fun first second => first.heap = second.heap ∧ first.config.maxTextBytes = second.config.maxTextBytes)
    fun _ => needs := by
  refine fun held => ⟨goes_binding, goes_binding, fun s t linked _ _ => ?_⟩
  cases late with
  | false =>
    obtain ⟨binding, found⟩ := linked.sound.exists_binding
    rw [linked.same rfl, ends_binding found]
    exact .value (.refl (fun _ => ⟨rfl, rfl⟩) _) (linked.same rfl ▸ linked)
  | true =>
    obtain ⟨config, config', queue, found, -, present, limit⟩ := (linked.behind rfl).binding
    rw [ends_binding found, ends_binding present]
    exact .value ⟨fun never => (by cases never), rfl, limit⟩ linked

theorem keeps_heapAt {heap : HeapId} (single : late = true → heap = 0) :
    Keeps late bound exit needs (heapAt heap) (heapAt heap)
      (Agree late fun first second => first.allocated = second.allocated ∧ first.booted = second.booted) fun _ => needs := by
  refine keeps_get fun held s t linked => ⟨fun never => by rw [linked.same never], ?_⟩
  cases late with
  | false => rw [linked.same rfl]; exact ⟨rfl, rfl⟩
  | true =>
    have behind := linked.behind rfl
    have heaps : s.heaps = _ := behind.counted
    have heaps' : t.heaps = _ := behind.counted'
    rw [single rfl, heaps, heaps', behind.allocated]
    exact ⟨rfl, rfl⟩

/-- After a broken condition nothing more is asked. -/
theorem keeps_breach {cause : Fault} (broken : cause.isBreach = true) :
    Keeps late bound exit needs (fault cause) (fault cause) agree gives := by
  refine fun held => ⟨goes_fault cause, goes_fault cause, fun s t linked quiet _ => ?_⟩
  rw [ends_fault_breach broken] at quiet
  cases quiet.2

theorem Native.keeps_allocate {heap : HeapId} {payload : Payload} (single : late = true → heap = 0)
    (owned : payload.units = needs) :
    Keeps late bound exit needs (Native.allocate heap payload) (Native.allocate heap payload) Eq
      fun made => {made} := by
  subst owned
  refine fun held => ⟨Native.goes_allocate heap payload, Native.goes_allocate heap payload, fun s t linked _ _ => ?_⟩
  rw [ends_allocate, ends_allocate]
  refine .value linked.allocated ⟨⟨?_, fun binding found => ?_, linked.sound.bound⟩, fun never => ?_, fun behind => ?_⟩
  · have exact : t.store.Exact (payload.units + (t.queued + held)) := linked.sound.exact.congr (add_left_comm _ _ _)
    rw [linked.allocated]
    exact exact.allocate.congr (add_left_comm _ _ _)
  · exact booted_modify _ _ _ _ (fun _ booted => booted) (linked.sound.booted binding found)
  · rw [linked.same never]
  · rw [single behind]
    exact (linked.behind behind).allocate payload

theorem Native.keeps_increment (handle : Handle) :
    Keeps late bound exit 0 (Native.increment handle) (Native.increment handle) Eq fun _ => unitOf handle := by
  refine fun held => ⟨Native.goes_increment handle, Native.goes_increment handle, fun s t linked quiet quiet' => ?_⟩
  rw [zero_add] at linked
  cases handle with
  | none => exact .value rfl (by simpa using linked)
  | some id =>
    cases found : s.store.find? id with
    | none =>
      rw [Native.increment, ends_bind_error (ends_objectAt_missing found)] at quiet
      cases quiet.2
    | some kept =>
      obtain ⟨object, present, alike, same⟩ := linked.survivor found
      rw [ends_increment found] at quiet ⊢
      rw [ends_increment present] at quiet' ⊢
      have fits : object.increment.count ≠ 0 := fun wrapped => by simp [World.course, wrapped] at quiet'
      refine .value rfl ⟨⟨?_, linked.sound.booted, linked.sound.bound⟩, fun never => ?_, fun behind => ?_⟩
      · exact (linked.sound.exact.increment present fits).congr (add_left_comm _ _ _)
      · rw [same never, linked.same never]
      · have moved := (linked.behind behind).change found present (Object.gentle_increment fits)
        exact ⟨moved.store, moved.counted, moved.counted', moved.binding, moved.stubs, moved.origin⟩

theorem Native.keeps_decrement {heap : HeapId} (handle : Handle) (single : late = true → heap = 0) :
    Keeps late bound exit (unitOf handle) (Native.decrement heap handle) (Native.decrement heap handle) (Told late)
      fun _ => 0 := by
  refine fun held => ⟨Native.goes_decrement heap handle, Native.goes_decrement heap handle, fun s t linked _ _ => ?_⟩
  cases handle with
  | none => exact .value (Told.refl _) (by simpa using linked)
  | some id =>
    obtain ⟨value, left, ended, repaid⟩ := returns_decrement heap linked.sound'
    obtain ⟨value', right, ended', repaid'⟩ := returns_decrement heap linked.sound
    rw [ended, ended']
    refine .value ⟨fun never => ?_, trivial⟩ ⟨?_, fun never => ?_, fun behind => ?_⟩
    · rw [linked.same never, ended'] at ended
      cases ended
      rfl
    · exact (repaid'.sound linked.sound).congr (zero_add held).symm
    · rw [linked.same never, ended'] at ended
      cases ended
      rfl
    · obtain ⟨config, config', queue, found, -, found', -⟩ := (linked.behind behind).binding
      rw [single behind] at repaid repaid'
      exact (linked.behind behind).ease ⟨_, found, repaid⟩ (Released.eased ⟨_, found', repaid'⟩)

end CountBridge
