import CountBridge.Proofs.Worlds

/-! The cascade that giving back a unit may start. A destroyed object gives back what it
owned, which may destroy others in turn, and what is owned may be shared or lead back to
where it came from. The measure is the number of live objects. It is exact accounts that
keep the cascade from ever coming to an object that is gone. -/

namespace CountBridge

namespace Store

/-- Giving back comes from one store and line to another. The units of a destroyed object stand
before those that were in line already, and the list tells the objects destroyed on the way, in
their order. From a unit of an object that is gone, or that counts none, there is no way on. -/
inductive Cascade : Store → List Handle → List ObjectId → Store → List Handle → Prop where
  | here {store line} : Cascade store line [] store line
  | null {store moment : Store} {line destroyed rest} (further : Cascade store line destroyed moment rest) :
      Cascade store (none :: line) destroyed moment rest
  | lowers {store moment : Store} {id : ObjectId} {object : Object} {line destroyed rest}
      (found : store.find? id = some object) (positive : object.count ≠ 0) (shared : object.count ≠ 1)
      (further : Cascade (store.set id object.decrement) line destroyed moment rest) :
      Cascade store (some id :: line) destroyed moment rest
  | destroys {store moment : Store} {id : ObjectId} {object : Object} {line destroyed rest}
      (found : store.find? id = some object) (sole : object.count = 1)
      (further : Cascade (store.remove id) (object.payload.slots ++ line) destroyed moment rest) :
      Cascade store (some id :: line) (id :: destroyed) moment rest

variable {store moment last : Store} {id other : ObjectId} {object : Object} {line rest : List Handle}
  {gone freed : List ObjectId} {held : Multiset ObjectId}

theorem Exact.head (exact : Exact store (unitsOf (some id :: rest) + held)) :
    ∃ object, store.find? id = some object ∧ object.count ≠ 0 := by
  obtain ⟨object, found⟩ : ∃ object, store.find? id = some object := exact.live_of_held (by simp)
  exact ⟨object, found, exact.positive id object found⟩

theorem Exact.lowered (exact : Exact store (unitsOf (some id :: line) + held)) (found : store.find? id = some object)
    (shared : object.count ≠ 1) : Exact (store.set id object.decrement) (unitsOf line + held) := by
  have single : Exact store ({id} + (unitsOf line + held)) := exact.congr (by rw [unitsOf_cons, unitOf_some, add_assoc])
  obtain ⟨after, freed, spent, left⟩ := single.spend
  rw [spend_shared found (exact.positive id object found) shared] at spent
  cases spent
  exact left.congr (zero_add _)

theorem Exact.destroyed (exact : Exact store (unitsOf (some id :: line) + held)) (found : store.find? id = some object)
    (sole : object.count = 1) : Exact (store.remove id) (unitsOf (object.payload.slots ++ line) + held) := by
  have single : Exact store ({id} + (unitsOf line + held)) := exact.congr (by rw [unitsOf_cons, unitOf_some, add_assoc])
  obtain ⟨after, freed, spent, left⟩ := single.spend
  rw [spend_sole found sole] at spent
  cases spent
  exact left.congr (by simp [Payload.units, add_assoc])

/-- Accounts that are exact in the beginning are so at every moment, with what is in line then. -/
theorem Exact.cascade (exact : Exact store (unitsOf line + held)) (cascade : Cascade store line gone moment rest) :
    Exact moment (unitsOf rest + held) := by
  induction cascade with
  | here => exact exact
  | null further ih => exact ih (by simpa using exact)
  | lowers found positive shared further ih => exact ih (exact.lowered found shared)
  | destroys found sole further ih => exact ih (exact.destroyed found sole)

theorem isLive_set (found : store.find? id = some object) (changed : Object) (other : ObjectId) :
    (store.set id changed).isLive other = store.isLive other := by
  by_cases here : other = id
  · subst here
    simp only [isLive, find?_set_self found, found, Option.isSome_some]
  · simp only [isLive, find?_set_other here]

theorem isLive_remove (store : Store) (id other : ObjectId) :
    (store.remove id).isLive other = (decide (other ≠ id) && store.isLive other) := by
  by_cases here : other = id <;> simp [isLive, find?_remove, here]

theorem Cascade.isLive_of_moment (cascade : Cascade store line gone moment rest) (lives : moment.isLive other = true) :
    store.isLive other = true := by
  induction cascade with
  | here => exact lives
  | null further ih => exact ih lives
  | lowers found positive shared further ih =>
    have before := ih lives
    rwa [isLive_set found] at before
  | destroys found sole further ih =>
    have before := ih lives
    rw [isLive_remove, Bool.and_eq_true] at before
    exact before.2

/-- Those that lived and are gone now were destroyed. -/
theorem Cascade.mem_gone (cascade : Cascade store line gone moment rest) :
    other ∈ gone ↔ store.isLive other = true ∧ moment.isLive other = false := by
  induction cascade with
  | here => simp
  | null further ih => exact ih
  | lowers found positive shared further ih => rw [ih, isLive_set found]
  | @destroys store moment id object line gone rest found sole further ih =>
    have lived : store.isLive id = true := by simp [isLive, found]
    have removed : (store.remove id).isLive id = false := by simp [isLive_remove]
    rw [List.mem_cons, ih, isLive_remove]
    by_cases here : other = id
    · subst here
      have dead : moment.isLive other = false := by
        by_contra lives
        have before := further.isLive_of_moment (Bool.eq_true_of_not_eq_false lives)
        rw [removed] at before
        cases before
      simp [lived, dead]
    · simp [here]

theorem Cascade.nodup (cascade : Cascade store line gone moment rest) : gone.Nodup := by
  induction cascade with
  | here => exact .nil
  | null further ih => exact ih
  | lowers found positive shared further ih => exact ih
  | destroys found sole further ih =>
    refine List.nodup_cons.mpr ⟨fun again => ?_, ih⟩
    obtain ⟨lives, -⟩ := further.mem_gone.mp again
    simp [isLive_remove] at lives

/-- Every destruction takes one live object away, and nothing else does. -/
theorem Cascade.liveCount_eq (cascade : Cascade store line gone moment rest) :
    gone.length + moment.liveCount = store.liveCount := by
  induction cascade with
  | here => simp
  | null further ih => exact ih
  | lowers found positive shared further ih => rw [ih, liveCount_set found]
  | destroys found sole further ih =>
    have fewer := liveCount_remove found
    simp only [List.length_cons]
    omega

/-- What stands further back in line does not matter before its turn. -/
theorem Cascade.ahead (cascade : Cascade store line gone moment rest) (behind : List Handle) :
    Cascade store (line ++ behind) gone moment (rest ++ behind) := by
  induction cascade with
  | here => exact .here
  | null further ih => exact .null ih
  | lowers found positive shared further ih => exact .lowers found positive shared ih
  | destroys found sole further ih =>
    rw [List.append_assoc] at ih
    exact .destroys found sole ih

/-- There is only one way on. -/
theorem Cascade.resume (cascade : Cascade store line freed moment rest) (whole : Cascade store line gone last []) :
    ∃ later, gone = freed ++ later ∧ Cascade moment rest later last [] := by
  induction cascade generalizing gone with
  | here => exact ⟨gone, rfl, whole⟩
  | null further ih =>
    cases whole with
    | null onward => exact ih onward
  | lowers found positive shared further ih =>
    cases whole with
    | lowers again _ _ onward =>
      rw [found] at again
      cases again
      exact ih onward
    | destroys again sole =>
      rw [found] at again
      cases again
      exact absurd sole shared
  | destroys found sole further ih =>
    cases whole with
    | lowers again _ shared =>
      rw [found] at again
      cases again
      exact absurd sole shared
    | destroys again _ onward =>
      rw [found] at again
      cases again
      obtain ⟨later, rfl, remaining⟩ := ih onward
      exact ⟨later, rfl, remaining⟩

/-- What is given back without misuse is a cascade that comes to its end. -/
theorem cascade_giveBack (store : Store) (line : List Handle) (regular : (store.giveBack line).misuse = none) :
    Cascade store line (store.giveBack line).destroyed (store.giveBack line).store [] := by
  fun_induction Store.giveBack store line with
  | case1 store => exact .here
  | case2 store line ih => exact .null (ih regular)
  | case3 store id line missing => cases regular
  | case4 store id line object found empty => cases regular
  | case5 store id line object found positive sole after ih => exact .destroys found sole (ih regular)
  | case6 store id line object found positive shared ih => exact .lowers found positive shared (ih regular)

/-- What is known at a moment of a cascade: what was destroyed up to then, that the object whose
unit comes next lives and counts it, and that this unit has been given back with all that comes of
it before the line goes on. -/
structure Proper (store : Store) (gone : List ObjectId) (moment : Store) (rest : List Handle) : Prop where
  distinct : gone.Nodup
  destroyed : ∀ id, id ∈ gone ↔ store.isLive id = true ∧ moment.isLive id = false
  measure : gone.length + moment.liveCount = store.liveCount
  next : ∀ id later, rest = some id :: later → ∃ object, moment.find? id = some object ∧ object.count ≠ 0
  nested : ∀ handle later, rest = handle :: later →
    ∃ inner after, moment.Cascade [handle] inner after [] ∧ moment.Cascade rest inner after later

theorem Exact.proper (exact : Exact store (unitsOf line + held)) (cascade : Cascade store line gone moment rest) :
    store.Proper gone moment rest where
  distinct := cascade.nodup
  destroyed _ := cascade.mem_gone
  measure := cascade.liveCount_eq
  next id later same := by
    subst same
    exact (exact.cascade cascade).head
  nested handle later same := by
    subst same
    have owned : Exact moment (unitsOf [handle] + (unitsOf later + held)) := (exact.cascade cascade).congr (by simp [add_assoc])
    obtain ⟨regular, -, -⟩ := owned.giveBack
    have inner := cascade_giveBack moment [handle] regular
    exact ⟨_, _, inner, inner.ahead later⟩

end Store

/-- Who owns a unit may give it back, whatever owns what. The cascade comes to its end, with no more
destructions than there were live objects, each of another one. At every moment on the way, the
object whose unit comes next still lives and counts at least one. -/
theorem decrement_cascade {world : World} {id : ObjectId} {held : Multiset ObjectId} (heap : HeapId)
    (exact : world.store.Exact ({id} + held)) :
    ∃ count gone last,
      ends (Native.decrement heap (some id)) world = (.ok count, { world with
        store := last
        heaps := world.heaps.modify heap (·.destroy gone.length) }) ∧
      gone.length ≤ world.store.liveCount ∧
      world.store.Cascade [some id] gone last [] ∧
      ∀ freed moment rest, world.store.Cascade [some id] freed moment rest →
        world.store.Proper freed moment rest ∧ ∃ later, gone = freed ++ later ∧ moment.Cascade rest later last [] := by
  have owned : world.store.Exact (unitsOf [some id] + held) := exact.congr (by simp)
  obtain ⟨regular, -, -⟩ := owned.giveBack
  obtain ⟨object, found⟩ : ∃ object, world.store.find? id = some object := exact.live_of_held (by simp)
  have ended := ends_decrement heap found
  rw [regular] at ended
  have whole := Store.cascade_giveBack world.store [some id] regular
  have counted := whole.liveCount_eq
  refine ⟨_, _, _, ended, by omega, whole, fun freed moment rest cascade => ?_⟩
  exact ⟨owned.proper cascade, cascade.resume whole⟩

/-- A vector holds an error twice, whose message is shared with a vector that holds itself. -/
def Store.tangled : Store where
  places := #[some { count := 2, payload := .string "m".toUTF8 }, some { count := 2, payload := .error (some 0) },
    some { payload := .vector #[some 1, none, some 1, some 3] }, some { count := 2, payload := .vector #[some 3, some 0] }]

theorem Store.exact_tangled : tangled.Exact ({2} + 0) := .of_places (by decide) (by decide) (by decide)

/-- The outer vector goes, and then the error, with the second of its units. The message and the
vector that holds itself lose a unit each. -/
theorem decrement_cascade_tangled :
    Store.tangled.Exact ({2} + 0) ∧ ∃ count last,
      ends (Native.decrement 0 (some 2)) { store := .tangled, heaps := #[{ live := 4, allocated := 4 }] } =
        (.ok count, { store := last, heaps := #[{ live := 2, allocated := 4 }] }) ∧
      Store.tangled.Cascade [some 2] [2, 1] last [] := by
  let world : World := { store := .tangled, heaps := #[{ live := 4, allocated := 4 }] }
  have exact : world.store.Exact ({2} + 0) := Store.exact_tangled
  obtain ⟨count, gone, last, ended, -, whole, moments⟩ := decrement_cascade 0 exact
  have course : ∃ moment, world.store.Cascade [some 2] [2, 1] moment [] :=
    ⟨_, .destroys rfl rfl (.lowers rfl (by decide) (by decide) (.null (.destroys rfl rfl
      (.lowers rfl (by decide) (by decide) (.lowers rfl (by decide) (by decide) .here)))))⟩
  obtain ⟨moment, walked⟩ := course
  obtain ⟨-, later, rfl, remaining⟩ := moments _ _ _ walked
  cases remaining
  have charged : world.heaps.modify 0 (·.destroy 2) = #[{ live := 2, allocated := 4 }] := by decide
  exact ⟨exact, count, last, charged ▸ ended, whole⟩

end CountBridge
