import Mathlib
import CountBridge.Proofs.Nesting

/-! Who holds the units of an object. In whatever state a program comes through, the
count of a live object is the number of places that hold a unit of it: wrappers,
the queue, errors whose message it is, items of vectors, and the program itself. -/

namespace CountBridge

variable {id : ObjectId}

def Object.items (object : Object) : List Handle :=
  match object.payload with
  | .vector items => items.toList
  | _ => []

def Store.objects (store : Store) : List Object := store.places.toList.reduceOption

theorem count_unitsOf (handles : List Handle) : (unitsOf handles).count id = handles.count (some id) := by
  induction handles with
  | nil => rfl
  | cons handle rest ih =>
    rw [unitsOf_cons, Multiset.count_add, ih, List.count_cons, add_comm]
    cases handle with
    | none => rfl
    | some other =>
      simp only [unitOf_some, Multiset.count_singleton, beq_iff_eq, Option.some.injEq]
      grind

/-- An object owns its message, or its items. -/
theorem count_payload (object : Object) :
    object.payload.units.count id = (if object.message = some id then 1 else 0) + object.items.count (some id) := by
  obtain ⟨count, payload⟩ := object
  rw [Payload.units, count_unitsOf]
  cases payload with
  | error mess =>
    simp only [Payload.slots, Object.message, Object.items, List.count_singleton, List.count_nil, beq_iff_eq]
    rfl
  | vector items => simp [Payload.slots, Object.message, Object.items]
  | plain name => rfl
  | string bytes => rfl
  | bytes bytes => rfl

theorem Store.count_owned (store : Store) :
    store.owned.count id = store.objects.countP (·.message = some id) +
      (store.objects.map fun object => object.items.count (some id)).sum := by
  unfold owned objects
  induction store.places.toList with
  | nil => rfl
  | cons place rest ih =>
    rw [List.map_cons, List.sum_cons, Multiset.count_add, ih]
    cases place with
    | none => simp
    | some object =>
      rw [List.reduceOption_cons_of_some, List.countP_cons, List.map_cons, List.sum_cons, Option.elim_some,
        count_payload]
      simp only [decide_eq_true_eq]
      omega

def Unwind.wrappers : Unwind → List Wrapper
  | .native err => [err]
  | .text _ | .number _ | .fault _ => []

namespace Program

variable {α : Type}

def Progress.wrappers (progress : Progress) : List Wrapper :=
  match progress.outcome with
  | .ok () => []
  | .error payload => payload.wrappers

theorem count_unitsIn (wrappers : Multiset Wrapper) :
    (unitsIn wrappers).count id = wrappers.countP (·.handle = some id) := by
  induction wrappers using Multiset.induction_on with
  | empty => rfl
  | cons wrapper rest ih =>
    rw [Multiset.countP_cons, ← ih, ← Multiset.singleton_add, unitsIn_add, Multiset.count_add, unitsIn_singleton,
      add_comm]
    cases wrapper.handle with
    | none => rfl
    | some other =>
      simp only [unitOf_some, Multiset.count_singleton, Option.some.injEq]
      grind

/-- How many places hold a unit of an object: wrappers in scopes and `hand`, the queue, errors
whose message it is, items of vectors, and the units that belong to the program itself. -/
def Session.holders (session : Session α) (hand : List Wrapper) (id : ObjectId) : Nat :=
  (contents session.frames + ↑hand).countP (·.handle = some id) +
    session.world.queued.count id +
    session.world.store.objects.countP (·.message = some id) +
    (session.world.store.objects.map fun object => object.items.count (some id)).sum +
    session.units.count id

/-- A session that a program comes through, with the wrappers that are on their way in it: one
may travel with what unwinds, and those of a scope that is left are dropped one after another. -/
inductive Reached (program : List (Op α)) (start : Session α) : Session α → List Wrapper → Prop
  | begins {above op s} (begun : Begun program start above op s) : Reached program start s []
  | completes {above op s t} (begun : Begun program start above op s) (ended : ends (runOp op) s = (.ok (), t)) :
      Reached program start t []
  | unwinds {above op s payload t} (begun : Begun program start above op s)
      (left : ends (runOp op) s = (.error payload, t)) : Reached program start t payload.wrappers
  | drops {above op s entered progress t frame outer dropped rest u} (begun : Begun program start above op s)
      (entry : op.entry? s = some entered) (ran : ends (runBody op.body) entered = (.ok progress, t))
      (innermost : t.frames = frame :: outer) (divided : frame.wrappers.map (·.2) = dropped ++ rest)
      (ended : ends (lift (Wrapper.dropAll dropped)) { t with frames := outer } = (.ok (), u)) :
      Reached program start u (rest ++ frame.guard?.toList ++ progress.wrappers)
  | finishes {t} (ended : ends (runAll program) start = (.ok (), t)) : Reached program start t []

variable {program : List (Op α)} {start session : Session α} {hand : List Wrapper}

theorem unitsIn_wrappers (payload : Unwind) : unitsIn ↑payload.wrappers = payload.units := by
  cases payload with
  | native err => simp [Unwind.wrappers, Unwind.units]
  | text message => rfl
  | number value => rfl
  | fault cause => rfl

theorem Progress.unitsIn_wrappers (progress : Progress) : unitsIn ↑progress.wrappers = progress.units := by
  obtain ⟨begun, outcome⟩ := progress
  cases outcome with
  | ok value => rfl
  | error payload => exact Program.unitsIn_wrappers payload

theorem wrapped_of_mem {payload : Unwind} {wrapper : Wrapper} (member : wrapper ∈ payload.wrappers)
    (present : wrapper.handle ≠ none) : payload.isWrapped = true := by
  cases payload with
  | native err =>
    obtain rfl : wrapper = err := List.mem_singleton.mp member
    exact Option.isSome_iff_ne_none.mpr present
  | text message => cases member
  | number value => cases member
  | fault cause => cases member

theorem Progress.wrapped_of_mem {progress : Progress} {wrapper : Wrapper} (member : wrapper ∈ progress.wrappers)
    (present : wrapper.handle ≠ none) : progress.isWrapped = true := by
  obtain ⟨begun, outcome⟩ := progress
  cases outcome with
  | ok value => cases member
  | error payload => exact Program.wrapped_of_mem member present

/-- Where wrappers point at objects, a system is bound. -/
theorem Session.Linked.bound_of_mem {late bound : Bool} {held : Multiset ObjectId} {s t : Session α}
    (linked : Session.Linked late bound held s t) {wrapper : Wrapper} (member : wrapper ∈ contents t.frames)
    (present : wrapper.handle ≠ none) : bound = true := by
  by_contra unknown
  exact present (linked.idle (eq_false_of_ne_true unknown) wrapper member)

/-- Some wrappers of a scope are dropped, and the others are in hand. -/
theorem linked_dropped {frame : Frame} {outer : List Frame} {dropped rest : List Wrapper} {bound : Bool}
    {held : Multiset ObjectId} {t u : Session α} (linked : Session.Linked false bound held t t)
    (innermost : t.frames = frame :: outer) (divided : frame.wrappers.map (·.2) = dropped ++ rest)
    (ended : ends (lift (Wrapper.dropAll dropped)) { t with frames := outer } = (.ok (), u)) (quiet : u.Quiet) :
    Session.Linked false bound (unitsIn ↑(rest ++ frame.guard?.toList) + held) u u ∧
      ∀ wrapper ∈ rest ++ frame.guard?.toList, wrapper.handle ≠ none → bound = true := by
  obtain ⟨uncovered, known⟩ := linked.uncover innermost
  have guard : unitsIn (frame.guard?.elim 0 ({·})) = unitsIn ↑frame.guard?.toList := by
    cases frame.guard? <;> simp
  have whole : unitsIn frame.contents + held =
      unitsOf (dropped.map (·.handle)) + (unitsIn ↑(rest ++ frame.guard?.toList) + held) := by
    rw [Frame.contents, unitsIn_add, guard, divided, ← unitsIn_coe, ← Multiset.coe_add, ← Multiset.coe_add, unitsIn_add,
      unitsIn_add]
    abel
  have inside (wrapper : Wrapper) (member : wrapper ∈ dropped ++ (rest ++ frame.guard?.toList)) :
      wrapper ∈ frame.contents := by
    rw [← List.append_assoc, ← divided] at member
    rw [Frame.contents, Multiset.mem_add]
    rcases List.mem_append.mp member with member | member
    · exact .inl (Multiset.mem_coe.mpr member)
    · rw [Option.mem_toList] at member
      rw [member]
      exact .inr (Multiset.mem_singleton_self _)
  have sim : Sim Session.course
      (Session.Linked (α := α) false bound
        (unitsOf (dropped.map (·.handle)) + (unitsIn ↑(rest ++ frame.guard?.toList) + held)))
      (lift (Wrapper.dropAll dropped)) (lift (Wrapper.dropAll dropped)) Eq
      (fun _ _ => Session.Linked false bound (unitsIn ↑(rest ++ frame.guard?.toList) + held)) fun _ _ _ => False :=
    sim_lift_spends (Wrapper.keeps_dropAll dropped fun wrapper member =>
      known wrapper (inside wrapper (List.mem_append_left _ member)))
  rcases ends_alone sim (uncovered.congr whole) (by rwa [ended]) with ⟨value, after, left, -, met⟩ | ⟨_, _, _, never⟩
  · rw [ended] at left
    cases left
    exact ⟨met, fun wrapper member => known wrapper (inside wrapper (List.mem_append_right _ member))⟩
  · exact never.elim

/-- The accounts are exact in every state on the way, with the wrappers in hand. -/
theorem Reached.standing (reached : Reached program start session hand) (fair : Fair false 0 start) (quiet : session.Quiet) :
    ∃ bound, session.world.Sound bound (session.holdings + unitsIn ↑hand) ∧
      ∀ wrapper ∈ contents session.frames + ↑hand, wrapper.handle ≠ none → bound = true := by
  cases reached with
  | begins begun =>
    obtain ⟨bound, -, linked⟩ := begun.fair fair quiet
    exact ⟨bound, linked.world.sound, fun wrapper member => linked.bound_of_mem (by simpa using member)⟩
  | completes begun ended =>
    obtain ⟨bound, -, linked⟩ := begun.fair_end fair ended quiet
    exact ⟨bound, linked.world.sound, fun wrapper member => linked.bound_of_mem (by simpa using member)⟩
  | unwinds begun left =>
    obtain ⟨bound, wrapped, linked⟩ := begun.fair_end fair left quiet
    rw [unitsIn_wrappers]
    refine ⟨bound, linked.world.sound, fun wrapper member present => ?_⟩
    rcases Multiset.mem_add.mp member with member | member
    · exact linked.bound_of_mem member present
    · exact wrapped (wrapped_of_mem (Multiset.mem_coe.mp member) present)
  | @drops above op s entered progress t frame outer dropped rest _ begun entry ran innermost divided ended =>
    have settles : Settles false true _ (Wrapper.dropAll dropped) (Wrapper.dropAll dropped) Eq fun _ => 0 :=
      Wrapper.keeps_dropAll dropped fun _ _ _ => rfl
    have onward := goes_lift (α := α) (settles 0).onward { t with frames := outer }
    rw [ended] at onward
    obtain ⟨bound, wrapped, body⟩ := begun.fair_body fair entry ran (Session.course.quiet_of_order onward quiet)
    obtain ⟨linked, known⟩ := linked_dropped body innermost divided ended quiet
    rw [← Multiset.coe_add, unitsIn_add, Progress.unitsIn_wrappers]
    refine ⟨bound, linked.world.sound, fun wrapper member present => ?_⟩
    rcases Multiset.mem_add.mp member with member | member
    · exact linked.bound_of_mem member present
    · rcases Multiset.mem_add.mp member with member | member
      · exact known wrapper (Multiset.mem_coe.mp member) present
      · exact wrapped (Progress.wrapped_of_mem (Multiset.mem_coe.mp member) present)
  | finishes ended =>
    have whole : Sim Session.course (Settled false 0) (runAll program) (runAll program) Eq (fun _ _ => Settled false 0)
        fun _ _ _ => False := sim_runAll (FollowsAll.refl program)
    rcases ends_alone whole fair (by rwa [ended]) with ⟨value, after, left, -, bound, -, linked⟩ | ⟨_, _, _, never⟩
    · rw [ended] at left
      cases left
      exact ⟨bound, linked.world.sound, fun wrapper member => linked.bound_of_mem (by simpa using member)⟩
    · exact never.elim

theorem Reached.sound (reached : Reached program start session hand) (fair : Fair false 0 start) (quiet : session.Quiet) :
    session.world.Sound session.world.isBound (session.holdings + unitsIn ↑hand) := by
  obtain ⟨bound, sound, -⟩ := reached.standing fair quiet
  exact ⟨sound.exact, sound.booted, id⟩

theorem Reached.exact (reached : Reached program start session hand) (fair : Fair false 0 start) (quiet : session.Quiet) :
    session.world.store.Exact (session.world.queued + (session.holdings + unitsIn ↑hand)) :=
  (reached.sound fair quiet).exact

/-- In every state on the way, the count of an object is the number of places that hold a unit
of it; there is at least one for a live object, and none for a destroyed one. -/
theorem Reached.count_eq_holders (origin : Nat) (watched : Bool)
    (reached : Reached program (Session.start α origin watched) session hand) (fits : session.world.turnedOver = false)
    (lawful : session.world.breached = false) (id : ObjectId) :
    match session.world.store.find? id with
    | some object => 1 ≤ object.count.toNat ∧ object.count.toNat = session.holders hand id
    | none => session.holders hand id = 0 := by
  have exact := reached.exact (fair_start origin watched) ⟨fits, lawful⟩
  have counted : session.world.store.units id = session.holders hand id := by
    rw [exact.counted, Multiset.count_add, Store.count_owned, Multiset.count_add, Multiset.count_add, Session.holdings,
      Multiset.count_add, count_unitsIn, count_unitsIn, Session.holders, Multiset.countP_add, Multiset.coe_count]
    omega
  cases found : session.world.store.find? id with
  | some object =>
    rw [Store.units_of_found found] at counted
    have positive := exact.positive id object found
    refine ⟨?_, counted⟩
    rw [Nat.one_le_iff_ne_zero]
    exact fun zero => positive (UInt32.toNat_inj.mp zero)
  | none =>
    rw [Store.units_of_missing found] at counted
    exact counted.symm

/-- A raised error has one unit in the wrapper that travels, and one in its clone. -/
theorem Reached.count_eq_holders_raised :
    let start := Session.start Unit Address.spacing false
    let earlier : List (Op Unit) :=
      [.act (.bootstrap mainHeap {} hookVersion), .act (.makeError "boom" (some "e")), .act (.clone "e" (some "f"))]
    ∃ session err, Reached (earlier ++ [.act (.raise "e")]) start session [err] ∧
      (session.world.store.find? 1).map (·.count.toNat) = some (session.holders [err] 1) ∧
      session.holders [err] 1 = 2 := by
  intro start earlier
  have ran : (ends (runEach earlier) start).1 = .ok () := by cbv
  have left : (ends (runOp (.act (.raise "e"))) (ends (runEach earlier) start).2).1 = .error (.native ⟨.error, some 1⟩) := by cbv
  have counts : ((ends (runOp (.act (.raise "e"))) (ends (runEach earlier) start).2).2.world.store.find? 1).map (·.count.toNat) =
      some 2 := by cbv
  have fits : (ends (runOp (.act (.raise "e"))) (ends (runEach earlier) start).2).2.world.turnedOver = false := by cbv
  have lawful : (ends (runOp (.act (.raise "e"))) (ends (runEach earlier) start).2).2.world.breached = false := by cbv
  rcases cloning : ends (runEach earlier) start with ⟨outcome, cloned⟩
  rw [cloning] at ran left counts fits lawful
  cases ran
  rcases raising : ends (runOp (.act (.raise "e"))) cloned with ⟨outcome, raised⟩
  rw [raising] at left counts fits lawful
  cases left
  have reached : Reached (earlier ++ [.act (.raise "e")]) start raised [⟨.error, some 1⟩] :=
    .unwinds (.top (.of_runEach cloning)) raising
  have exact := reached.count_eq_holders Address.spacing false fits lawful 1
  obtain ⟨object, found, two⟩ := Option.map_eq_some_iff.mp counts
  rw [found] at exact
  exact ⟨raised, _, reached, by rw [found, Option.map_some, exact.2], exact.2.symm.trans two⟩

end Program

end CountBridge
