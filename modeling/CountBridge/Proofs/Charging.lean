import CountBridge.Proofs.Census

/-! Which heap is charged. All that an action makes and destroys is charged to the heap that it asks, or to
the bound one where it asks the bridge, and so is what leaving a body gives back. From that the counters
of all heaps follow in whatever state a program comes through. -/

namespace CountBridge

variable {heap : HeapId}

/-- Entries of a single heap are told by their objects. -/
theorem map_of_sole {entries : List (HeapId × ObjectId)} (sole : ∀ entry ∈ entries, entry.1 = heap) :
    entries = (entries.map (·.2)).map (heap, ·) := by
  rw [List.map_map]
  conv_lhs => rw [← List.map_id entries]
  exact List.map_congr_left fun entry member => Prod.ext (sole entry member) rfl

namespace Program

variable {α : Type}

def Stage.born (stage : Stage) : List ObjectId :=
  List.range' stage.before.allocated (stage.after.allocated - stage.before.allocated)

/-- The objects that lived before a step, or came into being in it, and do not live after it. -/
def Stage.died (stage : Stage) : List ObjectId :=
  (List.range stage.after.allocated).filter fun id =>
    (stage.before.isLive id || decide (stage.before.allocated ≤ id)) && !stage.after.isLive id

def Stage.births (stage : Stage) : List (HeapId × ObjectId) :=
  stage.through?.toList.flatMap fun heap => stage.born.map (heap, ·)

def Stage.deaths (stage : Stage) : List (HeapId × ObjectId) :=
  stage.through?.toList.flatMap fun heap => stage.died.map (heap, ·)

end Program

namespace World

open Program (Stage)

variable {before after : World} {births deaths deaths' : List (HeapId × ObjectId)} {heap? : Option HeapId}

theorem Census.perm (census : before.Census births deaths after) (same : deaths.Perm deaths') : before.Census births deaths' after where
  allocated := census.allocated
  born := census.born
  once := (same.map _).nodup_iff.mp census.once
  gone id := by rw [← census.gone id, (same.map _).mem_iff]
  lives := census.lives
  balance := by rw [← same.length_eq, census.balance]
  opened := census.opened
  housed entry member := census.housed entry (((same.append_left births).mem_iff).mpr member)
  total := census.total
  live heap := by rw [census.live, through, through, through, same.countP_eq]
  tallied := census.tallied

theorem Census.mem_died (census : before.Census births deaths after) (id : ObjectId) :
    id ∈ Stage.died ⟨heap?, before.store, after.store⟩ ↔ id ∈ deaths.map (·.2) := by
  have inside : id ∈ births.map (·.2) ↔ before.store.allocated ≤ id ∧ id < after.store.allocated := census.mem_born
  rw [census.gone, inside, Stage.died, List.mem_filter, List.mem_range]
  simp only [Bool.and_eq_true, Bool.or_eq_true, decide_eq_true_eq, Bool.not_eq_true']
  constructor
  · rintro ⟨known, lives | late, dead⟩
    · exact ⟨.inl lives, dead⟩
    · exact ⟨.inr ⟨late, known⟩, dead⟩
  · rintro ⟨lives | ⟨late, known⟩, dead⟩
    · exact ⟨census.lt_allocated (.inl lives), .inl lives, dead⟩
    · exact ⟨known, .inr late, dead⟩

/-- What came and went through the one heap is what can be seen from the objects before and after. -/
theorem Census.stage (census : before.Census births deaths after) (sole : ∀ entry ∈ births ++ deaths, heap? = some entry.1) :
    before.Census (Stage.births ⟨heap?, before.store, after.store⟩) (Stage.deaths ⟨heap?, before.store, after.store⟩) after := by
  cases heap? with
  | none =>
    have nothing : births ++ deaths = [] := List.eq_nil_iff_forall_not_mem.mpr fun entry member => nomatch sole entry member
    obtain ⟨rfl, rfl⟩ := List.append_eq_nil_iff.mp nothing
    exact census
  | some heap =>
    have labels (entry : HeapId × ObjectId) (member : entry ∈ births ++ deaths) : entry.1 = heap :=
      (Option.some.inj (sole entry member)).symm
    have born : births = Stage.births ⟨some heap, before.store, after.store⟩ := by
      rw [map_of_sole fun entry member => labels entry (List.mem_append_left _ member), census.born]
      simp [Stage.births, Stage.born, census.allocated]
    have died : deaths.Perm (Stage.deaths ⟨some heap, before.store, after.store⟩) := by
      rw [map_of_sole fun entry member => labels entry (List.mem_append_right _ member)]
      have distinct : (Stage.died ⟨some heap, before.store, after.store⟩).Nodup := List.nodup_range.filter _
      have same : (deaths.map (·.2)).Perm (Stage.died ⟨some heap, before.store, after.store⟩) :=
        (List.perm_ext_iff_of_nodup census.once distinct).mpr fun id => (census.mem_died id).symm
      simpa [Stage.deaths] using same.map (heap, ·)
    rw [← born]
    exact census.perm died

theorem Descends.stage (descends : before.Descends heap? after) :
    before.Census (Stage.births ⟨heap?, before.store, after.store⟩) (Stage.deaths ⟨heap?, before.store, after.store⟩) after := by
  obtain ⟨births, deaths, census, sole⟩ := descends.census
  exact census.stage sole

/-- All heaps that may be used are there. -/
theorem steady_lodged (count : Nat) : World.Steady false (· < count) fun world =>
    world.heaps.size = count ∧ ∀ binding, world.binding? = some binding → binding.heap < count where
  event _ known := known
  ask _ _ _ known := known
  breach known := known
  share _ _ known := known
  word _ _ known := ⟨Array.size_modify.trans known.1, known.2⟩
  complain _ _ known := ⟨Array.size_modify.trans known.1, known.2⟩
  spend _ _ known := ⟨Array.size_modify.trans known.1, known.2⟩
  allocate _ _ known := ⟨Array.size_modify.trans known.1, known.2⟩
  grow _ _ known := known
  boot _ known := ⟨Array.size_modify.trans known.1, known.2⟩
  bind config inside known := by
    refine ⟨known.1, fun binding found => ?_⟩
    cases found
    exact inside
  bound known found := known.2 _ found
  aside known _ heaps bound := ⟨by rw [heaps, known.1], bound⟩

end World

namespace Program

open World

variable {program : List (Op α)} {start s t u session : Session α} {action : Action} {heap? : Option HeapId} {stages : List Stage}

structure Session.Lodged (session : Session α) : Prop where
  named : ∀ heap ∈ session.heaps.map (·.2), heap < session.world.heaps.size
  bound : ∀ binding, session.world.binding? = some binding → binding.heap < session.world.heaps.size

theorem steady_lodged : Session.Steady (α := α) false Session.Lodged where
  elsewhere lodged _ heaps bound names := ⟨by rw [names, heaps]; exact lodged.named, by rw [bound, heaps]; exact lodged.bound⟩
  opens name lodged := by
    refine ⟨fun heap member => ?_, fun binding found => ?_⟩
    · rw [Session.size_withNewHeap]
      rcases List.mem_cons.mp member with rfl | earlier
      · exact Nat.lt_succ_self _
      · exact Nat.lt_succ_of_lt (lodged.named heap earlier)
    · exact (lodged.bound binding found).trans (Session.size_withNewHeap _ name ▸ Nat.lt_succ_self _)
  acts {session} lodged := by
    refine ⟨_, _, World.steady_lodged session.world.heaps.size, ⟨rfl, lodged.bound⟩, lodged.named, fun world kept => ?_⟩
    exact ⟨fun heap member => kept.1 ▸ lodged.named heap member, fun binding found => kept.1 ▸ kept.2 binding found⟩

theorem lodged_start (origin : Nat) (watched : Bool) : (Session.start α origin watched).Lodged where
  named heap member := by
    obtain rfl := List.mem_singleton.mp member
    exact Nat.one_pos
  bound := nofun

theorem Session.Lodged.boundHeap (lodged : s.Lodged) (heap : HeapId) (bound : s.world.boundHeap? = some heap) :
    heap < s.world.heaps.size := by
  obtain ⟨binding, found, rfl⟩ := Option.map_eq_some_iff.mp bound
  exact lodged.bound binding found

/-- What the bridge does is charged to the bound heap. -/
theorem bridged_confined (lodged : s.Lodged) : Session.Bridged (α := α) false fun session =>
    s.world.Confined s.world.boundHeap? session.world where
  elsewhere confined store heaps bound _ := ⟨confined.aside store heaps, by rw [bound]; exact confined.bound⟩
  bridges confined := ⟨_, _, World.steady_confined lodged.boundHeap, confined, fun _ kept => kept⟩

theorem confined_bound (world : World) : world.Confined world.boundHeap? world :=
  ⟨.refl _ _, fun _ found => Option.map_eq_some_iff.mpr ⟨_, found, rfl⟩⟩

/-- What is done on a heap is charged to the one that its name means. -/
theorem apart_descends (s : Session α) (name : Name) : Session.Apart (α := α) fun session =>
    session.heaps = s.heaps ∧ s.world.Descends (lookup name s.heaps) session.world where
  elsewhere known store heaps _ names := ⟨names.trans known.1, known.2.aside store heaps⟩

theorem sturdy_descends (lodged : s.Lodged) (name : Name) (heap : HeapId) : Session.Sturdy (α := α) false heap
    (Session.Naming (fun session => session.heaps = s.heaps ∧ s.world.Descends (lookup name s.heaps) session.world) name heap) where
  toApart := (apart_descends s name).naming name heap
  crafts := by
    rintro session ⟨⟨names, descends⟩, meant⟩
    have inside (heap : HeapId) (found : lookup name s.heaps = some heap) : heap < s.world.heaps.size :=
      lodged.named heap (mem_of_lookup found)
    exact ⟨_, _, World.sturdy_descends inside, descends, names ▸ meant, fun world kept => ⟨⟨names, kept⟩, meant⟩⟩

theorem stage_act (lodged : s.Lodged) (action : Action) :
    let stage : Stage := ⟨action.through? s, s.world.store, (ends (runOp (.act action)) s).2.world.store⟩
    s.world.Census stage.births stage.deaths (ends (runOp (.act action)) s).2.world := by
  dsimp only
  rw [runOp]
  cases asks : action.heap? with
  | some name =>
    have lenient (heap mess : Name) (keep : Option Name) (_ : action = .newError heap mess keep) (never : false = true) :
        action.Plain s := absurd never Bool.false_ne_true
    have kept := kept_native (apart_descends s name) (sturdy_descends lodged name) asks lenient ⟨rfl, .refl _ _⟩
    rw [Action.through?, asks]
    exact (kept_recorded (apart_descends s name) action.name (perform action) s kept).2.stage
  | none =>
    by_cases opened : ∃ name, action = .openHeap name
    · obtain ⟨name, rfl⟩ := opened
      have another : s.world.Census [] [] (ends (recorded (Action.openHeap name).name (perform (.openHeap name))) s).2.world :=
        census_opened rfl rfl
      exact another.stage fun _ member => absurd member List.not_mem_nil
    · have bridged := bridged_confined lodged
      have kept := maintains_bridging bridged action asks (fun name same => opened ⟨name, same⟩) s (confined_bound s.world)
      rw [Action.through?, asks]
      exact (kept_recorded bridged.toApart action.name (perform action) s kept).stage

/-- Each step of a run is charged to the heap through which it goes, and to no other. -/
theorem Advances.stage (step : Advances program start s heap? t) (lodged : s.Lodged) :
    let stage : Stage := ⟨heap?, s.world.store, t.world.store⟩
    s.world.Census stage.births stage.deaths t.world := by
  have untouched : Session.Apart (α := α) fun session => s.world.Descends none session.world :=
    ⟨fun descends store heaps _ _ => descends.aside store heaps⟩
  have bridged := bridged_confined lodged
  have still := confined_bound s.world
  cases step with
  | acts begun => exact stage_act lodged _
  | refuses begun composed missing => exact (kept_unentered untouched missing composed (.refl _ _)).stage
  | enters begun entry => exact (kept_entered untouched entry (.refl _ _)).stage
  | leaves begun entry ran => exact (kept_left bridged entry ran still).stage
  | drops begun entry ran innermost divided ended => exact (kept_dropped bridged ended still).stage
  | uncaught begun left => exact (kept_uncaught bridged left still).stage
  | finishes ran ended => exact (kept_finished bridged ran ended still).stage

theorem Leads.lodged (leads : Leads program start s stages t) (lodged : s.Lodged) : t.Lodged :=
  leads.kept (fun step => step.kept steady_lodged nofun) lodged

theorem Leads.census (leads : Leads program start s stages t) (lodged : s.Lodged) :
    s.world.Census (stages.flatMap Stage.births) (stages.flatMap Stage.deaths) t.world := by
  induction leads with
  | here => exact census_aside rfl rfl
  | later earlier step ih =>
    rw [List.flatMap_append, List.flatMap_append, List.flatMap_singleton, List.flatMap_singleton]
    exact ih.trans (step.stage (earlier.lodged lodged))

/-- An operation, however it ends, leads on from where it began, and lowers no heap's total, as long as
fewer than 2^64 objects were ever made. -/
theorem Begun.counts_up {above : List (Op α × Session α)} {op : Op α} (begun : Begun program start above op s)
    (lodged : start.Lodged) (empty : start.world.store = {}) (fresh : start.world.heaps = #[{}]) :
    ∃ stages, Leads program start s stages (ends (runOp op) s).2 ∧
      ((ends (runOp op) s).2.world.store.allocated < UInt64.size →
        ∀ heap, (s.world.counters heap).total ≤ ((ends (runOp op) s).2.world.counters heap).total) := by
  obtain ⟨earlier, led⟩ := begun.comes
  obtain ⟨stages, leads⟩ := comes_op op begun
  refine ⟨stages, leads, fun few heap => ?_⟩
  have before := (led.census lodged).accounted empty fresh
  have after := ((led.trans leads).census lodged).accounted empty fresh
  have grown : s.world.store.allocated ≤ (ends (runOp op) s).2.world.store.allocated := by
    rw [(leads.census (led.lodged lodged)).allocated]
    exact Nat.le_add_right ..
  rw [before.exact (grown.trans_lt few), after.exact few, List.flatMap_append, through_append]
  exact Nat.le_add_right ..

/-- Whatever state a program comes through, single steps lead to it. Each step is charged to the heap
through which it goes: the one that an action asks, the bound one for all that the bridge does, and
none where nothing is done. What the steps made and destroyed accounts for all objects and for the
counters of all heaps. An operation, however it ends, goes on from there and lowers no total. -/
theorem heaps_accounted (program : List (Op α)) (origin : Nat) (watched : Bool) :
    let start := Session.start α origin watched
    (∀ session hand, Reached program start session hand → ∃ stages, Leads program start start stages session) ∧
    (∀ stages session, Leads program start start stages session →
      session.world.Accounted (stages.flatMap Stage.births) (stages.flatMap Stage.deaths) ∧
      ∀ heap? next, Advances program start session heap? next →
        let stage : Stage := ⟨heap?, session.world.store, next.world.store⟩
        session.world.Census stage.births stage.deaths next.world) ∧
    ∀ above op s, Begun program start above op s → ∃ stages, Leads program start s stages (ends (runOp op) s).2 ∧
      ((ends (runOp op) s).2.world.store.allocated < UInt64.size →
        ∀ heap, (s.world.counters heap).total ≤ ((ends (runOp op) s).2.world.counters heap).total) := by
  intro start
  have lodged : start.Lodged := lodged_start origin watched
  refine ⟨fun session hand reached => reached.comes, fun stages session leads => ⟨?_, fun heap? next step => ?_⟩, ?_⟩
  · exact (leads.census lodged).accounted rfl rfl
  · exact step.stage (leads.lodged lodged)
  · exact fun above op s begun => begun.counts_up lodged rfl rfl

/-- Bytes in a vector in a vector, all of them of the first heap, and a plain object of a second one. -/
def estranged : List (Op Unit) :=
  [.act (.bootstrap mainHeap {} hookVersion), .act (.openHeap "other"), .act (.boot "other"),
    .act (.newPlain "other" "Plain" (some "p")), .act (.newBytes mainHeap ⟨#[1]⟩ (some "b")),
    .act (.newBytes mainHeap ⟨#[2]⟩ (some "c")), .act (.newVector mainHeap (some "v")), .act (.newVector mainHeap (some "w")),
    .act (.push mainHeap "v" "b"), .act (.push mainHeap "v" "c"), .act (.push mainHeap "w" "v")]

/-- A push that fails gives the outer vector back through the second heap. That heap made the plain object, and
now an error and its message; all four objects of the first heap die through it, so its counter turns over. -/
theorem heaps_accounted_estranged :
    let op : Op Unit := .act (.push "other" "p" "w")
    let start := Session.start Unit Address.spacing false
    ∃ (s t : Session Unit) (stages : List Stage), ends (runOp op) s = (.error (.native ⟨.error, some 6⟩), t) ∧
      Leads (estranged ++ [op]) start start stages s ∧ Advances (estranged ++ [op]) start s (some 1) t ∧
      s.world.Accounted (stages.flatMap Stage.births) (stages.flatMap Stage.deaths) ∧
      through 0 (stages.flatMap Stage.births) = 4 ∧ through 1 (stages.flatMap Stage.births) = 1 ∧
      s.world.Census [(1, 5), (1, 6)] [(1, 1), (1, 2), (1, 3), (1, 4)] t.world ∧
      t.world.counters 0 = ⟨4, 4, true⟩ ∧ t.world.counters 1 = ⟨0 - 1, 3, true⟩ := by
  intro op start
  have shown : let ended := ends (runEach estranged) start
      (ended.1, ended.2.heaps, ended.2.world.heaps.toList, ended.2.world.store.allocated) =
        (.ok (), [("other", 1), (mainHeap, 0)], [⟨4, 4, true⟩, ⟨1, 1, true⟩], 5) := by cbv
  have left : let begun := (ends (runEach estranged) start).2
      let ended := ends (runOp op) begun
      let stage : Stage := ⟨some 1, begun.world.store, ended.2.world.store⟩
      (ended.1, ended.2.world.heaps.toList, stage.births, stage.deaths) =
        (.error (.native ⟨.error, some 6⟩), [⟨4, 4, true⟩, ⟨0 - 1, 3, true⟩], [(1, 5), (1, 6)],
          [(1, 1), (1, 2), (1, 3), (1, 4)]) := by cbv
  rcases ran : ends (runEach estranged) start with ⟨outcome, s⟩
  rw [ran] at shown left
  rcases pushed : ends (runOp op) s with ⟨failed, t⟩
  simp only [pushed, Prod.mk.injEq] at shown left
  obtain ⟨rfl, named, heaps, few⟩ := shown
  obtain ⟨rfl, heaps', births, deaths⟩ := left
  have begun : Begun (estranged ++ [op]) start [] op s := .top (.of_runEach ran)
  have step : Advances (estranged ++ [op]) start s (some 1) t := by
    have acts := Advances.acts begun
    rw [pushed] at acts
    rwa [Action.through?, Action.heap?, named] at acts
  obtain ⟨comes, leads, -⟩ := heaps_accounted (estranged ++ [op]) Address.spacing false
  obtain ⟨stages, led⟩ := comes s [] (.begins begun)
  obtain ⟨accounted, steps⟩ := leads stages s led
  have census := steps (some 1) t step
  dsimp only at census
  rw [births, deaths] at census
  have counted (heap : HeapId) : (s.world.counters heap).total = through heap (stages.flatMap Stage.births) :=
    accounted.exact (by rw [few]; decide) heap
  refine ⟨s, t, stages, pushed, led, step, accounted, ?_, ?_, census, ?_, ?_⟩
  · rw [← counted, World.counters, ← Array.getElem?_toList, heaps]
    rfl
  · rw [← counted, World.counters, ← Array.getElem?_toList, heaps]
    rfl
  · rw [World.counters, ← Array.getElem?_toList, heaps']
    rfl
  · rw [World.counters, ← Array.getElem?_toList, heaps']
    rfl

end Program

end CountBridge
