import CountBridge.Proofs.Lasting
import CountBridge.Proofs.Running

/-! Releases that wait, in the order in which they came. What is collected and what still
waits are together what was dropped; only few ever wait; and whatever is given back
at once passes the queue by. -/

namespace CountBridge

open Bridge World

def Call.given? : Call → Option ObjectId
  | .decrement id _ => some id
  | _ => none

/-- The answer to a coercion, which is a temporary string of the bridge. -/
def Call.coerced? : Call → Option ObjectId
  | .toStringReturned answer => some answer
  | _ => none

def Entry.call? : Entry → Option Call
  | .call made _ => some made
  | _ => none

def decrements (journal : Array Entry) : List ObjectId := journal.toList.filterMap fun entry => entry.call?.bind Call.given?

def temporaries (journal : Array Entry) : List ObjectId := journal.toList.filterMap fun entry => entry.call?.bind Call.coerced?

def added (told : Array Entry → List ObjectId) (routine : Bridge α) (world : World) : List ObjectId :=
  (told (ends routine world).2.journal).drop (told world.journal).length

def World.waiting (world : World) : List ObjectId := world.binding?.elim [] fun binding => binding.queue.items.toList

theorem waiting_of_bound {world : World} {binding : Binding} (found : world.binding? = some binding) :
    world.waiting = binding.queue.items.toList := by
  rw [waiting, found, Option.elim_some]

theorem Call.given?_of_spends {call : Call} (nothing : call.spends = 0) : call.given? = none := by
  cases call with
  | decrement id remaining => simp [spends] at nothing
  | _ => rfl

theorem Call.coerced?_of_brings {call : Call} (nothing : call.brings = 0) : call.coerced? = none := by
  cases call with
  | toStringReturned answer => simp [brings] at nothing
  | _ => rfl

@[simp] theorem decrements_push (journal : Array Entry) (entry : Entry) :
    decrements (journal.push entry) = decrements journal ++ (entry.call?.bind Call.given?).toList := by
  rw [decrements, Array.toList_push, List.filterMap_append, decrements]
  cases h : entry.call?.bind Call.given? <;> simp [h]

@[simp] theorem temporaries_push (journal : Array Entry) (entry : Entry) :
    temporaries (journal.push entry) = temporaries journal ++ (entry.call?.bind Call.coerced?).toList := by
  rw [temporaries, Array.toList_push, List.filterMap_append, temporaries]
  cases h : entry.call?.bind Call.coerced? <;> simp [h]

namespace World

structure Passes (before : World) (given coerced : List ObjectId) (after : World) : Prop where
  binding : after.binding? = before.binding?
  given : decrements after.journal = decrements before.journal ++ given
  coerced : temporaries after.journal = temporaries before.journal ++ coerced

variable {before middle after : World} {given given' coerced coerced' : List ObjectId}

theorem Passes.refl (world : World) : world.Passes [] [] world := ⟨rfl, (List.append_nil _).symm, (List.append_nil _).symm⟩

theorem Passes.trans (first : before.Passes given coerced middle) (second : middle.Passes given' coerced' after) :
    before.Passes (given ++ given') (coerced ++ coerced') after :=
  ⟨second.binding.trans first.binding, by rw [second.given, first.given, List.append_assoc],
    by rw [second.coerced, first.coerced, List.append_assoc]⟩

theorem Passes.event (passes : before.Passes given coerced after) (event : Event) :
    before.Passes given coerced { after with journal := after.journal.push (.event event) } :=
  ⟨passes.binding, by simpa [Entry.call?] using passes.given, by simpa [Entry.call?] using passes.coerced⟩

theorem Passes.call (passes : before.Passes given coerced after) (call : Call) (lawful : Bool) :
    before.Passes (given ++ call.given?.toList) (coerced ++ call.coerced?.toList)
      { after with journal := after.journal.push (.call call lawful) } :=
  ⟨passes.binding, by simp [Entry.call?, passes.given], by simp [Entry.call?, passes.coerced]⟩

/-- Only calls that spend or bring units count. -/
theorem Passes.unspent (before : World) (given coerced : List ObjectId) :
    Unspent (fun _ => True) (before.Passes given coerced) where
  event event passes := passes.event event
  ask := by
    intro world call lawful spends brings passes
    simpa [Call.given?_of_spends spends, Call.coerced?_of_brings brings] using passes.call call lawful
  breach passes := ⟨passes.binding, passes.given, passes.coerced⟩
  share _ _ passes := ⟨passes.binding, passes.given, passes.coerced⟩
  word _ _ passes := ⟨passes.binding, passes.given, passes.coerced⟩
  complain _ _ passes := ⟨passes.binding, passes.given, passes.coerced⟩
  spend _ _ passes := ⟨passes.binding, passes.given, passes.coerced⟩

end World

variable {α : Type} {world after : World} {binding : Binding} {id : ObjectId}

theorem passes_of_lasts {routine : Bridge α} (lasts : Lasts (world.Passes [] []) routine) :
    world.Passes [] [] (ends routine world).2 := lasts world (.refl world)

theorem passes_releaseHandle {answer : Unit} (ended : ends (releaseHandle id) world = (.ok answer, after)) :
    world.Passes [id] [] after := by
  obtain ⟨remaining, middle, spent, reported⟩ := ends_bind_eq_ok ended
  cases reported
  have unspent := Passes.unspent world [] []
  have given := passes_of_lasts (lasts_onBound (fun _ _ => trivial) fun heap within => unspent.decrement heap within (some id))
  rw [Bound.decrement, ends_after] at spent
  split at spent
  next answer last decremented =>
    cases spent
    rw [decremented] at given
    exact (given.call (.decrement id remaining) _).event _
  next => cases spent

theorem passes_releaseAll {world after : World} {ids : List ObjectId} {answer : Unit}
    (ended : ends (releaseAll ids) world = (.ok answer, after)) :
    world.Passes ids [] after := by
  induction ids generalizing world with
  | nil =>
    cases ended
    exact .refl _
  | cons id rest ih =>
    obtain ⟨_, middle, first, further⟩ := ends_bind_eq_ok ended
    exact (passes_releaseHandle first).trans (ih further)

theorem passes_collect {count : Nat} (found : world.binding? = some binding)
    (ended : ends collect world = (.ok count, after)) :
    count = binding.queue.pending ∧ (world.withQueue {}).Passes binding.queue.items.toList [] after := by
  rw [collect, ends_bind_ok (ends_binding found), ends_bind_ok (ends_modifyQueue found _)] at ended
  obtain ⟨_, middle, released, reported⟩ := ends_bind_eq_ok ended
  have given := passes_releaseAll released
  dsimp only at reported
  split at reported
  · cases reported
    exact ⟨rfl, given.event _⟩
  · cases reported
    exact ⟨rfl, given⟩

def World.deferring (world : World) (binding : Binding) (id : ObjectId) : World :=
  { world.withQueue (binding.queue.defer id) with
    journal := world.journal.push (.event (.deferred id (binding.queue.defer id).pending)) }

theorem binding_deferring (found : world.binding? = some binding) (id : ObjectId) :
    (world.deferring binding id).binding? = some { binding with queue := binding.queue.defer id } := by
  simp [deferring, withQueue, found]

theorem ends_deferRelease (found : world.binding? = some binding) (id : ObjectId) :
    ends (deferRelease id) world =
      ends (if binding.config.flushThreshold.toNat ≤ (binding.queue.defer id).pending then do let _ ← collect else pure ())
        (world.deferring binding id) := by
  have deferred : (world.withQueue (binding.queue.defer id)).binding? =
      some { binding with queue := binding.queue.defer id } := by simp [withQueue, found]
  have noted : ends (report (.deferred id (binding.queue.defer id).pending)) (world.withQueue (binding.queue.defer id)) =
      (.ok (), world.deferring binding id) := ends_record _ _
  rw [deferRelease, ends_bind_ok (ends_modifyQueue found _), ends_bind_ok (ends_binding deferred), ends_bind_ok noted,
    ends_bind_ok (ends_binding (binding_deferring found id))]

/-- The last of too many is given back with those before it. -/
theorem passes_deferRelease {answer : Unit} (found : world.binding? = some binding)
    (ended : ends (deferRelease id) world = (.ok answer, after)) :
    let backlog := binding.queue.defer id
    if binding.config.flushThreshold.toNat ≤ backlog.pending then
      (world.withQueue {}).Passes backlog.items.toList [] after
    else (world.withQueue backlog).Passes [] [] after := by
  intro backlog
  rw [ends_deferRelease found] at ended
  split
  next many =>
    rw [if_pos many] at ended
    obtain ⟨count, last, collected, done⟩ := ends_bind_eq_ok ended
    cases done
    have emptied : (world.deferring binding id).withQueue {} =
        { world.withQueue {} with journal := (world.deferring binding id).journal } := by
      simp [deferring, withQueue, found]
    have given := (passes_collect (binding_deferring found id) collected).2
    rw [emptied] at given
    exact ((Passes.refl _).event _).trans given
  next few =>
    rw [if_neg few] at ended
    obtain rfl : world.deferring binding id = after := congrArg Prod.snd ended
    exact (Passes.refl _).event _

/-- A coercion that answers has made one temporary. -/
theorem passes_toString (world : World) (id : ObjectId) :
    world.Passes [] (ends (Bound.toString id) world).1.toOption.toList (ends (Bound.toString id) world).2 := by
  have unspent := Passes.unspent world [] []
  have lasts : Lasts _ (Bound.before (.live id) (.toString id) (do Native.toString (← Bound.heap) id)) :=
    unspent.before rfl rfl (lasts_onBound (fun _ _ => trivial) fun _ within => unspent.toString within)
  have asked := passes_of_lasts lasts
  rw [Bound.toString]
  rcases seen : ends (Bound.before (.live id) (.toString id) do Native.toString (← Bound.heap) id) world with
    ⟨payload | answer, middle⟩
  · rw [seen] at asked
    rw [ends_bind_error seen]
    exact asked
  · rw [seen] at asked
    rw [ends_bind_ok seen]
    exact asked.call (.toStringReturned answer) _

theorem passes_coerce {outcome : Except Wrapper ObjectId} (ended : ends (trap (Bound.toString id)) world = (.ok outcome, after)) :
    world.Passes [] outcome.toOption.toList after := by
  have passes := passes_toString world id
  rw [trap, ends_bind, ends_outcomeOf] at ended
  generalize ends (Bound.toString id) world = coercion at passes ended
  obtain ⟨payload | answer, middle⟩ := coercion
  · obtain ⟨err, last, intercepted, rest⟩ := ends_bind_eq_ok ended
    have trapped := passes_of_lasts ((Passes.unspent middle [] []).intercept payload)
    rw [show ends (intercept payload) middle = (.ok err, last) from intercepted] at trapped
    cases rest
    exact passes.trans trapped
  · cases ended
    exact passes

/-- Whatever a temporary was made for, it is given back before the text is returned. -/
theorem passes_extractText {handle : Handle} {outcome : Except Wrapper String}
    (ended : ends (extractText handle) world = (.ok outcome, after)) :
    ∃ coerced, world.Passes coerced coerced after := by
  cases handle with
  | none =>
    obtain rfl : world = after := congrArg Prod.snd ended
    exact ⟨[], .refl world⟩
  | some id =>
    obtain ⟨isString, asked, first, further⟩ := ends_bind_eq_ok ended
    have looked := passes_of_lasts ((Passes.unspent world [] []).isString id)
    rw [first] at looked
    cases isString with
    | true =>
      have read := passes_of_lasts ((Passes.unspent asked [] []).copyText id)
      rw [if_pos rfl, ends_map] at further
      obtain rfl : (ends (copyText id) asked).2 = after := congrArg Prod.snd further
      exact ⟨[], looked.trans read⟩
    | false =>
      rw [if_neg Bool.false_ne_true] at further
      obtain ⟨answer, middle, coercion, rest⟩ := ends_bind_eq_ok further
      have made := passes_coerce coercion
      cases answer with
      | error err =>
        obtain rfl : middle = after := congrArg Prod.snd rest
        exact ⟨[], looked.trans made⟩
      | ok coerced =>
        obtain ⟨text, copied, reading, rest⟩ := ends_bind_eq_ok rest
        have read := passes_of_lasts ((Passes.unspent middle [] []).copyText coerced)
        rw [reading] at read
        obtain ⟨_, last, released, done⟩ := ends_bind_eq_ok rest
        obtain rfl : last = after := congrArg Prod.snd done
        exact ⟨[coerced], ((looked.trans made).trans read).trans (passes_releaseHandle released)⟩

/-- In a world with exact accounts, what always returns does so with the units that it gives. -/
theorem Keeps.returns {β : Type} {routine : Bridge β} {needs others : Multiset ObjectId} {gives : β → Multiset ObjectId}
    (settles : Settles false true needs routine routine Eq gives) (sound : world.Sound true (needs + others))
    (quiet : World.course.quiet (ends routine world).2) :
    ∃ value after, ends routine world = (.ok value, after) ∧ after.Sound true (gives value + others) := by
  have linked : World.Linked false true (needs + others) world world := ⟨sound, fun _ => rfl, nofun⟩
  rcases ((settles others).together world world linked quiet quiet.1).cases with
    ⟨value, _, after, _, ended, again, -, kept⟩ | ⟨_, _, _, _, _, never⟩
  · rw [ended] at again
    cases again
    exact ⟨value, after, ended, kept.sound⟩
  · exact never.elim

/-- What may happen to a unit that is given up, or to those that wait. -/
inductive Parting where
  | drop (wrapper : Wrapper)
  | release (wrapper : Wrapper)
  | extract (handle : Handle)
  | collect

namespace Parting

/-- Answers with an error that was met on the way, whose unit is the caller's then. -/
def carryOut : Parting → Bridge Handle
  | .drop wrapper => do
    wrapper.drop
    pure none
  | .release wrapper => do
    let _ ← wrapper.release
    pure none
  | .extract handle => do
    match ← extractText handle with
    | .ok _ => pure none
    | .error err => pure err.handle
  | .collect => do
    let _ ← CountBridge.collect
    pure none

def carryOutAll : List Parting → Bridge Unit
  | [] => pure ()
  | parting :: rest => do
    let _ ← parting.carryOut
    carryOutAll rest

def units : Parting → Multiset ObjectId
  | .drop wrapper | .release wrapper => unitOf wrapper.handle
  | .extract _ | .collect => 0

def Affords : Multiset ObjectId → World → List Parting → Prop
  | _, _, [] => True
  | held, world, parting :: rest =>
    parting.units ≤ held ∧ ∀ met after, ends parting.carryOut world = (.ok met, after) →
      Affords (unitOf met + (held - parting.units)) after rest

/-- What a parting comes to, if so many wait: the handles that are decremented, the temporaries
that were made for it, and what waits afterwards. -/
inductive Gives (config : Config) (waiting : List ObjectId) :
    Parting → List ObjectId → List ObjectId → List ObjectId → Prop
  | nothing {kind} : Gives config waiting (.drop ⟨kind, none⟩) [] [] waiting
  | prompt {kind id} (policy : config.policy = .immediate) : Gives config waiting (.drop ⟨kind, some id⟩) [id] [] waiting
  | waits {kind id} (policy : config.policy = .deferred) (few : waiting.length + 1 < config.flushThreshold.toNat) :
      Gives config waiting (.drop ⟨kind, some id⟩) [] [] (waiting ++ [id])
  | flushes {kind id} (policy : config.policy = .deferred) (many : config.flushThreshold.toNat ≤ waiting.length + 1) :
      Gives config waiting (.drop ⟨kind, some id⟩) (waiting ++ [id]) [] []
  | released {wrapper : Wrapper} : Gives config waiting (.release wrapper) wrapper.handle.toList [] waiting
  | extracted {handle coerced} : Gives config waiting (.extract handle) coerced coerced waiting
  | collected : Gives config waiting .collect waiting [] []

def disposed : List Parting → List ObjectId :=
  List.flatMap fun
    | .drop wrapper => wrapper.handle.toList
    | .release _ | .extract _ | .collect => []

def mayCollect : Parting → Bool
  | .drop _ | .collect => true
  | .release _ | .extract _ => false

/-- The handles that were decremented because a wrapper was dropped, or because the queue was
to be collected. -/
def collected : List Parting → World → List ObjectId
  | [], _ => []
  | parting :: rest, world =>
    (if parting.mayCollect then added decrements parting.carryOut world else []) ++
      collected rest (ends parting.carryOut world).2

variable {parting : Parting} {held : Multiset ObjectId}

def Moves (parting : Parting) (config : Config) (before after : World) : Prop :=
  ∃ given coerced queue, parting.Gives config before.waiting given coerced queue.items.toList ∧
    (before.withQueue queue).Passes given coerced after

/-- The queue is left alone. -/
theorem moves_passed {given coerced : List ObjectId} (found : world.binding? = some binding)
    (gives : parting.Gives binding.config world.waiting given coerced world.waiting) (passes : world.Passes given coerced after) :
    parting.Moves binding.config world after :=
  ⟨given, coerced, binding.queue, waiting_of_bound found ▸ gives, by rwa [withQueue_self found]⟩

theorem moves_deferred {answer : Unit} (kind : WrapperKind) (found : world.binding? = some binding)
    (policy : binding.config.policy = .deferred) (ended : ends (deferRelease id) world = (.ok answer, after)) :
    (drop ⟨kind, some id⟩).Moves binding.config world after := by
  have waiting := waiting_of_bound found
  have given := passes_deferRelease found ended
  dsimp only at given
  have backlog : (binding.queue.defer id).items.toList = world.waiting ++ [id] := by simp [waiting]
  have longer : (binding.queue.defer id).pending = world.waiting.length + 1 := by simp [waiting, Queue.pending]
  split at given
  next many =>
    rw [backlog] at given
    exact ⟨_, _, {}, .flushes policy (longer ▸ many), given⟩
  next few =>
    refine ⟨_, _, binding.queue.defer id, ?_, given⟩
    rw [backlog]
    exact .waits policy (longer ▸ Nat.lt_of_not_le few)

theorem moves_dropped {wrapper : Wrapper} {answer : Unit} (found : world.binding? = some binding)
    (ended : ends wrapper.drop world = (.ok answer, after)) : (drop wrapper).Moves binding.config world after := by
  obtain ⟨kind, handle⟩ := wrapper
  cases handle with
  | none =>
    obtain rfl : world = after := congrArg Prod.snd ended
    exact moves_passed found .nothing (.refl world)
  | some id =>
    change ends (dispose id) world = _ at ended
    rw [dispose, ends_bind_ok (ends_binding found)] at ended
    cases policy : binding.config.policy with
    | immediate =>
      rw [policy] at ended
      exact moves_passed found (.prompt policy) (passes_releaseHandle ended)
    | deferred =>
      rw [policy] at ended
      exact moves_deferred kind found policy ended

theorem moves_of_ends {met : Handle} (found : world.binding? = some binding)
    (ended : ends parting.carryOut world = (.ok met, after)) : parting.Moves binding.config world after := by
  cases parting with
  | drop wrapper =>
    obtain ⟨_, last, dropped, done⟩ := ends_bind_eq_ok ended
    obtain rfl : last = after := congrArg Prod.snd done
    exact moves_dropped found dropped
  | release wrapper =>
    obtain ⟨_, last, released, done⟩ := ends_bind_eq_ok ended
    obtain rfl : last = after := congrArg Prod.snd done
    obtain ⟨kind, handle⟩ := wrapper
    cases handle with
    | none =>
      obtain rfl : world = last := congrArg Prod.snd released
      exact moves_passed found .released (.refl world)
    | some id =>
      obtain ⟨_, middle, spent, rest⟩ := ends_bind_eq_ok released
      obtain rfl : middle = last := congrArg Prod.snd rest
      exact moves_passed found .released (passes_releaseHandle spent)
  | extract handle =>
    obtain ⟨outcome, last, extracted, done⟩ := ends_bind_eq_ok ended
    obtain ⟨coerced, passes⟩ := passes_extractText extracted
    obtain rfl : last = after := by cases outcome <;> exact congrArg Prod.snd done
    exact moves_passed found .extracted passes
  | collect =>
    obtain ⟨count, last, collected, done⟩ := ends_bind_eq_ok ended
    obtain rfl : last = after := congrArg Prod.snd done
    have given := (passes_collect found collected).2
    rw [← waiting_of_bound found] at given
    exact ⟨_, _, {}, .collected, given⟩

theorem settles (parting : Parting) :
    Settles false true parting.units parting.carryOut parting.carryOut Eq fun met => unitOf met := by
  cases parting with
  | drop wrapper => exact (Wrapper.keeps_drop wrapper fun _ => rfl).bind_eq fun _ => .pure rfl rfl
  | release wrapper => exact (Wrapper.keeps_release wrapper fun _ => rfl).bind_eq fun _ => .pure rfl rfl
  | extract handle =>
    refine (keeps_extractText handle fun _ => rfl).bind_eq fun outcome => ?_
    cases outcome with
    | ok text => exact .pure rfl rfl
    | error err => exact .pure rfl rfl
  | collect => exact keeps_collect.bind Told.refl fun _ _ _ => .pure rfl rfl

theorem goes_carryOut (parting : Parting) : Goes parting.carryOut := (parting.settles 0).onward

theorem goes_carryOutAll (partings : List Parting) : Goes (carryOutAll partings) := by
  induction partings with
  | nil => exact .pure ()
  | cons parting rest ih => exact parting.goes_carryOut.bind fun _ => ih

/-- How what was collected and what waits stand to what was dropped. -/
structure Account (config : Config) (waiting : List ObjectId) (partings : List Parting) (collected left : List ObjectId) :
    Prop where
  ordered : config.policy = .deferred → waiting ++ disposed partings = collected ++ left
  few : config.policy = .deferred → waiting.length < config.flushThreshold.toNat → left.length < config.flushThreshold.toNat
  rounds : config.policy = .deferred → waiting.length < config.flushThreshold.toNat → .collect ∉ partings →
    left.length = (waiting.length + (disposed partings).length) % config.flushThreshold.toNat
  prompt : config.policy = .immediate → waiting = [] → left = []

theorem Gives.account {config : Config} {waiting given coerced middle collected left : List ObjectId} {rest : List Parting}
    (gives : parting.Gives config waiting given coerced middle) (further : Account config middle rest collected left) :
    Account config waiting (parting :: rest) ((if parting.mayCollect then given else []) ++ collected) left := by
  obtain ⟨ordered, few, rounds, prompt⟩ := further
  have later (apart : .collect ∉ parting :: rest) : .collect ∉ rest := fun member => apart (List.mem_cons_of_mem _ member)
  cases gives with
  | nothing => exact ⟨ordered, few, fun policy short apart => rounds policy short (later apart), prompt⟩
  | prompt policy =>
    exact ⟨fun other => (nomatch policy.symm.trans other), fun other => (nomatch policy.symm.trans other),
      fun other => (nomatch policy.symm.trans other), prompt⟩
  | @waits kind id policy short =>
    have longer : (waiting ++ [id]).length = waiting.length + 1 := List.length_append
    have more : (disposed (.drop ⟨kind, some id⟩ :: rest)).length = (disposed rest).length + 1 := by simp [disposed]
    refine ⟨fun _ => ?_, fun _ _ => few policy (longer ▸ short), fun _ _ apart => ?_, fun other => (nomatch policy.symm.trans other)⟩
    · exact (List.append_assoc ..).symm.trans (ordered policy)
    · rw [rounds policy (longer ▸ short) (later apart), longer, more, Nat.add_right_comm, Nat.add_assoc]
  | @flushes kind id policy many =>
    have more : (disposed (.drop ⟨kind, some id⟩ :: rest)).length = (disposed rest).length + 1 := by simp [disposed]
    refine ⟨fun _ => ?_, fun _ short => few policy (Nat.zero_lt_of_lt short), fun _ short apart => ?_,
      fun other => (nomatch policy.symm.trans other)⟩
    · calc waiting ++ disposed (.drop ⟨kind, some id⟩ :: rest) = waiting ++ [id] ++ disposed rest := (List.append_assoc ..).symm
        _ = waiting ++ [id] ++ (collected ++ left) := by rw [← ordered policy, List.nil_append]
        _ = waiting ++ [id] ++ collected ++ left := (List.append_assoc ..).symm
    · have full : waiting.length + 1 = config.flushThreshold.toNat := le_antisymm short many
      rw [rounds policy (Nat.zero_lt_of_lt short) (later apart), more, List.length_nil, Nat.zero_add,
        ← Nat.add_assoc, Nat.add_right_comm, full, Nat.add_mod_left]
  | released => exact ⟨ordered, few, fun policy short apart => rounds policy short (later apart), prompt⟩
  | extracted => exact ⟨ordered, few, fun policy short apart => rounds policy short (later apart), prompt⟩
  | collected =>
    refine ⟨fun policy => ?_, fun policy short => few policy (Nat.zero_lt_of_lt short),
      fun _ _ apart => absurd List.mem_cons_self apart, fun policy _ => prompt policy rfl⟩
    calc waiting ++ disposed (.collect :: rest) = waiting ++ (collected ++ left) := by rw [← ordered policy]; rfl
      _ = waiting ++ collected ++ left := (List.append_assoc ..).symm

/-- Units that are held can be parted with. -/
theorem advances (found : world.binding? = some binding) (sound : world.Sound true held) (owned : parting.units ≤ held)
    (quiet : World.course.quiet (ends parting.carryOut world).2) :
    ∃ met after queue, ends parting.carryOut world = (.ok met, after) ∧ after.binding? = some { binding with queue } ∧
      after.Sound true (unitOf met + (held - parting.units)) ∧
      parting.Gives binding.config world.waiting (added decrements parting.carryOut world)
        (added temporaries parting.carryOut world) after.waiting := by
  have whole : world.Sound true (parting.units + (held - parting.units)) :=
    sound.congr (by rw [add_comm, tsub_add_cancel_of_le owned])
  obtain ⟨met, after, ended, kept⟩ := parting.settles.returns whole quiet
  obtain ⟨given, coerced, queue, gives, passes⟩ := moves_of_ends found ended
  have bound : after.binding? = some { binding with queue } := passes.binding.trans (by simp [withQueue, found])
  refine ⟨met, after, queue, ended, bound, kept, ?_⟩
  have told : added decrements parting.carryOut world = given ∧ added temporaries parting.carryOut world = coerced := by
    constructor
    · rw [added, ended, passes.given]
      exact List.drop_left
    · rw [added, ended, passes.coerced]
      exact List.drop_left
  rw [told.1, told.2, waiting_of_bound bound]
  exact gives

/-- After the earlier ones, whatever is still to be parted with is held. -/
theorem carries (earlier : List Parting) {later : List Parting} (found : world.binding? = some binding)
    (sound : world.Sound true held) (owned : Affords held world (earlier ++ later))
    (quiet : World.course.quiet (ends (carryOutAll (earlier ++ later)) world).2) :
    ∃ middle queue held', ends (carryOutAll earlier) world = (.ok (), middle) ∧ middle.binding? = some { binding with queue } ∧
      middle.Sound true held' ∧ Affords held' middle later ∧ World.course.quiet (ends (carryOutAll later) middle).2 ∧
      Account binding.config world.waiting earlier (collected earlier world) middle.waiting := by
  induction earlier generalizing world binding held with
  | nil =>
    refine ⟨world, binding.queue, held, rfl, found, sound, owned, quiet, fun _ => List.append_nil _, fun _ short => short,
      fun _ short _ => (Nat.mod_eq_of_lt short).symm, fun _ empty => empty⟩
  | cons parting rest ih =>
    have calm : World.course.quiet (ends parting.carryOut world).2 :=
      World.course.quiet_of_order (Onward.order_bind (fun _ => goes_carryOutAll (rest ++ later)) parting.carryOut world) quiet
    obtain ⟨met, after, queue, ended, bound, kept, gives⟩ := advances found sound owned.1 calm
    have begun (partings : List Parting) : ends (carryOutAll (parting :: partings)) world = ends (carryOutAll partings) after := by
      rw [carryOutAll, ends_bind_ok ended]
    rw [List.cons_append, begun] at quiet
    obtain ⟨middle, queue', held', ran, bound', kept', affords, quiet', account⟩ :=
      ih bound kept (owned.2 met after ended) quiet
    refine ⟨middle, queue', held', (begun rest).trans ran, bound', kept', affords, quiet', ?_⟩
    rw [collected, ended]
    exact gives.account account

/-- It is enough to hold all units from the beginning. -/
theorem affords_of_le {partings : List Parting} (owned : (partings.map units).sum ≤ held) (world : World) :
    Affords held world partings := by
  induction partings generalizing held world with
  | nil => trivial
  | cons parting rest ih =>
    rw [List.map_cons, List.sum_cons] at owned
    refine ⟨(Multiset.le_add_right _ _).trans owned, fun met after _ => ih ?_ after⟩
    exact (le_tsub_of_add_le_left owned).trans (Multiset.le_add_left _ _)

theorem carryOutAll_append (first rest : List Parting) :
    carryOutAll (first ++ rest) = carryOutAll first >>= fun _ => carryOutAll rest := by
  induction first with
  | nil => rfl
  | cons parting others ih => rw [List.cons_append, carryOutAll, carryOutAll, ih, bind_assoc]

theorem carryOutAll_drops (wrappers : List Wrapper) : carryOutAll (wrappers.map .drop) = Wrapper.dropAll wrappers := by
  induction wrappers with
  | nil => rfl
  | cons wrapper rest ih => simp only [List.map_cons, carryOutAll, carryOut, Wrapper.dropAll, ih, bind_assoc, pure_bind]

end Parting

open Parting

def Program.Frame.partings (frame : Program.Frame) : List Parting :=
  frame.wrappers.map (fun wrapper => .drop wrapper.2) ++ frame.guard?.toList.map .release

theorem Program.ends_bind_next {α β γ : Type} {routine : Program.Run α β} {next next' : β → Program.Run α γ}
    (same : ∀ value session, ends (next value) session = ends (next' value) session) (session : Program.Session α) :
    ends (routine >>= next) session = ends (routine >>= next') session := by
  rw [ends_bind, ends_bind]
  rcases ends routine session with ⟨payload | value, after⟩
  · rfl
  · exact same value after

theorem Program.ends_lift_bind {α β γ : Type} (action : Bridge β) (next : β → Bridge γ) (session : Program.Session α) :
    ends (Program.lift (action >>= next) : Program.Run α γ) session =
      ends (Program.lift action >>= fun value => Program.lift (next value)) session := by
  rw [Program.ends_lift, ends_bind, ends_bind, Program.ends_lift]
  rcases ends action session.world with ⟨payload | value, world⟩ <;> rfl

theorem Program.ends_closeFrame_partings {α : Type} {session : Program.Session α} {frame : Program.Frame}
    {outer : List Program.Frame} (opened : session.frames = frame :: outer) :
    ends Program.closeFrame session = ends (Program.lift (carryOutAll frame.partings)) { session with frames := outer } := by
  have drops : carryOutAll (frame.wrappers.map fun wrapper => .drop wrapper.2) = Wrapper.dropAll (frame.wrappers.map (·.2)) := by
    rw [← carryOutAll_drops, List.map_map]
    rfl
  rw [Program.ends_closeFrame, opened, Program.Frame.partings, carryOutAll_append, Program.ends_lift_bind, drops]
  refine Program.ends_bind_next (fun _ after => ?_) _
  cases frame.guard? with
  | none => rfl
  | some wrapper =>
    simp only [Option.toList_some, List.map_cons, List.map_nil, carryOutAll, carryOut, bind_assoc, pure_bind]
    exact (Program.ends_lift_bind wrapper.release (fun _ => pure ()) after).symm

/-- Wrappers are dropped, released and read one after another, and the queue is collected now and
then. With deferred release, what was collected at any time and what waits are together what was
dropped, in that order; fewer wait than the threshold tells, and without collecting otherwise,
whole rounds of so many have been given back. With immediate release nothing ever waits. What is
released, and the temporaries of reading, are given back at once. All of that asks for no counter
to turn over, and for no destroyed object to be read. -/
theorem deferred_in_order {world : World} {binding : Binding} {held : Multiset ObjectId}
    (found : world.binding? = some binding) (empty : binding.queue.items = #[]) (positive : 1 ≤ binding.config.flushThreshold.toNat)
    (sound : world.Sound true held) (partings : List Parting) (owned : Affords held world partings)
    (fits : (ends (carryOutAll partings) world).2.turnedOver = false)
    (lawful : (ends (carryOutAll partings) world).2.breached = false) :
    (∀ earlier later, partings = earlier ++ later → ∃ point, ends (carryOutAll earlier) world = (.ok (), point) ∧
      (binding.config.policy = .deferred → disposed earlier = collected earlier world ++ point.waiting ∧
        point.waiting.length < binding.config.flushThreshold.toNat ∧
        (.collect ∉ earlier → (collected earlier world).length =
          (disposed earlier).length - (disposed earlier).length % binding.config.flushThreshold.toNat)) ∧
      (binding.config.policy = .immediate → point.waiting = []) ∧
      ∀ next rest, later = next :: rest → ∃ met after, ends next.carryOut point = (.ok met, after) ∧
        next.Gives binding.config point.waiting (added decrements next.carryOut point) (added temporaries next.carryOut point)
          after.waiting ∧
        (next = .collect → ends CountBridge.collect point = (.ok point.waiting.length, after))) ∧
    ∀ (α : Type) (session : Program.Session α) frame outer, session.frames = frame :: outer →
      ends Program.closeFrame session = ends (Program.lift (carryOutAll frame.partings)) { session with frames := outer } := by
  have nothing : world.waiting = [] := by rw [waiting_of_bound found, empty]
  refine ⟨fun earlier later split => ?_, fun α session frame outer opened => Program.ends_closeFrame_partings opened⟩
  · subst split
    obtain ⟨point, queue, held', ran, bound, kept, affords, quiet, account⟩ := carries earlier found sound owned ⟨fits, lawful⟩
    rw [nothing] at account
    refine ⟨point, ran, fun policy => ?_, fun policy => account.prompt policy rfl, fun next rest begun => ?_⟩
    · have ordered : disposed earlier = collected earlier world ++ point.waiting := account.ordered policy
      refine ⟨ordered, account.few policy positive, fun apart => ?_⟩
      have left := account.rounds policy positive apart
      have lengths := congrArg List.length ordered
      rw [List.length_append] at lengths
      rw [List.length_nil, Nat.zero_add] at left
      rw [← left, lengths, Nat.add_sub_cancel]
    · subst begun
      have calm := World.course.quiet_of_order (Onward.order_bind (fun _ => goes_carryOutAll rest) next.carryOut point) quiet
      obtain ⟨met, after, queue', ended, bound', -, gives⟩ := advances bound kept affords.1 calm
      refine ⟨met, after, ended, gives, ?_⟩
      rintro rfl
      obtain ⟨count, last, emptied, done⟩ := ends_bind_eq_ok ended
      obtain rfl : last = after := congrArg Prod.snd done
      rw [emptied, (passes_collect bound emptied).1, waiting_of_bound bound]
      rfl

/-- Two wrappers fill the queue, while the text of some bytes is read in between; a third one waits. -/
theorem deferred_in_order_round :
    let store := [Payload.plain "A", .plain "B", .plain "C"].foldl (fun store payload => (store.allocate payload).2)
      (Store.allocate {} (.bytes "hi".toUTF8)).2
    let world : World := {
      store, heaps := #[{ live := 4, allocated := 4, booted := true }]
      binding? := some { heap := 0, config := { policy := .deferred, flushThreshold := 2 } } }
    let partings := [.drop ⟨.object, some 1⟩, .extract (some 0), .drop ⟨.object, some 2⟩, .drop ⟨.object, some 3⟩,
      .release ⟨.bytes, some 0⟩]
    let point := (ends (carryOutAll partings) world).2
    disposed partings = [1, 2, 3] ∧ point.waiting = [3] ∧ disposed partings = collected partings world ++ point.waiting ∧
      (collected partings world).length = 3 - 3 % 2 := by
  intro store world partings point
  have born {payload : Payload} {store : Store} {held : Multiset ObjectId} (nothing : payload.units = 0) (exact : store.Exact held) :
      (store.allocate payload).2.Exact ({store.allocated} + held) :=
    (exact.congr (by rw [nothing, zero_add])).allocate
  have exact : store.Exact {3, 2, 1, 0} := born rfl (born rfl (born rfl (born rfl .empty)))
  have sound : world.Sound true {3, 2, 1, 0} := by
    refine ⟨?_, fun binding found => ?_, fun _ => rfl⟩
    · simpa [world, queued] using exact
    · cases found
      rfl
  have owned : Affords {3, 2, 1, 0} world partings := affords_of_le (by decide) world
  obtain ⟨points, -⟩ := deferred_in_order rfl rfl (by decide) sound partings owned (by cbv) (by cbv)
  obtain ⟨last, ran, deferred, -⟩ := points partings [] (List.append_nil _).symm
  obtain ⟨ordered, -, rounds⟩ := deferred rfl
  obtain rfl : point = last := congrArg Prod.snd ran
  have waiting : (ends (carryOutAll partings) world).2.waiting = [3] := by cbv
  exact ⟨rfl, waiting, ordered, rounds (by simp [partings])⟩

end CountBridge
