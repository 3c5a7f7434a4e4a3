import Mathlib.Data.List.Induction
import CountBridge.Queue.Threads

/-! Any number of threads on one queue. Whatever the schedule, what was taken and what
is left are together what was pushed, in that order; and the counter is behind or
ahead of the items only inside the one critical section that is about to level it. -/

namespace CountBridge.Queue

variable {α : Type}

namespace Label

def pushed? : Label α → Option α
  | .pushed item => some item
  | _ => none

def deferred? : Label α → Option α
  | .deferred item => some item
  | _ => none

def taken? : Label α → Option (Array α)
  | .took items => some items
  | _ => none

def answer? : Label α → Option (Array α)
  | .answered items => some items
  | _ => none

end Label

abbrev History (α : Type) := List (Nat × Label α)

namespace History

def pushes (events : History α) : List α := events.filterMap (·.2.pushed?)

def pushesBy (thread : Nat) (events : History α) : List α := pushes (events.filter (·.1 = thread))

def deferrals (events : History α) : List α := events.filterMap (·.2.deferred?)

def batches (events : History α) : List (Array α) := events.filterMap (·.2.taken?)

def answers (events : History α) : List (Array α) := events.filterMap (·.2.answer?)

def taken (events : History α) : List α := events.batches.flatMap Array.toList

variable (events : History α) (thread : Nat) (label : Label α)

@[simp] theorem pushes_snoc : pushes (events ++ [(thread, label)]) = events.pushes ++ label.pushed?.toList := by
  rw [pushes, List.filterMap_append]
  cases label <;> rfl

@[simp] theorem pushesBy_snoc (other : Nat) : pushesBy other (events ++ [(thread, label)]) =
    events.pushesBy other ++ if thread = other then label.pushed?.toList else [] := by
  rw [pushesBy, List.filter_append]
  by_cases same : thread = other
  · simp [same, pushesBy, pushes_snoc]
  · simp [same, pushesBy]

@[simp] theorem deferrals_snoc : deferrals (events ++ [(thread, label)]) = events.deferrals ++ label.deferred?.toList := by
  rw [deferrals, List.filterMap_append]
  cases label <;> rfl

@[simp] theorem batches_snoc : batches (events ++ [(thread, label)]) = events.batches ++ label.taken?.toList := by
  rw [batches, List.filterMap_append]
  cases label <;> rfl

@[simp] theorem answers_snoc : answers (events ++ [(thread, label)]) = events.answers ++ label.answer?.toList := by
  rw [answers, List.filterMap_append]
  cases label <;> rfl

@[simp] theorem taken_snoc : taken (events ++ [(thread, label)]) = events.taken ++ label.taken?.toList.flatMap Array.toList := by
  rw [taken, batches_snoc, List.flatMap_append, taken]

end History

def Request.items : List (Request α) → List α :=
  List.filterMap fun
    | .defer item | .dispose item => some item
    | .takeAll | .collect => none

def Thread.outstanding (thread : Thread α) : List α :=
  match thread.point with
  | .pushing item _ => item :: Request.items thread.requests
  | _ => Request.items thread.requests

namespace Point

def inside : Point α → Bool
  | .pushing .. | .countingUp .. | .leavingPush .. | .taking _ | .countingDown .. | .leavingTake .. => true
  | .idle | .checking | .looking | .entering _ | .releasing _ => false

def uncounted : Point α → Nat
  | .countingUp .. => 1
  | _ => 0

def overcounted : Point α → Nat
  | .countingDown taken _ => taken.size
  | _ => 0

def deferring : Point α → List α
  | .countingUp item _ | .leavingPush item _ => [item]
  | _ => []

def answering : Point α → List (Array α)
  | .countingDown taken _ | .leavingTake taken _ => [taken]
  | _ => []

end Point

namespace Shared

variable {threshold thread : Nat} {shared : Shared α} {state after : Thread α} {label : Label α} {events : History α}

def history (threshold : Nat) (shared : Shared α) : List Nat → History α
  | [] => []
  | thread :: rest =>
    ((shared.next? threshold thread).map fun (label, _) => (thread, label)).toList ++
      history threshold (shared.step threshold thread) rest

theorem history_append (threshold : Nat) (shared : Shared α) (first second : List Nat) :
    shared.history threshold (first ++ second) =
      shared.history threshold first ++ (shared.run threshold first).history threshold second := by
  induction first generalizing shared with
  | nil => rfl
  | cons thread rest ih => simp only [List.cons_append, history, ih, List.append_assoc, run, List.foldl_cons]

theorem run_append (threshold : Nat) (shared : Shared α) (first second : List Nat) :
    shared.run threshold (first ++ second) = (shared.run threshold first).run threshold second :=
  List.foldl_append

def owner (shared : Shared α) : Point α :=
  match shared.holder with
  | none => .idle
  | some thread => (shared.threads[thread]?.map (·.point)).getD .idle

theorem owner_free (free : shared.holder = none) : shared.owner = .idle := by
  rw [owner, free]

theorem owner_congr {first second : Shared α} (holder : first.holder = second.holder)
    (stays : ∀ thread, first.holder = some thread → first.threads[thread]? = second.threads[thread]?) :
    first.owner = second.owner := by
  unfold owner
  rw [← holder]
  cases held : first.holder with
  | none => rfl
  | some thread => dsimp only; rw [stays thread held]

theorem owner_held (held : shared.holder = some thread) (found : shared.threads[thread]? = some state) :
    shared.owner = state.point := by
  simp [owner, held, found]

/-- How the items and their counter stand to what has happened, while the lock is held at a
point, or at none. -/
structure Accounts (events : History α) (items : Array α) (pending : Nat) (point : Point α) : Prop where
  counted : pending + point.uncounted = items.size + point.overcounted
  ordered : events.pushes = events.taken ++ items.toList
  deferred : events.pushes = events.deferrals ++ point.deferring
  answered : events.batches = events.answers ++ point.answering

/-- Only the thread that holds the lock is inside of a critical section. -/
structure Coherent (events : History α) (shared : Shared α) : Prop where
  exclusive : ∀ thread state, shared.threads[thread]? = some state →
    (state.point.inside = true ↔ shared.holder = some thread)
  accounts : Accounts events shared.items shared.pending shared.owner

theorem step_of_next (moved : shared.next? threshold thread = some (label, after)) :
    shared.step threshold thread = (shared.carryOut thread label).setThread thread after := by
  rw [step, moved]

theorem threads_step (moved : shared.next? threshold thread = some (label, after)) :
    (shared.step threshold thread).threads = shared.threads.setIfInBounds thread after := by
  rw [step_of_next moved]
  cases label <;> rfl

theorem lock_eq_some {next : Thread α} : shared.lock next = some (label, after) ↔
    shared.holder = none ∧ label = .locked ∧ after = next := by
  rw [lock]
  cases shared.holder <;> simp [eq_comm]

theorem look_eq {collects : Bool} {rest : List (Request α)} (looked : shared.look collects rest = (label, after)) :
    label = .foundNothing ∧ shared.pending = 0 ∧ after = ⟨rest, .idle⟩ ∨
      label = .looked ∧ after = ⟨rest, .entering collects⟩ := by
  rw [look] at looked
  split at looked
  next nothing => cases looked; exact .inl ⟨rfl, nothing, rfl⟩
  next => cases looked; exact .inr ⟨rfl, rfl⟩

inductive Moves (threshold : Nat) (shared : Shared α) : Thread α → Label α → Thread α → Prop
  /-- Enters the critical section of a deferral. -/
  | enterPush {item checks requests rest} (asked : Request.items requests = item :: Request.items rest)
      (free : shared.holder = none) : Moves threshold shared ⟨requests, .idle⟩ .locked ⟨rest, .pushing item checks⟩
  | push {rest item checks} : Moves threshold shared ⟨rest, .pushing item checks⟩ (.pushed item) ⟨rest, .countingUp item checks⟩
  | countUp {rest item checks} :
      Moves threshold shared ⟨rest, .countingUp item checks⟩ .countedUp ⟨rest, .leavingPush item checks⟩
  | leavePush {rest item checks point} (outside : point = .idle ∨ point = .checking) :
      Moves threshold shared ⟨rest, .leavingPush item checks⟩ (.deferred item) ⟨rest, point⟩
  | enterTake {rest collects} (free : shared.holder = none) :
      Moves threshold shared ⟨rest, .entering collects⟩ .locked ⟨rest, .taking collects⟩
  | take {rest collects} : Moves threshold shared ⟨rest, .taking collects⟩ (.took shared.items) ⟨rest, .countingDown shared.items collects⟩
  | countDown {rest taken collects} :
      Moves threshold shared ⟨rest, .countingDown taken collects⟩ (.countedDown taken.size) ⟨rest, .leavingTake taken collects⟩
  | leaveTake {rest taken collects point} (outside : point = .idle ∨ point = .releasing taken) :
      Moves threshold shared ⟨rest, .leavingTake taken collects⟩ (.answered taken) ⟨rest, point⟩
  /-- Whatever is done without the lock. -/
  | outside {before after label} (quiet : label = .checked ∨ label = .looked ∨ label = .foundNothing ∨ ∃ items, label = .released items)
      (nothing : label = .foundNothing → shared.pending = 0) (was : before.point.inside = false) (is : after.point.inside = false)
      (kept : after.outstanding = before.outstanding) : Moves threshold shared before label after

theorem moves_of_next (moved : shared.next? threshold thread = some (label, after)) :
    ∃ state, shared.threads[thread]? = some state ∧ Moves threshold shared state label after := by
  rw [next?] at moved
  split at moved
  next => cases moved
  next requests found =>
    refine ⟨_, found, ?_⟩
    split at moved
    next => cases moved
    next item rest =>
      obtain ⟨free, rfl, rfl⟩ := lock_eq_some.mp moved
      exact .enterPush rfl free
    next item rest =>
      obtain ⟨free, rfl, rfl⟩ := lock_eq_some.mp moved
      exact .enterPush rfl free
    next rest =>
      rcases look_eq (Option.some.inj moved) with ⟨rfl, nothing, rfl⟩ | ⟨rfl, rfl⟩
      · exact .outside (by simp) (fun _ => nothing) rfl rfl rfl
      · exact .outside (by simp) nofun rfl rfl rfl
    next rest =>
      rcases look_eq (Option.some.inj moved) with ⟨rfl, nothing, rfl⟩ | ⟨rfl, rfl⟩
      · exact .outside (by simp) (fun _ => nothing) rfl rfl rfl
      · exact .outside (by simp) nofun rfl rfl rfl
  next rest item checks found => cases moved; exact ⟨_, found, .push⟩
  next rest item checks found => cases moved; exact ⟨_, found, .countUp⟩
  next rest item checks found =>
    cases moved
    exact ⟨_, found, .leavePush (by cases checks <;> simp)⟩
  next rest found =>
    cases moved
    exact ⟨_, found, .outside (by simp) nofun rfl (by dsimp only; split <;> rfl) (by split <;> rfl)⟩
  next rest found =>
    rcases look_eq (Option.some.inj moved) with ⟨rfl, nothing, rfl⟩ | ⟨rfl, rfl⟩
    · exact ⟨_, found, .outside (by simp) (fun _ => nothing) rfl rfl rfl⟩
    · exact ⟨_, found, .outside (by simp) nofun rfl rfl rfl⟩
  next rest collects found =>
    obtain ⟨free, rfl, rfl⟩ := lock_eq_some.mp moved
    exact ⟨_, found, .enterTake free⟩
  next rest collects found => cases moved; exact ⟨_, found, .take⟩
  next rest taken collects found => cases moved; exact ⟨_, found, .countDown⟩
  next rest taken collects found =>
    cases moved
    exact ⟨_, found, .leaveTake (by cases collects <;> simp)⟩
  next rest taken found => cases moved; exact ⟨_, found, .outside (by simp) nofun rfl rfl rfl⟩

theorem getElem?_step (moved : shared.next? threshold thread = some (label, after))
    (found : shared.threads[thread]? = some state) (other : Nat) :
    (shared.step threshold thread).threads[other]? = if other = thread then some after else shared.threads[other]? := by
  have inside := (Array.getElem?_eq_some_iff.mp found).1
  rw [threads_step moved, Array.getElem?_setIfInBounds]
  grind

/-- Outside of critical sections, all points are alike. -/
theorem Accounts.outside {items : Array α} {pending : Nat} {point other : Point α} (accounts : Accounts events items pending point)
    (was : point.inside = false) (is : other.inside = false) : Accounts events items pending other := by
  obtain ⟨counted, ordered, deferred, answered⟩ := accounts
  cases point <;> cases other <;> first | cases was; done | cases is; done | exact ⟨counted, ordered, deferred, answered⟩

/-- What is done without the lock leaves the accounts as they are. -/
theorem Accounts.quiet {items : Array α} {pending : Nat} {point : Point α} (accounts : Accounts events items pending point)
    (quiet : label = .checked ∨ label = .looked ∨ label = .foundNothing ∨ ∃ items, label = .released items) :
    Accounts (events ++ [(thread, label)]) items pending point := by
  obtain ⟨counted, ordered, deferred, answered⟩ := accounts
  have nothing : label.pushed? = none ∧ label.deferred? = none ∧ label.taken? = none ∧ label.answer? = none := by
    rcases quiet with rfl | rfl | rfl | ⟨items, rfl⟩ <;> exact ⟨rfl, rfl, rfl, rfl⟩
  obtain ⟨pushed, returned, taken, answer⟩ := nothing
  refine ⟨counted, ?_, ?_, ?_⟩
  · simpa [pushed, taken] using ordered
  · simpa [pushed, returned] using deferred
  · simpa [taken, answer] using answered

/-- A move either levels the accounts where they were off, or sets them off by what it did. -/
theorem Moves.accounts (moves : Moves threshold shared state label after)
    (accounts : Accounts events shared.items shared.pending state.point) :
    Accounts (events ++ [(thread, label)]) (shared.carryOut thread label).items (shared.carryOut thread label).pending
      after.point := by
  cases moves with
  | outside quiet nothing was is kept =>
    have same : shared.carryOut thread label = shared := by
      rcases quiet with rfl | rfl | rfl | ⟨items, rfl⟩ <;> rfl
    rw [same]
    exact (accounts.quiet quiet).outside was is
  | leavePush outside | leaveTake outside =>
    obtain ⟨counted, ordered, deferred, answered⟩ := accounts
    rcases outside with rfl | rfl <;> constructor <;>
      simp_all [carryOut, Label.pushed?, Label.deferred?, Label.taken?, Label.answer?, Point.uncounted, Point.overcounted,
        Point.deferring, Point.answering]
  | enterPush | push | countUp | enterTake | take | countDown =>
    obtain ⟨counted, ordered, deferred, answered⟩ := accounts
    constructor <;>
      simp_all [carryOut, Label.pushed?, Label.deferred?, Label.taken?, Label.answer?, Point.uncounted, Point.overcounted,
        Point.deferring, Point.answering]

theorem Moves.exclusive (moves : Moves threshold shared state label after)
    (here : state.point.inside = true ↔ shared.holder = some thread) :
    (after.point.inside = true ↔ (shared.carryOut thread label).holder = some thread) ∧
      ∀ other, other ≠ thread → (shared.holder = some other ↔ (shared.carryOut thread label).holder = some other) := by
  cases moves with
  | outside quiet nothing was is kept =>
    have same : shared.carryOut thread label = shared := by
      rcases quiet with rfl | rfl | rfl | ⟨items, rfl⟩ <;> rfl
    rw [same, is, ← here, was]
    exact ⟨.rfl, fun _ _ => .rfl⟩
  | leavePush outside | leaveTake outside =>
    rcases outside with rfl | rfl <;> simp_all [carryOut, Point.inside, eq_comm]
  | enterPush | push | countUp | enterTake | take | countDown => simp_all [carryOut, Point.inside, eq_comm]

/-- A thread that holds the lock, or could take it, stands where the accounts are kept. -/
theorem accounts_owner {items : Array α} {pending : Nat} (found : shared.threads[thread]? = some state)
    (here : state.point.inside = true ↔ shared.holder = some thread)
    (alone : state.point.inside = true ∨ shared.holder = none) :
    Accounts events items pending shared.owner ↔ Accounts events items pending state.point := by
  cases inside : state.point.inside with
  | true => rw [owner_held (here.mp inside) found]
  | false =>
    have free : shared.holder = none := by simpa [inside] using alone
    rw [owner_free free]
    exact ⟨fun accounts => accounts.outside rfl inside, fun accounts => accounts.outside inside rfl⟩

theorem Moves.alone (moves : Moves threshold shared state label after)
    (here : state.point.inside = true ↔ shared.holder = some thread) :
    (shared.carryOut thread label = shared ∧ state.point.inside = false ∧
      (label = .checked ∨ label = .looked ∨ label = .foundNothing ∨ ∃ items, label = .released items)) ∨
    ((state.point.inside = true ∨ shared.holder = none) ∧
      (after.point.inside = true ∨ (shared.carryOut thread label).holder = none)) := by
  cases moves with
  | outside quiet nothing was is kept =>
    refine .inl ⟨?_, was, quiet⟩
    rcases quiet with rfl | rfl | rfl | ⟨items, rfl⟩ <;> rfl
  | leavePush outside | leaveTake outside => exact .inr ⟨.inl rfl, .inr rfl⟩
  | enterPush asked free | enterTake free => exact .inr ⟨.inr free, .inl rfl⟩
  | push | countUp | take | countDown => exact .inr ⟨.inl rfl, .inl rfl⟩

/-- A move takes from what a thread has to push just what it pushes. -/
theorem Moves.outstanding (moves : Moves threshold shared state label after) :
    label.pushed?.toList ++ after.outstanding = state.outstanding := by
  cases moves with
  | outside quiet nothing was is kept => rcases quiet with rfl | rfl | rfl | ⟨items, rfl⟩ <;> exact kept
  | leavePush outside | leaveTake outside => rcases outside with rfl | rfl <;> rfl
  | enterPush asked free => exact asked.symm
  | push | countUp | enterTake | take | countDown => rfl

/-- The point at which the lock is held moves with the thread that holds it. -/
theorem Coherent.step (coherent : Coherent events shared) (moved : shared.next? threshold thread = some (label, after)) :
    Coherent (events ++ [(thread, label)]) (shared.step threshold thread) := by
  obtain ⟨state, found, moves⟩ := moves_of_next moved
  have here := coherent.exclusive thread state found
  have placed := getElem?_step moved found
  obtain ⟨own, others⟩ := moves.exclusive here
  rw [step_of_next moved] at placed ⊢
  refine ⟨fun other state' found' => ?_, ?_⟩
  · rw [placed] at found'
    split at found'
    next same => cases found'; exact same ▸ own
    next different => exact (coherent.exclusive other state' found').trans (others other different)
  · change Accounts _ (shared.carryOut thread label).items (shared.carryOut thread label).pending _
    rcases moves.alone here with ⟨same, was, quiet⟩ | ⟨alone, alone'⟩
    · rw [same] at placed ⊢
      have owner : (shared.setThread thread after).owner = shared.owner := by
        refine owner_congr rfl fun other held => ?_
        have apart : other ≠ thread := fun equal => by
          rw [here.mpr (equal ▸ held)] at was
          cases was
        rw [placed, if_neg apart]
      rw [owner]
      exact coherent.accounts.quiet quiet
    · have standing := placed thread
      rw [if_pos rfl] at standing
      refine (accounts_owner standing own alone').mpr ?_
      exact moves.accounts ((accounts_owner found here alone).mp coherent.accounts)

theorem step_of_waiting (waits : shared.next? threshold thread = none) : shared.step threshold thread = shared := by
  rw [step, waits]

/-- What holds in the beginning and is kept by every step holds after any schedule. -/
theorem kept_along (kept : History α → Shared α → Prop) (begins : kept [] shared)
    (steps : ∀ {events shared thread label after}, kept events shared → shared.next? threshold thread = some (label, after) →
      kept (events ++ [(thread, label)]) (shared.step threshold thread)) (schedule : List Nat) :
    kept (shared.history threshold schedule) (shared.run threshold schedule) := by
  induction schedule using List.reverseRecOn with
  | nil => exact begins
  | append_singleton earlier thread ih =>
    rw [history_append, run_append]
    change kept (_ ++ history threshold _ [thread]) ((run threshold shared earlier).step threshold thread)
    rw [history, history, List.append_nil]
    cases moved : (run threshold shared earlier).next? threshold thread with
    | none =>
      rw [step_of_waiting moved]
      simpa using ih
    | some move => exact steps ih moved

/-- Where something happened, a thread made that move. -/
theorem exists_of_history {before rest : History α} {schedule : List Nat}
    (split : shared.history threshold schedule = before ++ (thread, label) :: rest) :
    ∃ earlier after, shared.history threshold earlier = before ∧
      (shared.run threshold earlier).next? threshold thread = some (label, after) := by
  induction schedule using List.reverseRecOn generalizing rest with
  | nil => simp [history] at split
  | append_singleton earlier last ih =>
    rw [history_append] at split
    cases moved : (run threshold shared earlier).next? threshold last with
    | none =>
      rw [history, moved] at split
      exact ih (by simpa [history] using split)
    | some move =>
      obtain ⟨label', after'⟩ := move
      simp only [history, moved, Option.map_some, Option.toList_some, List.append_nil] at split
      rcases List.eq_nil_or_concat rest with rfl | ⟨front, final, rfl⟩
      · obtain ⟨same, happened⟩ := List.append_inj' split rfl
        cases happened
        exact ⟨earlier, after', same, moved⟩
      · rw [List.concat_eq_append, ← List.cons_append, ← List.append_assoc] at split
        exact ih (List.append_inj' split rfl).1

end Shared

open Shared

variable {threads : List (List (Request α))} {schedule : List Nat} {threshold thread : Nat}

theorem getElem?_share (queue : Queue α) (threads : List (List (Request α))) (thread : Nat) :
    (queue.share threads).threads[thread]? = threads[thread]?.map fun requests => ⟨requests, .idle⟩ := by
  simp [share]

theorem coherent_run (threads : List (List (Request α))) (threshold : Nat) (schedule : List Nat) :
    Coherent ((share {} threads).history threshold schedule) ((share {} threads).run threshold schedule) := by
  refine kept_along Coherent ⟨fun thread state found => ?_, rfl, rfl, rfl, rfl⟩ Coherent.step schedule
  rw [getElem?_share, Option.map_eq_some_iff] at found
  obtain ⟨requests, -, rfl⟩ := found
  exact ⟨nofun, nofun⟩

def Orderly (requests : List (Request α)) (thread : Nat) (events : History α) (shared : Shared α) : Prop :=
  ∃ state, shared.threads[thread]? = some state ∧ events.pushesBy thread ++ state.outstanding = Request.items requests

theorem Orderly.step {requests : List (Request α)} {mover : Nat} {shared : Shared α} {events : History α} {label : Label α}
    {after : Thread α} (orderly : Orderly requests thread events shared)
    (moved : shared.next? threshold mover = some (label, after)) :
    Orderly requests thread (events ++ [(mover, label)]) (shared.step threshold mover) := by
  obtain ⟨state, found, whole⟩ := orderly
  obtain ⟨state', found', moves⟩ := moves_of_next moved
  have placed := getElem?_step moved found' thread
  split at placed
  next same =>
    subst same
    rw [found] at found'
    cases found'
    refine ⟨after, placed, ?_⟩
    rw [History.pushesBy_snoc, if_pos rfl, List.append_assoc, moves.outstanding, whole]
  next different =>
    refine ⟨state, placed.trans found, ?_⟩
    rw [History.pushesBy_snoc, if_neg (Ne.symm different), List.append_nil, whole]

theorem orderly_run {requests : List (Request α)} (asked : threads[thread]? = some requests) (threshold : Nat)
    (schedule : List Nat) :
    Orderly requests thread ((share {} threads).history threshold schedule) ((share {} threads).run threshold schedule) :=
  kept_along (Orderly requests thread) ⟨⟨requests, .idle⟩, by rw [getElem?_share, asked]; rfl, rfl⟩ Orderly.step schedule

/-- A request to take all that is begun by a thread when `start` has happened, and answered
with `batch`. What others had taken by then is told apart. -/
inductive Takes (thread : Nat) (start : History α) : History α → List α → Array α → Prop
  | nothing {rest} : Takes thread start (start ++ (thread, .foundNothing) :: rest) start.taken #[]
  | batch {waiting closing rest items}
      (single : ∀ event ∈ waiting ++ closing, event.1 = thread → event.2 = .locked ∨ ∃ count, event.2 = .countedDown count) :
      Takes thread start
        (start ++ (thread, .looked) :: waiting ++ (thread, .took items) :: (closing ++ (thread, .answered items) :: rest))
        (History.taken (start ++ (thread, .looked) :: waiting)) items

theorem Shared.Coherent.deferrals_prefix {events : History α} {shared : Shared α} (coherent : Coherent events shared) :
    events.deferrals <+: events.taken ++ shared.items.toList := by
  rw [← coherent.accounts.ordered, coherent.accounts.deferred]
  exact List.prefix_append _ _

/-- With nothing pending, whatever was deferred has been taken. What is pushed may be in the
queue by then, but its deferral has not returned. -/
theorem Shared.Coherent.deferrals_taken {events : History α} {shared : Shared α} (coherent : Coherent events shared)
    (nothing : shared.pending = 0) : events.deferrals <+: events.taken := by
  obtain ⟨counted, ordered, deferred, -⟩ := coherent.accounts
  have fewer : events.deferrals.length ≤ events.taken.length := by
    have lengths : events.deferrals.length + shared.owner.deferring.length = events.taken.length + shared.items.size := by
      simpa using congrArg List.length (deferred.symm.trans ordered)
    have waiting : shared.owner.uncounted ≤ shared.owner.deferring.length := by
      cases shared.owner <;> simp [Point.uncounted, Point.deferring]
    omega
  exact List.prefix_of_prefix_length_le coherent.deferrals_prefix (List.prefix_append _ _) fewer

theorem Takes.complete {start events : History α} {others : List α} {batch : Array α}
    (takes : Takes thread start events others batch)
    (happened : (share {} threads).history threshold schedule = events) : start.deferrals <+: others ++ batch.toList := by
  cases takes with
  | nothing =>
    obtain ⟨earlier, after, same, moved⟩ := exists_of_history happened
    have coherent := coherent_run threads threshold earlier
    rw [same] at coherent
    obtain ⟨state, -, moves⟩ := moves_of_next moved
    cases moves with
    | outside quiet nothing was is kept => simpa using coherent.deferrals_taken (nothing rfl)
  | batch single =>
    obtain ⟨earlier, after, same, moved⟩ := exists_of_history happened
    have coherent := coherent_run threads threshold earlier
    rw [same] at coherent
    obtain ⟨state, -, moves⟩ := moves_of_next moved
    cases moves with
    | take =>
      refine List.IsPrefix.trans ?_ coherent.deferrals_prefix
      rw [History.deferrals, History.deferrals, List.filterMap_append]
      exact List.prefix_append _ _
    | outside quiet => simp at quiet

/-- Any number of threads use one queue, however their steps fall. While no thread holds the
lock, the counter tells the number of items, and the batches returned so far and the items left
are what was deferred, in the order in which it was pushed. The counter never falls below zero,
each thread's items stay in order, and a request to take all finds whatever was deferred before
it began, unless another request took that. -/
theorem conserves_deferrals (threads : List (List (Request α))) (threshold : Nat) (schedule : List Nat) :
    let events := (share {} threads).history threshold schedule
    let shared := (share {} threads).run threshold schedule
    (shared.holder = none → shared.pending = shared.items.size ∧
      events.answers.flatMap Array.toList ++ shared.items.toList = events.pushes ∧ events.deferrals = events.pushes) ∧
    (∀ thread count after, shared.next? threshold thread = some (.countedDown count, after) → count ≤ shared.pending) ∧
    (∀ thread requests, threads[thread]? = some requests → events.pushesBy thread <+: Request.items requests) ∧
    ∀ thread start others batch, Takes thread start events others batch → start.deferrals <+: others ++ batch.toList := by
  intro events shared
  have coherent : Coherent events shared := coherent_run threads threshold schedule
  refine ⟨fun free => ?_, fun thread count after moved => ?_, fun thread requests asked => ?_,
    fun thread start others batch takes => takes.complete rfl⟩
  · obtain ⟨counted, ordered, deferred, answered⟩ := coherent.accounts
    rw [owner_free free] at counted deferred answered
    have all : events.batches = events.answers := by simpa [Point.answering] using answered
    refine ⟨counted, ?_, by simpa [Point.deferring] using deferred.symm⟩
    rw [ordered, History.taken, all]
  · obtain ⟨state, found, moves⟩ := moves_of_next moved
    have here := coherent.exclusive thread state found
    have counted := coherent.accounts.counted
    cases moves with
    | countDown =>
      rw [owner_held (here.mp rfl) found] at counted
      simp only [Point.uncounted, Point.overcounted] at counted
      omega
    | outside quiet => simp at quiet
  · obtain ⟨state, -, whole⟩ := orderly_run asked threshold schedule
    exact ⟨_, whole⟩

/-- Two items are deferred by one thread; a second takes the first of them, and a third finds
nothing while the second item is pushed and not yet counted. -/
theorem conserves_deferrals_nothing_pending :
    let threads : List (List (Request Nat)) := [[.defer 7, .defer 8], [.takeAll], [.takeAll]]
    let schedule := [0, 0, 0, 0, 1, 1, 1, 1, 1, 0, 0, 2, 0, 0]
    let start := (share {} threads).history 1 (schedule.take 11)
    let events := (share {} threads).history 1 schedule
    let shared := (share {} threads).run 1 schedule
    shared.holder = none ∧ (shared.pending = 1 ∧ shared.items = #[8]) ∧ events.answers.flatMap Array.toList ++ [8] = events.pushes ∧
      events.pushesBy 0 <+: [7, 8] ∧ Takes 2 start events [7] #[] ∧ start.deferrals <+: [7] ++ [] := by
  intro threads schedule start events shared
  have whole := conserves_deferrals threads 1 schedule
  have unlocked : shared.holder = none := by decide +kernel
  have items : shared.items = #[8] := by decide +kernel
  have happened : events = start ++ (2, .foundNothing) :: [(0, .countedUp), (0, .deferred 8)] := by decide +kernel
  have removed : start.taken = [7] := by decide +kernel
  have takes : Takes 2 start events [7] #[] := by
    rw [happened, ← removed]
    exact .nothing
  obtain ⟨free, -, orderly, complete⟩ := whole
  obtain ⟨counted, ordered, -⟩ := free unlocked
  refine ⟨unlocked, ⟨?_, items⟩, ?_, orderly 0 _ rfl, takes, complete 2 start [7] #[] takes⟩
  · rw [counted, items]
    rfl
  · rw [← ordered, items]

end CountBridge.Queue
