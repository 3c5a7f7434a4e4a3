import Mathlib.Algebra.BigOperators.Group.Finset.Basic
import Mathlib.Algebra.Order.BigOperators.Group.Finset
import Mathlib.Algebra.BigOperators.Ring.Finset
import CountBridge.Proofs.SharedQueue

/-! How much can pile up in a queue that several threads keep short. Each of them defers an
item, and then collects if it finds too many; what it finds may have changed by
then. A thread leaves without collecting only if the items that were counted are few, so
whatever goes beyond the threshold belongs to threads that have not looked yet. -/

namespace CountBridge.Queue

variable {α : Type}

def assigned (threads : List (List (Request α))) (thread : Nat) : List (Request α) := threads[thread]?.getD []

def Thread.underway (asked : List (Request α)) (thread : Thread α) : Option (Request α) :=
  match thread.point with
  | .idle => none
  | _ => asked.reverse[thread.requests.length]?

def Request.disposes : Request α → Bool
  | .dispose _ => true
  | _ => false

/-- The thread disposes of an item that it has deferred. The check that follows, or the
collection that may follow the check, is not done yet. -/
def Thread.settles (asked : List (Request α)) (thread : Thread α) : Bool :=
  (thread.underway asked).any Request.disposes &&
    match thread.point with
    | .pushing .. => false
    | _ => true

def Point.collecting : Point α → Bool
  | .looking | .entering true | .taking true | .countingDown _ true | .leavingTake _ true | .releasing _ => true
  | _ => false

def settling (threads : List (List (Request α))) (shared : Shared α) : Finset Nat :=
  (Finset.range shared.threads.size).filter fun thread =>
    (shared.threads[thread]?).any fun state => state.settles (assigned threads thread)

def Label.count? : Label α → Option Nat
  | .released items => some items.size
  | .foundNothing => some 0
  | _ => none

def History.counts (events : History α) : List Nat := events.filterMap (·.2.count?)

@[simp] theorem History.counts_snoc (events : History α) (thread : Nat) (label : Label α) :
    counts (events ++ [(thread, label)]) = events.counts ++ label.count?.toList := by
  rw [counts, List.filterMap_append]
  cases label <;> rfl

/-- Something is pushed, and nothing has been taken since. -/
def Point.undecided : Point α → Bool
  | .countingUp .. | .leavingPush .. | .checking | .looking | .entering _ | .taking _ => true
  | _ => false

/-- One, as long as a request may still have to collect for the item that it has deferred. -/
def Point.owes (request : Option (Request α)) (point : Point α) : Nat :=
  if request.any Request.disposes && point.undecided then 1 else 0

def Thread.owes (asked : List (Request α)) (thread : Thread α) : Nat := thread.point.owes (thread.underway asked)

def owing (threads : List (List (Request α))) (thread : Nat) : Thread α → Nat := Thread.owes (assigned threads thread)

def Point.hand : Point α → Nat
  | .countingDown taken true | .leavingTake taken true | .releasing taken => taken.size
  | _ => 0

theorem Point.hand_of_quiet {point : Point α} (quiet : point.collecting = false) : point.hand = 0 := by
  cases point with
  | countingDown taken collects | leavingTake taken collects =>
    cases collects with
    | false => rfl
    | true => cases quiet
  | releasing taken => cases quiet
  | _ => rfl

/-- One turn of a thread that only disposes and collects, with the request it carries out before
and afterwards. -/
inductive Turn (threshold : Nat) (shared : Shared α) :
    Option (Request α) → Point α → Label α → Option (Request α) → Point α → Prop
  | begins {item} : Turn threshold shared none .idle .locked (some (.dispose item)) (.pushing item true)
  | pushes {item} : Turn threshold shared (some (.dispose item)) (.pushing item true) (.pushed item)
      (some (.dispose item)) (.countingUp item true)
  | counts {item} : Turn threshold shared (some (.dispose item)) (.countingUp item true) .countedUp
      (some (.dispose item)) (.leavingPush item true)
  | defers {item} : Turn threshold shared (some (.dispose item)) (.leavingPush item true) (.deferred item)
      (some (.dispose item)) .checking
  | finds_few {item} (few : shared.pending < threshold) :
      Turn threshold shared (some (.dispose item)) .checking .checked none .idle
  | finds_many {item} : Turn threshold shared (some (.dispose item)) .checking .checked (some (.dispose item)) .looking
  | misses {item} (nothing : shared.pending = 0) :
      Turn threshold shared (some (.dispose item)) .looking .foundNothing none .idle
  | looks {item} : Turn threshold shared (some (.dispose item)) .looking .looked (some (.dispose item)) (.entering true)
  | collects_nothing : Turn threshold shared none .idle .foundNothing none .idle
  | collects : Turn threshold shared none .idle .looked (some .collect) (.entering true)
  | enters {request} : Turn threshold shared (some request) (.entering true) .locked (some request) (.taking true)
  | takes {request} : Turn threshold shared (some request) (.taking true) (.took shared.items) (some request)
      (.countingDown shared.items true)
  | uncounts {request taken} : Turn threshold shared (some request) (.countingDown taken true)
      (.countedDown taken.size) (some request) (.leavingTake taken true)
  | answers {request taken} : Turn threshold shared (some request) (.leavingTake taken true) (.answered taken)
      (some request) (.releasing taken)
  | releases {request taken} : Turn threshold shared (some request) (.releasing taken) (.released taken) none .idle

def Request.Reaches : Request α → Point α → Prop
  | .dispose item, .pushing other checks | .dispose item, .countingUp other checks
  | .dispose item, .leavingPush other checks => other = item ∧ checks = true
  | .dispose _, .checking | .dispose _, .looking => True
  | .dispose _, .releasing _ | .collect, .releasing _ => True
  | .dispose _, .entering collects | .dispose _, .taking collects | .dispose _, .countingDown _ collects
  | .dispose _, .leavingTake _ collects | .collect, .entering collects | .collect, .taking collects
  | .collect, .countingDown _ collects | .collect, .leavingTake _ collects => collects = true
  | _, _ => False

/-- The thread has carried out the first of what it was asked, and is at the next of it. -/
inductive Thread.At (asked : List (Request α)) : Thread α → Option (Request α) → Prop
  | rests {rest} (left : rest <:+ asked) : At asked ⟨rest, .idle⟩ none
  | works {request rest point} (left : request :: rest <:+ asked) (reaches : request.Reaches point) :
      At asked ⟨rest, point⟩ (some request)

def Request.Clears (request : Request α) : Prop := request = .collect ∨ ∃ item, request = .dispose item

section

variable {threshold : Nat} {shared : Shared α} {label : Label α} {request request' : Option (Request α)} {point point' : Point α}

/-- What a turn takes it has in hand, until it returns the number. -/
theorem Turn.handed (turn : Turn threshold shared request point label request' point') :
    label.count?.toList.sum + point'.hand = (label.taken?.toList.flatMap Array.toList).length + point.hand := by
  cases turn <;> simp [Label.count?, Label.taken?, Point.hand]

/-- A turn adds no more items than its thread begins to owe a collection for. A thread that gives up
has found few, and is outside of the critical sections. -/
theorem Turn.owed (turn : Turn threshold shared request point label request' point')
    (positive : 1 ≤ threshold) (mover : Nat) :
    (shared.carryOut mover label).items.size + point.owes request ≤ shared.items.size + point'.owes request' ∨
      (shared.carryOut mover label).items = #[] ∨
      (shared.carryOut mover label).items = shared.items ∧ point.inside = false ∧ shared.pending < threshold := by
  cases turn with
  | takes => exact .inr (.inl rfl)
  | finds_few few => exact .inr (.inr ⟨rfl, rfl, few⟩)
  | misses nothing => exact .inr (.inr ⟨rfl, rfl, by omega⟩)
  | _ => exact .inl (by simp [Shared.carryOut, Point.owes, Point.undecided, Request.disposes])

end

namespace Thread

variable {asked : List (Request α)} {state : Thread α} {request : Option (Request α)}

theorem At.underway (stands : state.At asked request) : state.underway asked = request := by
  cases stands with
  | rests left => rfl
  | @works request rest point left reaches =>
    obtain ⟨earlier, rfl⟩ := left
    have next : (earlier ++ request :: rest).reverse[rest.length]? = some request := by simp
    cases point with
    | idle => cases request <;> cases reaches
    | _ => exact next

/-- Whoever owes a collection has not settled whether to make one. -/
theorem owes_le_settles : state.owes asked ≤ if state.settles asked then 1 else 0 := by
  rw [owes, Point.owes, settles]
  cases (state.underway asked).any Request.disposes <;> cases state.point <;> simp [Point.undecided]

end Thread

namespace Shared

variable {threshold thread : Nat} {shared : Shared α} {state after : Thread α} {label : Label α} {events : History α}
  {asked : List (Request α)} {request request' : Option (Request α)} {threads : List (List (Request α))}

theorem turn_of_next (moved : shared.next? threshold thread = some (label, after))
    (found : shared.threads[thread]? = some state) (stands : state.At asked request)
    (clears : ∀ request ∈ asked, request.Clears) :
    ∃ request', after.At asked request' ∧ Turn threshold shared request state.point label request' after.point := by
  rw [next?, found] at moved
  cases stands with
  | @rests rest left =>
    cases rest with
    | nil => cases moved
    | cons request rest =>
      have further : rest <:+ asked := (List.suffix_cons request rest).trans left
      rcases clears request (left.subset List.mem_cons_self) with rfl | ⟨item, rfl⟩
      · rcases look_eq (Option.some.inj moved) with ⟨rfl, nothing, rfl⟩ | ⟨rfl, rfl⟩
        · exact ⟨_, .rests further, .collects_nothing⟩
        · exact ⟨_, .works left rfl, .collects⟩
      · obtain ⟨-, rfl, rfl⟩ := lock_eq_some.mp moved
        exact ⟨_, .works left ⟨rfl, rfl⟩, .begins⟩
  | @works request rest point left reaches =>
    have further : rest <:+ asked := (List.suffix_cons request rest).trans left
    have disposes (collected : request ≠ .collect) : ∃ item, request = .dispose item :=
      (clears request (left.subset List.mem_cons_self)).resolve_left collected
    cases point with
    | idle => cases request <;> cases reaches
    | pushing item checks =>
      obtain ⟨item, rfl⟩ := disposes (by rintro rfl; cases reaches)
      obtain ⟨rfl, rfl⟩ := reaches
      cases moved
      exact ⟨_, .works left ⟨rfl, rfl⟩, .pushes⟩
    | countingUp item checks =>
      obtain ⟨item, rfl⟩ := disposes (by rintro rfl; cases reaches)
      obtain ⟨rfl, rfl⟩ := reaches
      cases moved
      exact ⟨_, .works left ⟨rfl, rfl⟩, .counts⟩
    | leavingPush item checks =>
      obtain ⟨item, rfl⟩ := disposes (by rintro rfl; cases reaches)
      obtain ⟨rfl, rfl⟩ := reaches
      cases moved
      exact ⟨_, .works left trivial, .defers⟩
    | checking =>
      obtain ⟨item, rfl⟩ := disposes (by rintro rfl; cases reaches)
      by_cases many : threshold ≤ shared.pending
      · simp only [many, if_true] at moved
        cases moved
        exact ⟨_, .works left trivial, .finds_many⟩
      · simp only [many, if_false] at moved
        cases moved
        exact ⟨_, .rests further, .finds_few (Nat.lt_of_not_le many)⟩
    | looking =>
      obtain ⟨item, rfl⟩ := disposes (by rintro rfl; cases reaches)
      rcases look_eq (Option.some.inj moved) with ⟨rfl, nothing, rfl⟩ | ⟨rfl, rfl⟩
      · exact ⟨_, .rests further, .misses nothing⟩
      · exact ⟨_, .works left rfl, .looks⟩
    | entering collects =>
      obtain rfl : collects = true := by cases request <;> first | exact reaches | cases reaches
      obtain ⟨-, rfl, rfl⟩ := lock_eq_some.mp moved
      exact ⟨_, .works left (by cases request <;> first | rfl | cases reaches), .enters⟩
    | taking collects =>
      obtain rfl : collects = true := by cases request <;> first | exact reaches | cases reaches
      cases moved
      exact ⟨_, .works left (by cases request <;> first | rfl | cases reaches), .takes⟩
    | countingDown taken collects =>
      obtain rfl : collects = true := by cases request <;> first | exact reaches | cases reaches
      cases moved
      exact ⟨_, .works left (by cases request <;> first | rfl | cases reaches), .uncounts⟩
    | leavingTake taken collects =>
      obtain rfl : collects = true := by cases request <;> first | exact reaches | cases reaches
      cases moved
      exact ⟨_, .works left (by cases request <;> trivial), .answers⟩
    | releasing taken =>
      cases moved
      exact ⟨_, .rests further, .releases⟩

def portion (part : Nat → Thread α → Nat) (shared : Shared α) (thread : Nat) : Nat :=
  (shared.threads[thread]?).elim 0 (part thread)

def total (part : Nat → Thread α → Nat) (shared : Shared α) : Nat :=
  ∑ thread ∈ Finset.range shared.threads.size, shared.portion part thread

def others (part : Nat → Thread α → Nat) (shared : Shared α) (thread : Nat) : Nat :=
  ∑ other ∈ (Finset.range shared.threads.size).erase thread, shared.portion part other

variable {part : Nat → Thread α → Nat}

theorem portion_of_found (part : Nat → Thread α → Nat) (found : shared.threads[thread]? = some state) :
    shared.portion part thread = part thread state := by
  rw [portion, found, Option.elim_some]

theorem mem_range (found : shared.threads[thread]? = some state) : thread ∈ Finset.range shared.threads.size :=
  Finset.mem_range.mpr (Array.getElem?_eq_some_iff.mp found).1

theorem others_add (found : shared.threads[thread]? = some state) :
    shared.others part thread + part thread state = shared.total part := by
  rw [← portion_of_found part found]
  exact Finset.sum_erase_add _ _ (mem_range found)

theorem others_step (moved : shared.next? threshold thread = some (label, after))
    (found : shared.threads[thread]? = some state) :
    (shared.step threshold thread).others part thread = shared.others part thread := by
  have same : (shared.step threshold thread).threads.size = shared.threads.size := by
    rw [threads_step moved, Array.size_setIfInBounds]
  rw [others, others, same]
  refine Finset.sum_congr rfl fun other member => ?_
  rw [portion, portion, getElem?_step moved found, if_neg (Finset.ne_of_mem_erase member)]

theorem total_step (moved : shared.next? threshold thread = some (label, after))
    (found : shared.threads[thread]? = some state) :
    (shared.step threshold thread).total part = shared.others part thread + part thread after := by
  have placed := getElem?_step moved found thread
  rw [if_pos rfl] at placed
  rw [← others_add placed, others_step moved found]

theorem total_eq_zero (nothing : ∀ thread state, shared.threads[thread]? = some state → part thread state = 0) :
    shared.total part = 0 := by
  refine Finset.sum_eq_zero fun thread _ => ?_
  cases found : shared.threads[thread]? with
  | none => rw [portion, found, Option.elim_none]
  | some state => rw [portion_of_found part found, nothing thread state found]

theorem part_le_others {other : Nat} {state' : Thread α} (found : shared.threads[other]? = some state')
    (apart : other ≠ thread) : part other state' ≤ shared.others part thread := by
  rw [← portion_of_found part found]
  exact Finset.single_le_sum (fun _ _ => Nat.zero_le _) (Finset.mem_erase.mpr ⟨apart, mem_range found⟩)

/-- With the items that threads owe a collection for, and those that collections have in hand. -/
structure Bounded (threshold : Nat) (threads : List (List (Request α))) (events : History α) (shared : Shared α) : Prop where
  coherent : Coherent events shared
  stands : ∀ thread state, shared.threads[thread]? = some state → ∃ request, Thread.At (assigned threads thread) state request
  bounded : shared.items.size ≤ threshold - 1 + shared.total (owing threads)
  returned : events.counts.sum + shared.total (fun _ state => state.point.hand) = events.taken.length

/-- The thread that holds the lock counts what it has pushed, and owes a collection for it. -/
theorem Bounded.uncounted_le (kept : Bounded threshold threads events shared)
    (found : shared.threads[thread]? = some state) (outside : state.point.inside = false) :
    shared.owner.uncounted ≤ shared.others (owing threads) thread := by
  cases held : shared.holder with
  | none => rw [owner_free held]; exact Nat.zero_le _
  | some other =>
    cases stood : shared.threads[other]? with
    | none => simp [owner, held, stood, Point.uncounted]
    | some state' =>
      have apart : other ≠ thread := by
        rintro rfl
        have inside := (kept.coherent.exclusive other state found).mpr held
        rw [outside] at inside
        cases inside
      obtain ⟨request, stands⟩ := kept.stands other state' stood
      rw [owner_held held stood]
      refine le_trans ?_ (part_le_others stood apart)
      rw [owing, Thread.owes, stands.underway]
      cases stands with
      | rests left => exact Nat.zero_le _
      | @works request rest point left reaches =>
        cases point <;> try exact Nat.zero_le _
        cases request <;> first | rfl | cases reaches

theorem Bounded.step (positive : 1 ≤ threshold) (clears : ∀ requests ∈ threads, ∀ request ∈ requests, request.Clears)
    (kept : Bounded threshold threads events shared) (moved : shared.next? threshold thread = some (label, after)) :
    Bounded threshold threads (events ++ [(thread, label)]) (shared.step threshold thread) := by
  obtain ⟨state, found, -⟩ := moves_of_next moved
  obtain ⟨request, stands⟩ := kept.stands thread state found
  have clear : ∀ request ∈ assigned threads thread, request.Clears := by
    intro request member
    rw [assigned] at member
    cases listed : threads[thread]? with
    | none => rw [listed] at member; cases member
    | some requests =>
      rw [listed] at member
      exact clears requests (List.mem_of_getElem? listed) request member
  obtain ⟨request', stands', turn⟩ := turn_of_next moved found stands clear
  have same : (shared.step threshold thread).items = (shared.carryOut thread label).items := by
    rw [step_of_next moved, setThread]
  refine ⟨kept.coherent.step moved, fun other state' found' => ?_, ?_, ?_⟩
  · rw [getElem?_step moved found] at found'
    split at found'
    next equal =>
      cases found'
      exact equal ▸ ⟨request', stands'⟩
    next => exact kept.stands other state' found'
  · have before := kept.bounded
    rw [← others_add found] at before
    rw [total_step moved found, same]
    simp only [owing, Thread.owes, stands.underway, stands'.underway] at before ⊢
    rcases turn.owed positive thread with fewer | nothing | ⟨left, outside, few⟩
    · omega
    · rw [nothing]
      exact Nat.zero_le _
    · have uncounted := kept.uncounted_le found outside
      have counted := kept.coherent.accounts.counted
      rw [left]
      omega
  · have before := kept.returned
    have handed := turn.handed
    rw [← others_add found] at before
    rw [total_step moved found, History.counts_snoc, History.taken_snoc, List.sum_append, List.length_append]
    omega

end Shared

open Shared

variable {threads : List (List (Request α))} {threshold : Nat}

theorem bounded_run (clears : ∀ requests ∈ threads, ∀ request ∈ requests, request.Clears) (positive : 1 ≤ threshold)
    (schedule : List Nat) :
    Bounded threshold threads ((share {} threads).history threshold schedule) ((share {} threads).run threshold schedule) := by
  have resting {thread : Nat} {state : Thread α} (found : (share {} threads).threads[thread]? = some state) :
      state = ⟨assigned threads thread, .idle⟩ := by
    rw [getElem?_share, Option.map_eq_some_iff] at found
    obtain ⟨requests, listed, rfl⟩ := found
    rw [assigned, listed, Option.getD_some]
  refine kept_along (Bounded threshold threads) ⟨coherent_run threads threshold [], fun thread state found => ?_,
    Nat.zero_le _, ?_⟩ (Bounded.step positive clears) schedule
  · rw [resting found]
    exact ⟨none, .rests List.suffix_rfl⟩
  · rw [run, List.foldl_nil, total_eq_zero fun thread state found => ?_]
    · rfl
    · rw [resting found, Point.hand_of_quiet rfl]

/-- Any number of threads dispose of items and collect, however their steps fall. The queue holds
fewer items than the threshold, and one more at most for every thread that has deferred an item
and is not done with the check that follows; so it is short of the threshold while nobody
disposes. While nobody collects, the counts that were returned and the items left add up to the
number of items deferred. -/
theorem backlog_bounded (threads : List (List (Request α)))
    (clears : ∀ requests ∈ threads, ∀ request ∈ requests, request.Clears) (threshold : Nat) (positive : 1 ≤ threshold)
    (schedule : List Nat) :
    let events := (share {} threads).history threshold schedule
    let shared := (share {} threads).run threshold schedule
    shared.items.size ≤ threshold - 1 + (settling threads shared).card ∧
    ((∀ (thread : Nat) (state : Thread α), shared.threads[thread]? = some state →
        (state.underway (assigned threads thread)).any Request.disposes = false) → shared.items.size < threshold) ∧
    ((∀ (thread : Nat) (state : Thread α), shared.threads[thread]? = some state → state.point.collecting = false) →
      events.counts.sum + shared.items.size = events.pushes.length ∧
      events.pushes = events.deferrals ++ shared.owner.deferring) := by
  intro events shared
  have kept : Bounded threshold threads events shared := bounded_run clears positive schedule
  have settled : shared.items.size ≤ threshold - 1 + (settling threads shared).card := by
    refine kept.bounded.trans (Nat.add_le_add_left ?_ _)
    rw [settling, Finset.card_filter]
    refine Finset.sum_le_sum fun thread _ => ?_
    rw [portion]
    cases shared.threads[thread]? with
    | none => exact Nat.zero_le _
    | some state => exact Thread.owes_le_settles
  refine ⟨settled, fun quiet => ?_, fun quiet => ⟨?_, kept.coherent.accounts.deferred⟩⟩
  · have nobody : settling threads shared = ∅ := by
      refine Finset.filter_eq_empty_iff.mpr fun thread _ => ?_
      cases found : shared.threads[thread]? with
      | none => simp
      | some state => simp [Thread.settles, quiet thread state found]
    rw [nobody, Finset.card_empty] at settled
    omega
  · have returned := kept.returned
    have ordered : events.pushes.length = events.taken.length + shared.items.size := by
      simp [kept.coherent.accounts.ordered]
    rw [total_eq_zero fun thread state found => Point.hand_of_quiet (quiet thread state found)] at returned
    omega

/-- Two threads have deferred one item each, with a threshold of one, before either of them looks.
Then the first collects both, and the second finds nothing. -/
theorem backlog_bounded_both :
    let threads : List (List (Request Nat)) := [[.dispose 7, .collect], [.dispose 8]]
    let both := [0, 0, 0, 0, 1, 1, 1, 1]
    let schedule := both ++ [0, 0, 0, 0, 0, 0, 0, 1]
    let crowded := (share {} threads).run 1 both
    let events := (share {} threads).history 1 schedule
    let shared := (share {} threads).run 1 schedule
    crowded.items.size = 2 ∧ settling threads crowded = {0, 1} ∧ crowded.items.size ≤ 1 - 1 + (settling threads crowded).card ∧
      shared.items.size < 1 ∧ events.counts = [2] ∧ [2].sum + shared.items.size = events.pushes.length := by
  intro threads both schedule crowded events shared
  have clears : ∀ requests ∈ threads, ∀ request ∈ requests, request.Clears := by
    simp [threads, Request.Clears]
  have early := backlog_bounded threads clears 1 le_rfl both
  have late := backlog_bounded threads clears 1 le_rfl schedule
  have size : crowded.items.size = 2 := by decide +kernel
  have inside : settling threads crowded = {0, 1} := by decide +kernel
  have counts : events.counts = [2] := by decide +kernel
  have rested : shared.threads = #[⟨[.collect], .idle⟩, ⟨[], .idle⟩] := by decide +kernel
  have idle (thread : Nat) (state : Thread Nat) (found : shared.threads[thread]? = some state) : state.point = .idle := by
    rw [rested] at found
    rcases thread with _ | _ | thread <;> simp at found <;> exact found ▸ rfl
  refine ⟨size, inside, early.1, late.2.1 fun thread state found => ?_, counts, ?_⟩
  · rw [Thread.underway, idle thread state found]
    rfl
  · rw [← counts]
    exact (late.2.2 fun thread state found => by rw [idle thread state found]; rfl).1

end CountBridge.Queue
