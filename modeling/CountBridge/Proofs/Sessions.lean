import CountBridge.Program.Run
import CountBridge.Proofs.Bootstrapping
import CountBridge.Proofs.Repetitions
import Mathlib.Data.Multiset.Bind

/-! Sessions side by side. A program owns units itself and by the wrappers in its
open scopes; what is in hand besides while an operation runs is named apart. Two
sessions of the same program differ in nothing but their worlds and steps. -/

namespace CountBridge.Program

open World

variable {α β : Type}

def unitsIn (wrappers : Multiset Wrapper) : Multiset ObjectId := wrappers.bind fun wrapper => unitOf wrapper.handle

def Frame.contents (frame : Frame) : Multiset Wrapper :=
  ↑(frame.wrappers.map (·.2)) + frame.guard?.elim 0 ({·})

def contents (frames : List Frame) : Multiset Wrapper := (frames.map Frame.contents).sum

def Session.holdings (session : Session α) : Multiset ObjectId :=
  ↑session.units + unitsIn (contents session.frames)

@[simp] theorem unitsIn_zero : unitsIn 0 = 0 := Multiset.zero_bind _

@[simp] theorem unitsIn_add (first second : Multiset Wrapper) :
    unitsIn (first + second) = unitsIn first + unitsIn second := Multiset.add_bind _ _ _

@[simp] theorem unitsIn_singleton (wrapper : Wrapper) : unitsIn {wrapper} = unitOf wrapper.handle :=
  Multiset.singleton_bind _ _

theorem unitsIn_coe (wrappers : List Wrapper) : unitsIn ↑wrappers = unitsOf (wrappers.map (·.handle)) := by
  induction wrappers with
  | nil => rfl
  | cons wrapper rest ih =>
    rw [← Multiset.cons_coe, unitsIn, Multiset.cons_bind, ← unitsIn, ih, List.map_cons, unitsOf_cons]

@[simp] theorem contents_nil : contents [] = 0 := rfl

@[simp] theorem contents_cons (frame : Frame) (outer : List Frame) :
    contents (frame :: outer) = frame.contents + contents outer := by
  simp [contents]

theorem contents_store (name : Name) (wrapper : Wrapper) (frames : List Frame) :
    contents (storeWrapper name wrapper frames) = {wrapper} + contents frames := by
  cases frames with
  | nil => simp [storeWrapper, Frame.contents]
  | cons frame outer =>
    simp only [storeWrapper, contents_cons, Frame.contents, List.map_cons, ← Multiset.cons_coe,
      ← Multiset.singleton_add]
    abel

theorem perm_of_takeOut {name : Name} {found : β} {entries rest : List (Name × β)}
    (taken : takeOut name entries = some (found, rest)) :
    (↑(entries.map (·.2)) : Multiset β) = {found} + ↑(rest.map (·.2)) := by
  induction entries generalizing rest with
  | nil => cases taken
  | cons entry entries ih =>
    obtain ⟨other, value⟩ := entry
    simp only [takeOut] at taken
    split at taken
    · cases taken
      rw [List.map_cons, ← Multiset.cons_coe, Multiset.singleton_add]
    · simp only [Option.map_eq_some_iff, Prod.mk.injEq] at taken
      obtain ⟨⟨value', kept⟩, inner, rfl, rfl⟩ := taken
      rw [List.map_cons, ← Multiset.cons_coe, ih inner, List.map_cons, ← Multiset.cons_coe, Multiset.singleton_add,
        Multiset.singleton_add, Multiset.cons_swap]

theorem contents_take {name : Name} {wrapper : Wrapper} {frames rest : List Frame}
    (taken : takeWrapper name frames = some (wrapper, rest)) : contents frames = {wrapper} + contents rest := by
  induction frames generalizing rest with
  | nil => cases taken
  | cons frame outer ih =>
    simp only [takeWrapper] at taken
    split at taken
    next found wrappers out =>
      cases taken
      simp only [contents_cons, Frame.contents, perm_of_takeOut out]
      abel
    next =>
      simp only [Option.map_eq_some_iff, Prod.mk.injEq] at taken
      obtain ⟨⟨found, frames⟩, inner, rfl, rfl⟩ := taken
      rw [contents_cons, ih inner, contents_cons]
      abel

theorem value_takeOut (name : Name) (entries : List (Name × β)) :
    (takeOut name entries).map (·.1) = lookup name entries := by
  induction entries with
  | nil => rfl
  | cons entry rest ih =>
    obtain ⟨other, value⟩ := entry
    simp only [takeOut, lookup]
    split
    · rfl
    · rw [← ih, Option.map_map]
      rfl

/-- What is taken is what is found. -/
theorem value_takeWrapper (name : Name) (frames : List Frame) :
    (takeWrapper name frames).map (·.1) = findWrapper name frames := by
  induction frames with
  | nil => rfl
  | cons frame outer ih =>
    have here := value_takeOut name frame.wrappers
    simp only [takeWrapper, findWrapper]
    cases taken : takeOut name frame.wrappers with
    | some found =>
      rw [taken] at here
      rw [← here]
      rfl
    | none =>
      rw [taken] at here
      rw [← here, ← ih]
      simp only [Option.map_none, Option.map_map]
      rfl

theorem perm_of_exchange {name : Name} {found : β} {entries : List (Name × β)} (replacement : β)
    (present : lookup name entries = some found) : ∃ changed, exchange name replacement entries = some changed ∧
      ({replacement} : Multiset β) + ↑(entries.map (·.2)) = {found} + ↑(changed.map (·.2)) := by
  induction entries with
  | nil => cases present
  | cons entry entries ih =>
    obtain ⟨other, value⟩ := entry
    simp only [lookup] at present
    simp only [exchange]
    split at present
    next same =>
      cases present
      refine ⟨_, if_pos same, ?_⟩
      simp only [List.map_cons, ← Multiset.cons_coe, ← Multiset.singleton_add]
      abel
    next different =>
      obtain ⟨changed, inner, same⟩ := ih present
      refine ⟨(other, value) :: changed, by rw [if_neg different, inner]; rfl, ?_⟩
      simp only [List.map_cons, ← Multiset.cons_coe, ← Multiset.singleton_add]
      rw [add_left_comm, same, add_left_comm]

theorem exchange_missing {name : Name} {replacement : β} {entries : List (Name × β)}
    (missing : lookup name entries = none) : exchange name replacement entries = none := by
  induction entries with
  | nil => rfl
  | cons entry entries ih =>
    obtain ⟨other, value⟩ := entry
    simp only [lookup] at missing
    split at missing
    · cases missing
    next different => simp [exchange, different, ih missing]

theorem contents_replace {name : Name} {found : Wrapper} {frames : List Frame}
    (present : findWrapper name frames = some found) (wrapper : Wrapper) :
    {wrapper} + contents frames = {found} + contents (replaceWrapper name wrapper frames) := by
  induction frames with
  | nil => cases present
  | cons frame outer ih =>
    simp only [findWrapper] at present
    cases here : lookup name frame.wrappers with
    | some other =>
      rw [here] at present
      cases present
      obtain ⟨changed, exchanged, same⟩ := perm_of_exchange wrapper here
      simp only [replaceWrapper, exchanged, contents_cons, Frame.contents]
      rw [← add_assoc, ← add_assoc, same]
      abel
    | none =>
      rw [here] at present
      simp only [replaceWrapper, exchange_missing here, contents_cons]
      rw [add_left_comm, ih present]
      abel

theorem mem_of_lookup {name : Name} {found : β} {entries : List (Name × β)}
    (present : lookup name entries = some found) : found ∈ entries.map (·.2) := by
  induction entries with
  | nil => cases present
  | cons entry entries ih =>
    obtain ⟨other, value⟩ := entry
    simp only [lookup] at present
    split at present
    · cases present
      exact List.mem_cons_self
    · exact List.mem_cons_of_mem _ (ih present)

theorem mem_contents_of_find {name : Name} {found : Wrapper} {frames : List Frame}
    (present : findWrapper name frames = some found) : found ∈ contents frames := by
  induction frames with
  | nil => cases present
  | cons frame outer ih =>
    simp only [findWrapper] at present
    rw [contents_cons, Multiset.mem_add]
    split at present
    next wrapper here =>
      cases present
      exact .inl (Multiset.mem_add.mpr (.inl (mem_of_lookup here)))
    next => exact .inr (ih present)

end CountBridge.Program
