import CountBridge.Program.Perform
import CountBridge.Proofs.Messages

/-! What a program's operations do many times over, or in two ways, keeps the accounts. -/

namespace CountBridge.Program

open Bridge World

variable {α β : Type} {late bound : Bool} {exit : Exit} {needs units : Multiset ObjectId} {id : ObjectId}

theorem ends_unrecorded (action : Bridge α) (world : World) :
    ends (unrecorded action) world = ((ends action world).1, { (ends action world).2 with
      journal := (ends action world).2.journal.shrink world.journal.size }) := rfl

theorem keeps_unrecorded {first second : Bridge α} {agree : α → α → Prop} {gives : α → Multiset ObjectId}
    (settles : Settles late bound needs first second agree gives) :
    Settles late bound needs (unrecorded first) (unrecorded second) agree gives := by
  refine fun held => ⟨goes_unrecorded (settles held).onward, goes_unrecorded (settles held).onward', ?_⟩
  intro s t linked quiet quiet'
  rw [ends_unrecorded] at quiet quiet' ⊢
  rw [ends_unrecorded]
  have together := (settles held).together s t linked quiet quiet'
  generalize ends first s = left at together ⊢
  generalize ends second t = right at together ⊢
  cases together with
  | unwind never => exact never.elim
  | value same met =>
    refine .value same (met.journal fun never => ?_)
    rw [met.same never, linked.same never]

theorem keeps_repetition (watched : Bool) {first second : Bridge α} {agree : α → α → Prop}
    {gives : α → Multiset ObjectId} (settles : Settles late bound needs first second agree gives) :
    Settles late bound needs (repetition watched first) (repetition watched second) agree gives := by
  cases watched with
  | true => exact settles
  | false => exact keeps_unrecorded settles

/-- Repeated gains add up. -/
theorem keeps_repeatedly_gain (watched : Bool) {action : Bridge Unit} (count : Nat)
    (settles : Settles late bound 0 action action Eq fun _ => units) :
    Settles late bound needs (repeatedly watched count action) (repeatedly watched count action) Eq
      fun _ => count • units + needs := by
  induction count generalizing needs with
  | zero => exact .pure rfl (by simp)
  | succ count ih =>
    have gained := (keeps_repetition watched settles).frame needs
    rw [zero_add] at gained
    apply gained.bind_eq
    intro _
    apply ih.conseq (fun _ _ same => same)
    intro _ _ _
    rw [succ_nsmul, add_assoc]

theorem keeps_repeatedly_loss (watched : Bool) {action : Bridge Unit} (count : Nat)
    (settles : Settles late bound units action action Eq fun _ => 0) :
    Settles late bound (count • units + needs) (repeatedly watched count action) (repeatedly watched count action) Eq
      fun _ => needs := by
  induction count with
  | zero => exact .pure rfl (by simp)
  | succ count ih =>
    have lost := (keeps_repetition watched settles).frame (count • units + needs)
    rw [zero_add, ← add_assoc, ← succ_nsmul'] at lost
    exact lost.bind_eq fun _ => ih

theorem keeps_countOf (id : ObjectId) : Settles late bound needs (countOf id) (countOf id) (Told late) fun _ => needs :=
  keeps_get fun _ _ _ linked => ⟨fun never => by rw [linked.same never], trivial⟩

theorem keeps_retain (kind : WrapperKind) (id : ObjectId) :
    Settles late true 0 (Wrapper.retain kind (some id)) (Wrapper.retain kind (some id)) Eq fun _ => {id} :=
  (Bound.keeps_increment id).bind_eq fun _ => .pure rfl rfl

theorem keeps_burst (watched : Bool) (id : ObjectId) (count : Nat) :
    Keeps late true exit 0 (burst watched id count) (burst watched id count) (Told late) fun _ => 0 := by
  have gain : Settles late true 0 (do let _ ← Wrapper.retain .object (some id))
      (do let _ ← Wrapper.retain .object (some id)) Eq fun _ => {id} :=
    (keeps_retain .object id).bind_eq fun _ => .pure rfl rfl
  have loss : Settles late true {id} (Wrapper.drop ⟨.object, some id⟩) (Wrapper.drop ⟨.object, some id⟩) Eq
      fun _ => 0 := Wrapper.keeps_drop ⟨.object, some id⟩ fun _ => rfl
  apply (keeps_repeatedly_gain watched count gain).settled.bind_eq
  intro _
  apply (keeps_countOf id).settled.bind Told.refl
  intro during during' told
  apply (keeps_repeatedly_loss watched count loss).settled.bind_eq
  intro _
  apply (keeps_countOf id).settled.bind Told.refl
  intro last last' told'
  exact .pure ⟨fun never => by rw [told.1 never, told'.1 never], trivial⟩ rfl

theorem keeps_cloneRepeatedly (watched : Bool) (wrapper : Wrapper) (known : wrapper.handle ≠ none → bound = true)
    (count : Nat) (equal : Bool) :
    Settles late bound needs (cloneRepeatedly watched wrapper count equal)
      (cloneRepeatedly watched wrapper count equal) Eq fun _ => count • unitOf wrapper.handle + needs := by
  have cloned : Settles late bound 0 wrapper.clone wrapper.clone Eq fun _ => unitOf wrapper.handle := by
    obtain ⟨kind, handle⟩ := wrapper
    cases handle with
    | none => exact .pure rfl rfl
    | some id =>
      rw [known (by simp)]
      exact (Bound.keeps_increment id).bind_eq fun _ => .pure rfl rfl
  induction count generalizing needs equal with
  | zero => exact .pure rfl (by simp)
  | succ count ih =>
    have gained := (keeps_repetition watched cloned).frame needs
    rw [zero_add] at gained
    apply gained.bind_eq
    intro copy
    apply (ih _).conseq (fun _ _ same => same)
    intro _ _ _
    rw [succ_nsmul, add_assoc]

theorem keeps_hammer (watched : Bool) (id : ObjectId) (count threads : Nat) (equal : Bool) :
    Settles late true 0 (hammer watched id count threads equal) (hammer watched id count threads equal)
      (Agree late fun first second => first.1 = second.1) fun _ => 0 := by
  induction threads generalizing equal with
  | zero =>
    apply (keeps_countOf id).bind Told.refl
    intro last last' told
    exact .pure ⟨fun never => by rw [told.1 never], rfl⟩ rfl
  | succ threads ih =>
    have loss : Settles late true {id} (Wrapper.drop ⟨.object, some id⟩) (Wrapper.drop ⟨.object, some id⟩) Eq
        fun _ => 0 := Wrapper.keeps_drop ⟨.object, some id⟩ fun _ => rfl
    have dropped : Settles late true ((count + 1) • {id} + 0) _ _ Eq fun _ => 0 :=
      keeps_repeatedly_loss watched (count + 1) loss
    rw [succ_nsmul, add_zero] at dropped
    apply (keeps_repetition watched (keeps_retain .object id)).bind_eq
    intro _
    apply (keeps_cloneRepeatedly watched ⟨.object, some id⟩ (fun _ => rfl) count equal).bind_eq
    intro equal
    exact dropped.bind_eq fun _ => ih equal

theorem keeps_readTwice (wrapper : Wrapper) (known : wrapper.handle ≠ none → bound = true) :
    Keeps late bound exit 0 (readTwice wrapper) (readTwice wrapper) Eq fun found => trapped (fun _ => 0) found.1 := by
  have second {routine : Bridge String} (first : Except Wrapper String)
      (settles : Settles late bound 0 routine routine Eq fun _ => 0) :
      Keeps late bound exit (trapped (fun _ => 0) first) (do return (first, ← routine)) (do return (first, ← routine)) Eq
        fun found => trapped (fun _ => 0) found.1 := by
    have framed := settles.frame (trapped (fun _ => 0) first)
    rw [zero_add] at framed
    exact framed.settled.bind_eq fun _ => .pure rfl rfl
  unfold readTwice
  split
  · exact (keeps_extractText wrapper.handle known).bind_eq fun first => second first (wrapper.keeps_display known)
  · exact (wrapper.keeps_tryMessage known).bind_eq fun first => second first (wrapper.keeps_message known)

theorem keeps_ownText (id : ObjectId) :
    Keeps late bound exit {id} (ownText id) (ownText id) Eq fun _ => {id} := by
  refine fun held => ⟨World.Continues.refl, World.Continues.refl, fun s t linked _ _ => ?_⟩
  have read (world : World) : ends (ownText id) world =
      (.ok ((world.store.find? id).bind fun object => object.stringBytes?.map Text.decode), world) := rfl
  obtain ⟨kept, found⟩ : ∃ object, s.store.find? id = some object := linked.sound'.live_of_held (by simp)
  obtain ⟨object, present, alike, -⟩ := linked.survivor found
  rw [read, read, found, present]
  refine .value ?_ linked
  simp only [Option.bind_some, alike.stringBytes?]

end CountBridge.Program
