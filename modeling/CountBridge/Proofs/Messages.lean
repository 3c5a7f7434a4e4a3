import CountBridge.Proofs.Boundary

/-! Text and errors across the boundary keep the accounts, and so does whatever is
done many times over. Reading an error never unwinds: what goes wrong on the way
is trapped, and its unit goes to the reader. -/

namespace CountBridge

open Bridge World

variable {α β : Type} {late bound : Bool} {exit : Exit} {needs : Multiset ObjectId} {agree : α → α → Prop}
  {gives : α → Multiset ObjectId}

def trapped (gives : α → Multiset ObjectId) : Except Wrapper α → Multiset ObjectId
  | .ok value => gives value
  | .error err => unitOf err.handle

theorem goes_intercept (payload : Unwind) : Goes (intercept payload) := by
  cases payload with
  | native err => exact (goes_record _).bind fun _ => .pure _
  | text | number | fault => exact .throw _

theorem Keeps.trap {first second : Bridge α} (raises : Raises late true needs first second Eq gives) :
    Keeps late true exit needs (trap first) (trap second) Eq (trapped gives) := by
  refine fun held => (raises held).outcomeOf_eq.bind_eq fun outcome => ?_
  cases outcome with
  | ok value => exact .pure rfl fun _ _ linked => linked
  | error payload =>
    have goes : Goes (do return Except.error (ε := Wrapper) (α := α) (← intercept payload)) :=
      (goes_intercept payload).bind fun _ => .pure _
    refine ⟨goes, goes, ?_⟩
    rintro s t ⟨id, rfl, linked⟩ _ _
    refine .value rfl (linked.journal fun never => ?_)
    rw [linked.same never]

theorem valid_toUTF8 (text : String) : text.toUTF8.validateUTF8 = true :=
  ByteArray.validateUTF8_eq_true_iff.mpr text.isValidUTF8

theorem keeps_newStringUnchecked (text : String) :
    Keeps late true exit 0 (newStringUnchecked text) (newStringUnchecked text) Eq fun made => unitOf made.handle :=
  (Bound.keeps_newString (valid_toUTF8 text)).bind_eq fun _ => .pure rfl (by rfl)

theorem keeps_newString (text : String) :
    Keeps late true exit 0 (newString text) (newString text) Eq
      fun made => made.toOption.elim 0 fun wrapper => unitOf wrapper.handle := by
  refine keeps_binding.bind (Agree.refl fun _ => ⟨rfl, rfl⟩) ?_
  rintro binding binding' ⟨-, -, limit⟩
  rw [limit]
  dsimp only
  split
  · exact .pure rfl rfl
  · exact (keeps_newStringUnchecked text).map fun _ => rfl

theorem keeps_newError (text : String) :
    Keeps late true exit 0 (newError text) (newError text) Eq fun made => unitOf made.handle := by
  refine keeps_binding.bind (Agree.refl fun _ => ⟨rfl, rfl⟩) ?_
  rintro binding binding' ⟨-, -, limit⟩
  rw [limit]
  apply (keeps_newStringUnchecked _).bind_eq
  intro mess
  exact (Bound.keeps_newError mess.handle).bind_eq fun made => .pure rfl (by rfl)

theorem keeps_copyText (id : ObjectId) :
    Keeps late true exit needs (copyText id) (copyText id) Eq fun _ => needs := by
  apply (Bound.keeps_stringBytes id).bind_eq
  intro shown
  obtain ⟨bytes, size⟩ := shown
  cases bytes with
  | none => exact .pure rfl rfl
  | some bytes => exact .pure rfl rfl

theorem keeps_extractText (handle : Handle) (known : handle ≠ none → bound = true) :
    Keeps late bound exit 0 (extractText handle) (extractText handle) Eq (trapped fun _ => 0) := by
  cases handle with
  | none => exact .pure rfl rfl
  | some id =>
    rw [known (by simp)]
    apply (Bound.keeps_isString id).bind_eq
    intro isString
    cases isString with
    | true => exact (keeps_copyText id).map fun _ => rfl
    | false =>
      apply (Bound.raises_toString id).trap.bind_eq
      intro outcome
      cases outcome with
      | error err => exact .pure rfl rfl
      | ok coerced =>
        apply (keeps_copyText coerced).bind_eq
        intro text
        exact (keeps_releaseHandle coerced).bind_eq fun _ => .pure rfl rfl

namespace Wrapper

theorem keeps_tryMessage (err : Wrapper) (known : err.handle ≠ none → bound = true) :
    Keeps late bound exit 0 err.tryMessage err.tryMessage Eq (trapped fun _ => 0) := by
  obtain ⟨kind, handle⟩ := err
  cases handle with
  | none => exact .pure rfl rfl
  | some id =>
    rw [known (by simp)]
    exact (Bound.keeps_messageOf id).bind_eq fun mess => keeps_extractText mess fun _ => rfl

/-- An error met on the way is dropped. -/
theorem keeps_message (err : Wrapper) (known : err.handle ≠ none → bound = true) :
    Keeps late bound exit 0 err.message err.message Eq fun _ => 0 := by
  obtain ⟨kind, handle⟩ := err
  cases handle with
  | none => exact .pure rfl rfl
  | some id =>
    rw [known (by simp)]
    apply (keeps_tryMessage _ fun _ => rfl).bind_eq
    intro outcome
    cases outcome with
    | ok text => exact .pure rfl rfl
    | error nested =>
      apply (keeps_record fun _ => rfl).bind_eq
      intro _
      exact (keeps_drop nested fun _ => rfl).bind_eq fun _ => .pure rfl rfl

theorem keeps_display (string : Wrapper) (known : string.handle ≠ none → bound = true) :
    Keeps late bound exit 0 string.display string.display Eq fun _ => 0 := by
  obtain ⟨kind, handle⟩ := string
  cases handle with
  | none => exact .pure rfl rfl
  | some id =>
    rw [known (by simp)]
    apply (keeps_extractText (some id) fun _ => rfl).bind_eq
    intro outcome
    cases outcome with
    | ok text => exact .pure rfl rfl
    | error nested => exact (keeps_drop nested fun _ => rfl).bind_eq fun _ => .pure rfl rfl

end Wrapper

end CountBridge
