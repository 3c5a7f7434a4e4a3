import Mathlib
import CountBridge.Text.Utf8

/-! Texts cut to a number of bytes. The cut is made at the last position between two
characters that is not too far, so as much is kept as whole characters allow. -/

namespace CountBridge.Text

variable {text kept other : String} {limit position : Nat}

theorem cutPosition_le (text : String) (limit : Nat) : cutPosition text limit ≤ limit := by
  induction limit with
  | zero => exact Nat.le_refl _
  | succ limit ih =>
    rw [cutPosition]
    split <;> omega

/-- No character is cut in two. The beginning at least is a place to cut at. -/
theorem isValid_cutPosition (text : String) (limit : Nat) :
    String.Pos.Raw.IsValid text ⟨cutPosition text limit⟩ := by
  induction limit with
  | zero => exact String.Pos.Raw.isValid_zero
  | succ limit ih =>
    rw [cutPosition]
    split
    next whole => exact String.Pos.Raw.isValid_eq_true_iff.mp whole
    next split => exact ih

/-- The way back from a position to the first one at which the text may be cut. There is no way
on from the beginning, so one that came there could only end. -/
inductive Retreats (text : String) : Nat → Nat → Prop
  | ends {position : Nat} (whole : String.Pos.Raw.IsValid text ⟨position⟩) : Retreats text position position
  | back {position found : Nat} (inside : ¬ String.Pos.Raw.IsValid text ⟨position + 1⟩) (further : Retreats text position found) :
      Retreats text (position + 1) found

theorem retreats_cutPosition (text : String) (limit : Nat) : Retreats text limit (cutPosition text limit) := by
  induction limit with
  | zero => exact .ends String.Pos.Raw.isValid_zero
  | succ limit ih =>
    rw [cutPosition]
    split
    next whole => exact .ends (String.Pos.Raw.isValid_eq_true_iff.mp whole)
    next split => exact .back (fun whole => split (String.Pos.Raw.isValid_eq_true_iff.mpr whole)) ih

theorem le_cutPosition (whole : String.Pos.Raw.IsValid text ⟨position⟩) (inside : position ≤ limit) :
    position ≤ cutPosition text limit := by
  induction limit with
  | zero => exact inside
  | succ limit ih =>
    rw [cutPosition]
    split
    next _ => exact inside
    next split =>
      have before : position ≠ limit + 1 := by
        intro same
        subst same
        exact split (String.Pos.Raw.isValid_eq_true_iff.mpr whole)
      exact ih (by omega)

/-- The beginnings of a text that end between two characters, and no others, are those that some
characters of the text make up. -/
theorem isValid_size_iff : (∃ kept : String, kept.utf8ByteSize = position ∧ kept.toList <+: text.toList) ↔
    String.Pos.Raw.IsValid text ⟨position⟩ := by
  rw [String.Pos.Raw.isValid_iff_exists_append]
  constructor
  · rintro ⟨kept, rfl, rest, joined⟩
    exact ⟨kept, String.ofList rest, by rw [← String.toList_inj]; simp [joined], rfl⟩
  · rintro ⟨kept, rest, rfl, same⟩
    exact ⟨kept, (congrArg String.Pos.Raw.byteIdx same).symm, rest.toList, by simp⟩

theorem extract_prefix (start : kept.toList <+: text.toList) :
    String.Pos.Raw.extract text 0 ⟨kept.utf8ByteSize⟩ = kept := by
  obtain ⟨rest, joined⟩ := start
  have extracted := String.extract_of_valid [] kept.toList rest
  have whole : String.ofList ([] ++ kept.toList ++ rest) = text := by simp [joined]
  rw [whole, String.ofList_toList] at extracted
  simpa [← String.utf8ByteSize_ofList] using extracted

/-- Of two beginnings of a text, the shorter begins the longer. -/
theorem prefix_of_size_le (first : other.toList <+: text.toList) (second : kept.toList <+: text.toList)
    (shorter : other.utf8ByteSize ≤ kept.utf8ByteSize) : other.toList <+: kept.toList := by
  rcases List.prefix_or_prefix_of_prefix first second with within | ⟨more, joined⟩
  · exact within
  · have sizes : kept.utf8ByteSize + (String.ofList more).utf8ByteSize = other.utf8ByteSize := by
      rw [← String.utf8ByteSize_append]
      congr 1
      rw [← String.toList_inj]
      simp [joined]
    have nothing : more = [] := by
      rw [String.utf8ByteSize_ofList] at sizes
      exact String.utf8Len_eq_zero.mp (by omega)
    rw [nothing, List.append_nil] at joined
    exact joined ▸ List.prefix_rfl

/-- The longest beginning of a text that is made of whole characters and fits in `limit` bytes. -/
structure LongestFitting (text : String) (limit : Nat) (kept : String) : Prop where
  start : kept.toList <+: text.toList
  fits : kept.utf8ByteSize ≤ limit
  longest : ∀ other : String, other.toList <+: text.toList → other.utf8ByteSize ≤ limit → other.toList <+: kept.toList

theorem LongestFitting.unique (first : LongestFitting text limit kept) (second : LongestFitting text limit other) : kept = other := by
  have within := second.longest kept first.start first.fits
  have back := first.longest other second.start second.fits
  exact String.toList_inj.mp (within.eq_of_length_le back.length_le)

/-- Nothing is cut off exactly if the whole text fits. -/
theorem LongestFitting.eq_iff (cut : LongestFitting text limit kept) : kept = text ↔ text.utf8ByteSize ≤ limit := by
  constructor
  · intro same
    exact same ▸ cut.fits
  · intro fits
    exact cut.unique ⟨List.prefix_rfl, fits, fun other start _ => start⟩

theorem clamp_longest (text : String) (limit : Nat) : LongestFitting text limit (clamp text limit) := by
  rw [clamp]
  split
  next fits => exact ⟨List.prefix_rfl, fits, fun other start _ => start⟩
  next long =>
    obtain ⟨kept, size, start⟩ := isValid_size_iff.mpr (isValid_cutPosition text limit)
    rw [← size, extract_prefix start]
    refine ⟨start, size.trans_le (cutPosition_le text limit), fun other begins fits => ?_⟩
    refine prefix_of_size_le begins start ?_
    rw [size]
    exact le_cutPosition (isValid_size_iff.mp ⟨other, rfl, begins⟩) fits

/-- Cutting further is cutting at once. -/
theorem LongestFitting.trans {more : Nat} (first : LongestFitting text more kept) (second : LongestFitting kept limit other)
    (shorter : limit ≤ more) : LongestFitting text limit other := by
  refine ⟨second.start.trans first.start, second.fits, fun beginning start fits => ?_⟩
  exact second.longest beginning (first.longest beginning start (fits.trans shorter)) fits

/-- No more is lost than a character takes, the next one being what did not fit. -/
theorem LongestFitting.lt_size_add_four (cut : LongestFitting text limit kept) (long : limit < text.utf8ByteSize) :
    limit < kept.utf8ByteSize + 4 := by
  obtain ⟨rest, joined⟩ := cut.start
  cases rest with
  | nil =>
    have whole : kept = text := String.toList_inj.mp (by rw [← joined, List.append_nil])
    exact absurd (cut.eq_iff.mp whole) (Nat.not_le.mpr long)
  | cons next rest =>
    have begins : (kept.push next).toList <+: text.toList := ⟨rest, by rw [← joined]; simp⟩
    have narrow := next.utf8Size_le_four
    by_contra short
    have longer := cut.longest (kept.push next) begins (by rw [String.utf8ByteSize_push]; omega)
    exact absurd longer.length_le (by simp)

theorem size_clamp (long : limit < text.utf8ByteSize) : (clamp text limit).utf8ByteSize = cutPosition text limit := by
  obtain ⟨kept, size, start⟩ := isValid_size_iff.mpr (isValid_cutPosition text limit)
  rw [clamp, if_neg (Nat.not_le.mpr long), ← size, extract_prefix start]

/-- Whatever the text and the limit, the way back from the limit ends at a place between two
characters, and what comes before it is the longest beginning that fits. Less than a character of
four bytes is given away. Cutting to the same limit again changes nothing, and neither does
cutting to a higher one before. -/
theorem clamp_cuts_at_last_boundary (text : String) (limit : Nat) :
    (limit < text.utf8ByteSize →
      Retreats text limit (cutPosition text limit) ∧ String.Pos.Raw.IsValid text ⟨cutPosition text limit⟩ ∧
        clamp text limit = String.Pos.Raw.extract text 0 ⟨cutPosition text limit⟩ ∧
        (clamp text limit).utf8ByteSize = cutPosition text limit ∧ limit < (clamp text limit).utf8ByteSize + 4) ∧
    LongestFitting text limit (clamp text limit) ∧
    (clamp text limit = text ↔ text.utf8ByteSize ≤ limit) ∧
    clamp (clamp text limit) limit = clamp text limit ∧
    ∀ more, limit ≤ more → clamp (clamp text more) limit = clamp text limit := by
  have longest := clamp_longest text limit
  have further (more : Nat) (shorter : limit ≤ more) : clamp (clamp text more) limit = clamp text limit :=
    ((clamp_longest text more).trans (clamp_longest _ limit) shorter).unique longest
  refine ⟨fun long => ?_, longest, longest.eq_iff, further limit le_rfl, further⟩
  refine ⟨retreats_cutPosition text limit, isValid_cutPosition text limit, ?_, size_clamp long, longest.lt_size_add_four long⟩
  rw [clamp, if_neg (Nat.not_le.mpr long)]

/-- A limit inside the snowman, which goes back over two of its bytes. -/
theorem clamp_cuts_at_last_boundary_inside :
    3 < "a☃b".utf8ByteSize ∧ Retreats "a☃b" 3 1 ∧ clamp "a☃b" 3 = "a" ∧ 3 < (clamp "a☃b" 3).utf8ByteSize + 4 ∧
      clamp (clamp "a☃b" 4) 3 = "a" := by
  have long : 3 < "a☃b".utf8ByteSize := by decide
  have cut : clamp "a☃b" 3 = "a" := by cbv
  obtain ⟨back, -, -, -, further⟩ := clamp_cuts_at_last_boundary "a☃b" 3
  obtain ⟨retreats, -, -, size, near⟩ := back long
  have one : cutPosition "a☃b" 3 = 1 := by rw [← size, cut]; decide
  exact ⟨long, one ▸ retreats, cut, near, (further 4 (by decide)).trans cut⟩

end CountBridge.Text
