import Mathlib
import CountBridge.Config.Environment

/-! The grammar of configuration texts. A policy is one of four names in whatever case; a number is
decimal, with one plus sign at most and blanks around it. The environment is read by that grammar:
what is given replaces a default, and of several texts that cannot be read the first is told of. -/

namespace CountBridge

def SameLetter (written small : Char) : Prop :=
  written = small ∨ written.isUpper = true ∧ written.toNat + 32 = small.toNat

/-- The same ASCII letters in whatever case, and the same characters otherwise. -/
def SameLetters (text name : String) : Prop := List.Forall₂ SameLetter text.toList name.toList

inductive PolicyText (text : String) : ReleasePolicy → Prop
  | immediate (same : SameLetters text "immediate") : PolicyText text .immediate
  | eager (same : SameLetters text "eager") : PolicyText text .immediate
  | deferred (same : SameLetters text "deferred") : PolicyText text .deferred
  | lazy (same : SameLetters text "lazy") : PolicyText text .deferred

theorem toNat_toLower_of_isUpper {c : Char} (upper : c.isUpper = true) : c.toLower.toNat = c.toNat + 32 := by
  simp only [Char.isUpper, decide_eq_true_eq] at upper
  have above : 65 ≤ c.val.toNat := UInt32.le_iff_toNat_le.mp upper.1
  have below : c.val.toNat ≤ 90 := UInt32.le_iff_toNat_le.mp upper.2
  rw [Char.toLower, dif_pos upper]
  simp only [Char.toNat, UInt32.toNat_add]
  rw [show ('a'.val - 'A'.val).toNat = 32 from rfl]
  omega

theorem toLower_of_not_isUpper {c : Char} (small : c.isUpper = false) : c.toLower = c := by
  simp only [Char.isUpper, decide_eq_false_iff_not] at small
  rw [Char.toLower, dif_neg small]

theorem sameLetter_iff {written small : Char} (lower : small.isUpper = false) :
    SameLetter written small ↔ written.toLower = small := by
  cases upper : written.isUpper with
  | true =>
    have lowered := toNat_toLower_of_isUpper upper
    constructor
    · rintro (rfl | ⟨-, same⟩)
      · rw [upper] at lower
        cases lower
      · exact Char.toNat_inj.mp (lowered.trans same)
    · rintro rfl
      exact .inr ⟨upper, lowered.symm⟩
  | false =>
    rw [toLower_of_not_isUpper upper]
    constructor
    · rintro (same | ⟨is, -⟩)
      · exact same
      · rw [upper] at is
        cases is
    · exact .inl

theorem sameLetters_iff {text name : String} (lower : name.toList.any Char.isUpper = false) :
    SameLetters text name ↔ text.toList.map Char.toLower = name.toList := by
  rw [SameLetters, ← List.forall₂_eq_eq_eq, List.forall₂_map_left_iff]
  generalize text.toList = written at *
  generalize name.toList = letters at *
  induction letters generalizing written with
  | nil => rw [List.forall₂_nil_right_iff, List.forall₂_nil_right_iff]
  | cons small letters ih =>
    cases written with
    | nil => exact ⟨nofun, nofun⟩
    | cons c written =>
      rw [List.any_cons, Bool.or_eq_false_iff] at lower
      rw [List.forall₂_cons, List.forall₂_cons, sameLetter_iff lower.1, ih _ lower.2]

theorem SameLetters.refl (text : String) : SameLetters text text := List.forall₂_same.mpr fun _ _ => .inl rfl

theorem ofText?_eq_some_iff (text : String) (policy : ReleasePolicy) :
    ReleasePolicy.ofText? text = some policy ↔ PolicyText text policy := by
  have immediate := @sameLetters_iff text "immediate" (by decide)
  have eager := @sameLetters_iff text "eager" (by decide)
  have deferred := @sameLetters_iff text "deferred" (by decide)
  have lazy := @sameLetters_iff text "lazy" (by decide)
  rw [ReleasePolicy.ofText?]
  constructor
  · intro read
    split at read
    next named =>
      cases read
      exact named.elim (fun same => .immediate (immediate.mpr same)) fun same => .eager (eager.mpr same)
    next =>
      split at read
      next named =>
        cases read
        exact named.elim (fun same => .deferred (deferred.mpr same)) fun same => .lazy (lazy.mpr same)
      next => cases read
  · intro named
    cases named with
    | immediate same => rw [immediate.mp same]; rfl
    | eager same => rw [eager.mp same]; rfl
    | deferred same => rw [deferred.mp same]; rfl
    | lazy same => rw [lazy.mp same]; rfl

/-- Digits of a number, perhaps after a plus sign, with blanks before and after. -/
inductive CountText (text : String) (value : UInt64) : Prop
  | mk (before sign digits after : List Char) (written : text.toList = before ++ (sign ++ digits) ++ after)
      (blank : ∀ c ∈ before ++ after, Text.isBlank c = true) (signed : sign = [] ∨ sign = ['+']) (some : digits ≠ [])
      (decimal : ∀ c ∈ digits, c.isDigit = true) (amounts : value.toNat = Nat.ofDigitChars 10 digits 0)

namespace Text

variable {before core after digits : List Char} {c : Char} {value : Nat} {count : UInt64}

theorem isBlank_of_isDigit (digit : c.isDigit = true) : isBlank c = false := by
  obtain ⟨low, high⟩ := Char.isDigit_iff_toNat.mp digit
  have between : 48 ≤ c.toNat ∧ c.toNat ≤ 57 := ⟨low, high⟩
  rw [← Char.ofNat_toNat c]
  generalize c.toNat = code at between
  obtain ⟨low, high⟩ := between
  interval_cases code <;> rfl

theorem dropWhile_isBlank_of_solid (solid : ∀ c ∈ core, isBlank c = false) : core.dropWhile isBlank = core := by
  cases core with
  | nil => rfl
  | cons c core => rw [List.dropWhile_cons_of_neg (by simp [solid c])]

theorem trim_surrounded (blank : ∀ c ∈ before ++ after, isBlank c = true) (solid : ∀ c ∈ core, isBlank c = false) :
    trim (before ++ core ++ after) = core := by
  have early : ∀ c ∈ before, isBlank c = true := fun c member => blank c (List.mem_append_left _ member)
  have late : ∀ c ∈ after.reverse, isBlank c = true := fun c member =>
    blank c (List.mem_append_right _ (List.mem_reverse.mp member))
  have back : ∀ c ∈ core.reverse, isBlank c = false := fun c member => solid c (List.mem_reverse.mp member)
  have front : (core ++ after).dropWhile isBlank = if core = [] then [] else core ++ after := by
    cases core with
    | nil => rw [if_pos rfl, List.nil_append, List.dropWhile_eq_nil_iff.mpr fun c member => late c (List.mem_reverse.mpr member)]
    | cons c core => rw [if_neg (List.cons_ne_nil _ _), List.cons_append, List.dropWhile_cons_of_neg (by simp [solid c])]
  rw [trim, List.append_assoc, List.dropWhile_append_of_pos early, front]
  split
  next nothing => rw [nothing]; rfl
  next =>
    rw [List.reverse_append, List.dropWhile_append_of_pos late, dropWhile_isBlank_of_solid back, List.reverse_reverse]

/-- What is taken off a text at its ends are blanks. -/
theorem exists_trim (text : List Char) :
    ∃ before after, text = before ++ trim text ++ after ∧ ∀ c ∈ before ++ after, isBlank c = true := by
  let rest := text.dropWhile isBlank
  have split : rest = trim text ++ (rest.reverse.takeWhile isBlank).reverse := by
    rw [trim, ← List.reverse_append, List.takeWhile_append_dropWhile, List.reverse_reverse]
  refine ⟨text.takeWhile isBlank, (rest.reverse.takeWhile isBlank).reverse, ?_, fun c member => ?_⟩
  · rw [List.append_assoc, ← split, List.takeWhile_append_dropWhile]
  · rcases List.mem_append.mp member with early | late
    · exact List.mem_takeWhile_imp early
    · exact List.mem_takeWhile_imp (List.mem_reverse.mp late)

theorem decimalDigit?_eq (c : Char) : decimalDigit? c = if c.isDigit then some (c.toNat - '0'.toNat) else none := by
  simp only [decimalDigit?, Char.isDigit, Char.le_def, Bool.and_eq_true, decide_eq_true_eq]

theorem le_ofDigitChars (digits : List Char) (value : Nat) : value ≤ Nat.ofDigitChars 10 digits value := by
  rw [Nat.ofDigitChars_eq_ofDigitChars_zero]
  have positive := Nat.pow_pos (n := digits.length) (show 0 < 10 by decide)
  exact Nat.le_trans (Nat.le_mul_of_pos_left value positive) (Nat.le_add_right _ _)

/-- Digits are read as the number they amount to, unless that is too large. -/
theorem readDigits_eq_some_iff (small : value < UInt64.size) :
    readDigits digits value = some count ↔
      (∀ c ∈ digits, c.isDigit = true) ∧ count.toNat = Nat.ofDigitChars 10 digits value := by
  induction digits generalizing value with
  | nil =>
    rw [readDigits, Option.some.injEq, Nat.ofDigitChars_nil, ← UInt64.toNat_inj, UInt64.toNat_ofNat_of_lt' small]
    exact ⟨fun same => ⟨List.forall_mem_nil _, same.symm⟩, fun read => read.2.symm⟩
  | cons c digits ih =>
    rw [readDigits, decimalDigit?_eq, Nat.ofDigitChars_cons, Nat.mul_comm 10, List.forall_mem_cons]
    cases digit : c.isDigit with
    | false => exact ⟨nofun, fun read => nomatch read.1.1⟩
    | true =>
      by_cases fits : value * 10 + (c.toNat - '0'.toNat) < UInt64.size
      · simp only [if_true, if_pos fits, true_and]
        exact ih fits
      · simp only [if_true, if_neg fits]
        refine ⟨nofun, fun ⟨_, same⟩ => absurd ?_ fits⟩
        exact Nat.lt_of_le_of_lt (same ▸ le_ofDigitChars digits _) count.toNat_lt

theorem readCount_unsigned (unsigned : ∀ rest, core ≠ '+' :: rest) :
    readCount core = if core.isEmpty then none else readDigits core 0 := by
  cases core with
  | nil => rfl
  | cons c rest =>
    have other : c ≠ '+' := fun same => unsigned rest (by rw [same])
    unfold readCount
    split
    next same => exact absurd (List.cons.inj same).1 other
    next => rfl

/-- A number begins with no other sign than a plus. -/
theorem readCount_eq_some_iff : readCount core = some count ↔
    ∃ sign digits, core = sign ++ digits ∧ (sign = [] ∨ sign = ['+']) ∧ digits ≠ [] ∧
      (∀ c ∈ digits, c.isDigit = true) ∧ count.toNat = Nat.ofDigitChars 10 digits 0 := by
  have reads (digits : List Char) : (if digits.isEmpty then none else readDigits digits 0) = some count ↔
      digits ≠ [] ∧ (∀ c ∈ digits, c.isDigit = true) ∧ count.toNat = Nat.ofDigitChars 10 digits 0 := by
    cases digits with
    | nil => exact ⟨nofun, fun read => absurd rfl read.1⟩
    | cons c digits => rw [← readDigits_eq_some_iff (by decide)]; simp
  constructor
  · intro read
    by_cases plus : ∃ rest, core = '+' :: rest
    · obtain ⟨rest, rfl⟩ := plus
      exact ⟨['+'], rest, rfl, .inr rfl, (reads rest).mp read⟩
    · rw [readCount_unsigned fun rest same => plus ⟨rest, same⟩] at read
      exact ⟨[], core, rfl, .inl rfl, (reads core).mp read⟩
  · rintro ⟨sign, digits, rfl, rfl | rfl, read⟩
    · rw [List.nil_append, readCount_unsigned]
      · exact (reads digits).mpr read
      · rintro rest rfl
        exact absurd (read.2.1 '+' List.mem_cons_self) (by decide)
    · exact (reads digits).mpr read

end Text

namespace Config.Environment

variable {α : Type} {environment : Environment} {key text : String} {value : UInt64}

theorem readPolicy_eq_ok_iff (policy : ReleasePolicy) : readPolicy text = .ok policy ↔ PolicyText text policy := by
  rw [← ofText?_eq_some_iff, readPolicy]
  cases ReleasePolicy.ofText? text <;> simp

theorem readNumber_eq_ok_iff : readNumber key text = .ok value ↔ CountText text value := by
  have read : readNumber key text = .ok value ↔ Text.readCount (Text.trim text.toList) = some value := by
    rw [readNumber]
    cases Text.readCount (Text.trim text.toList) <;> simp
  rw [read, Text.readCount_eq_some_iff]
  constructor
  · rintro ⟨sign, digits, trimmed, signed, some, decimal, amounts⟩
    obtain ⟨before, after, written, blank⟩ := Text.exists_trim text.toList
    exact .mk before sign digits after (trimmed ▸ written) blank signed some decimal amounts
  · rintro ⟨before, sign, digits, after, written, blank, signed, some, decimal, amounts⟩
    refine ⟨sign, digits, ?_, signed, some, decimal, amounts⟩
    rw [written]
    refine Text.trim_surrounded blank fun c member => ?_
    rcases List.mem_append.mp member with mark | digit
    · rcases signed with rfl | rfl
      · cases mark
      · rw [List.mem_singleton.mp mark]; rfl
    · exact Text.isBlank_of_isDigit (decimal c digit)

/-- What a variable comes to: the default if it is not set, or else what its text stands for. -/
def Chosen (stands : String → α → Prop) (default : α) : Option String → α → Prop
  | none, value => value = default
  | some text, value => stands text value

/-- How the environment is to be read: the first text that stands for nothing is told of, and
only if there is none, a number that must not be zero. -/
inductive Reads (environment : Environment) : Except ConfigError Config → Prop
  | policy {text : String} (given : environment.policy = some text) (other : ∀ policy, ¬ PolicyText text policy) :
      Reads environment (.error (.unrecognised "CFISH_RELEASE_POLICY" text))
  | threshold {policy : ReleasePolicy} {text : String} (chosen : Chosen PolicyText .immediate environment.policy policy)
      (given : environment.threshold = some text) (other : ∀ value, ¬ CountText text value) :
      Reads environment (.error (.unrecognised "CFISH_DEFERRED_FLUSH_THRESHOLD" text))
  | maximum {policy : ReleasePolicy} {threshold : UInt64} {text : String}
      (chosen : Chosen PolicyText .immediate environment.policy policy)
      (counted : Chosen CountText 4096 environment.threshold threshold)
      (given : environment.maximum = some text) (other : ∀ value, ¬ CountText text value) :
      Reads environment (.error (.unrecognised "CFISH_MAX_STRING_BYTES" text))
  | noBacklog {policy : ReleasePolicy} {maximum : UInt64} (chosen : Chosen PolicyText .immediate environment.policy policy)
      (zero : Chosen CountText 4096 environment.threshold 0)
      (measured : Chosen CountText 67108864 environment.maximum maximum) :
      Reads environment (.error (.invalid "deferred_flush_threshold must be greater than zero"))
  | noText {policy : ReleasePolicy} {threshold : UInt64} (chosen : Chosen PolicyText .immediate environment.policy policy)
      (counted : Chosen CountText 4096 environment.threshold threshold) (positive : threshold ≠ 0)
      (zero : Chosen CountText 67108864 environment.maximum 0) :
      Reads environment (.error (.invalid "max_string_bytes must be greater than zero"))
  | config {policy : ReleasePolicy} {threshold maximum : UInt64}
      (chosen : Chosen PolicyText .immediate environment.policy policy)
      (counted : Chosen CountText 4096 environment.threshold threshold) (positive : threshold ≠ 0)
      (measured : Chosen CountText 67108864 environment.maximum maximum) (positive' : maximum ≠ 0) :
      Reads environment (.ok { policy, flushThreshold := threshold, maxTextBytes := maximum })

section Override

variable {read : String → Except ConfigError α} {stands : String → α → Prop} {default choice : α} {given : Option String}

theorem override_eq_ok_iff (sound : ∀ text value, read text = .ok value ↔ stands text value) :
    override given read default = .ok choice ↔ Chosen stands default given choice := by
  cases given with
  | none => exact ⟨fun same => (Except.ok.inj same).symm, fun same => congrArg Except.ok (Eq.symm same)⟩
  | some text => exact sound text choice

/-- Either there is a choice, or a text that stands for none. -/
theorem chosen_or_other (stands : String → α → Prop) (default : α) (given : Option String) :
    (∃ value, Chosen stands default given value) ∨ ∃ text, given = some text ∧ ∀ value, ¬ stands text value := by
  cases given with
  | none => exact .inl ⟨default, rfl⟩
  | some text =>
    by_cases named : ∃ value, stands text value
    · exact .inl named
    · exact .inr ⟨text, rfl, fun value found => named ⟨value, found⟩⟩

theorem Chosen.of_given {text : String} (chosen : Chosen stands default given choice) (same : given = some text) :
    stands text choice := by
  subst same
  exact chosen

theorem exists_chosen (holds : α → Prop) (fine : holds default)
    (known : ∀ text, given = some text → ∃ value, stands text value ∧ holds value) :
    ∃ value, Chosen stands default given value ∧ holds value := by
  cases given with
  | none => exact ⟨default, rfl, fine⟩
  | some text => exact known text rfl

end Override

theorem readPolicy_other (other : ∀ policy, ¬ PolicyText text policy) :
    readPolicy text = .error (.unrecognised policyKey text) := by
  rw [readPolicy]
  split
  next policy named => exact absurd ((ofText?_eq_some_iff text policy).mp named) (other policy)
  next => rfl

theorem readNumber_other (other : ∀ value, ¬ CountText text value) :
    readNumber key text = .error (.unrecognised key text) := by
  cases read : readNumber key text with
  | ok value => exact absurd (readNumber_eq_ok_iff.mp read) (other value)
  | error error =>
    rw [readNumber] at read
    split at read
    · cases read
    · rw [← read]

/-- The environment is read as it is to be. -/
theorem Reads.config_eq {outcome : Except ConfigError Config} (reads : environment.Reads outcome) :
    environment.config = outcome := by
  have named {policy : ReleasePolicy} (chosen : Chosen PolicyText .immediate environment.policy policy) :
      override environment.policy readPolicy .immediate = .ok policy :=
    (override_eq_ok_iff fun _ => readPolicy_eq_ok_iff).mpr chosen
  have counts {key : String} {default value : UInt64} {given : Option String} (counted : Chosen CountText default given value) :
      override given (readNumber key) default = .ok value :=
    (override_eq_ok_iff fun _ _ => readNumber_eq_ok_iff).mpr counted
  rw [Environment.config]
  cases reads with
  | policy given other => rw [given, override, readPolicy_other other]; rfl
  | threshold chosen given other => rw [named chosen, given, override, readNumber_other other]; rfl
  | maximum chosen counted given other => rw [named chosen, counts counted, given, override, readNumber_other other]; rfl
  | noBacklog chosen zero measured => rw [named chosen, counts zero, counts measured]; rfl
  | noText chosen counted positive zero =>
    rw [named chosen, counts counted, counts zero]
    change Config.validate _ = _
    rw [Config.validate, if_neg positive]
    rfl
  | config chosen counted positive measured positive' =>
    rw [named chosen, counts counted, counts measured]
    exact (Config.validate_eq_ok _).mpr ⟨positive, positive'⟩

theorem exists_reads (environment : Environment) : ∃ outcome, environment.Reads outcome := by
  rcases chosen_or_other PolicyText .immediate environment.policy with ⟨policy, chosen⟩ | ⟨text, given, other⟩
  · rcases chosen_or_other CountText 4096 environment.threshold with ⟨threshold, counted⟩ | ⟨text, given, other⟩
    · rcases chosen_or_other CountText 67108864 environment.maximum with ⟨maximum, measured⟩ | ⟨text, given, other⟩
      · by_cases zero : threshold = 0
        · exact ⟨_, .noBacklog chosen (zero ▸ counted) measured⟩
        · by_cases zero' : maximum = 0
          · exact ⟨_, .noText chosen counted zero (zero' ▸ measured)⟩
          · exact ⟨_, .config chosen counted zero measured zero'⟩
      · exact ⟨_, .maximum chosen counted given other⟩
    · exact ⟨_, .threshold chosen given other⟩
  · exact ⟨_, .policy given other⟩

theorem config_eq_iff (outcome : Except ConfigError Config) : environment.config = outcome ↔ environment.Reads outcome := by
  refine ⟨fun same => ?_, Reads.config_eq⟩
  obtain ⟨found, reads⟩ := exists_reads environment
  rwa [← same, reads.config_eq]

theorem policyText_name (policy : ReleasePolicy) : PolicyText policy.name policy := by
  cases policy with
  | immediate => exact .immediate (SameLetters.refl _)
  | deferred => exact .deferred (SameLetters.refl _)

theorem countText_toString (value : UInt64) : CountText (toString value.toNat) value := by
  refine .mk [] [] (Nat.toDigits 10 value.toNat) [] ?_ (List.forall_mem_nil _) (.inl rfl) Nat.toDigits_ne_nil ?_ ?_
  · rw [Nat.toString_eq_ofList_toDigits]; simp
  · exact fun c member => Nat.isDigit_of_mem_toDigits (by decide) (by decide) member
  · exact Nat.ofDigitChars_ten_toDigits.symm

/-- What the environment comes to is what the grammar makes of it. There is a configuration exactly
if each text that is given stands for a policy, or for a number that is not zero; it is valid. And a
valid configuration, written out, is read as itself. -/
theorem config_read_by_grammar :
    (∀ (environment : Environment) (outcome : Except ConfigError Config),
      environment.config = outcome ↔ environment.Reads outcome) ∧
    (∀ environment : Environment, (∃ config, environment.config = .ok config) ↔
      (∀ text, environment.policy = some text → ∃ policy, PolicyText text policy) ∧
      (∀ text, environment.threshold = some text → ∃ value, CountText text value ∧ value ≠ 0) ∧
      ∀ text, environment.maximum = some text → ∃ value, CountText text value ∧ value ≠ 0) ∧
    (∀ (environment : Environment) (config : Config), environment.config = .ok config → config.validate = .ok config) ∧
    ∀ config : Config, config.validate = .ok config →
      Environment.config { policy := some config.policy.name
                           threshold := some (toString config.flushThreshold.toNat)
                           maximum := some (toString config.maxTextBytes.toNat) } = .ok config := by
  refine ⟨fun environment => config_eq_iff, fun environment => ?_, fun environment config read => ?_, fun config valid => ?_⟩
  · constructor
    · rintro ⟨config, read⟩
      cases (config_eq_iff _).mp read with
      | config chosen counted positive measured positive' =>
        exact ⟨fun text given => ⟨_, chosen.of_given given⟩, fun text given => ⟨_, counted.of_given given, positive⟩,
          fun text given => ⟨_, measured.of_given given, positive'⟩⟩
    · rintro ⟨names, counts, measures⟩
      obtain ⟨policy, chosen, -⟩ : ∃ policy, Chosen PolicyText .immediate environment.policy policy ∧ True :=
        exists_chosen _ trivial fun text given => (names text given).imp fun _ named => ⟨named, trivial⟩
      obtain ⟨threshold, counted, positive⟩ :=
        exists_chosen (fun value : UInt64 => value ≠ 0) (show (4096 : UInt64) ≠ 0 by decide) counts
      obtain ⟨maximum, measured, positive'⟩ :=
        exists_chosen (fun value : UInt64 => value ≠ 0) (show (67108864 : UInt64) ≠ 0 by decide) measures
      exact ⟨_, (config_eq_iff _).mpr (.config chosen counted positive measured positive')⟩
  · cases (config_eq_iff _).mp read with
    | config chosen counted positive measured positive' => exact (Config.validate_eq_ok _).mpr ⟨positive, positive'⟩
  · obtain ⟨positive, positive'⟩ := config.validate_eq_ok.mp valid
    exact (config_eq_iff _).mpr (.config (policyText_name _) (countText_toString _) positive (countText_toString _) positive')

/-- Numbers come with blanks, a sign and leading zeros; of two texts that are no numbers the first is told of. -/
theorem config_read_by_grammar_written :
    Environment.config { policy := some "LaZy", threshold := some "\u00a0+007 " } =
      .ok { policy := .deferred, flushThreshold := 7, maxTextBytes := 67108864 } ∧
    Environment.config { threshold := some " - ", maximum := some "0" } =
      .error (.unrecognised "CFISH_DEFERRED_FLUSH_THRESHOLD" " - ") ∧
    Environment.config { policy := some "deferred", threshold := some "18446744073709551615", maximum := some "1" } =
      .ok { policy := .deferred, flushThreshold := 18446744073709551615, maxTextBytes := 1 } := by
  obtain ⟨reads, -, -, written⟩ := config_read_by_grammar
  have refused : readNumber "" " - " = .error (.unrecognised "" " - ") := by cbv
  refine ⟨(reads _ _).mpr (.config (.lazy ?_) (.mk ['\u00a0'] ['+'] ['0', '0', '7'] [' '] rfl ?_ (.inr rfl) nofun ?_ rfl)
    (by decide) rfl (by decide)), (reads _ _).mpr (.threshold rfl rfl fun value counted => ?_), ?_⟩
  · exact (sameLetters_iff (by decide)).mpr rfl
  · exact List.all_eq_true.mp (by decide)
  · exact List.all_eq_true.mp (by decide)
  · rw [readNumber_eq_ok_iff.mpr counted] at refused
    cases refused
  · exact written ⟨.deferred, 18446744073709551615, 1⟩ (by decide)

end Config.Environment

end CountBridge
