import Sigis.Domain.PhoneNumber

open guarded

namespace sigis.accounts

/-- Nine characters in the place of the digits of a mobile or of a fixed block. -/
inductive PlanNumber (digit : Char → Bool) : List Char → Prop
  | mobile {c : Char} {rest : List Char} (hc : c ∈ ['5', '6', '7', '9']) (hlength : rest.length = 7)
      (hdigits : ∀ d ∈ rest, digit d) : PlanNumber digit ('6' :: c :: rest)
  | fixed {zone rest : List Char} (hzone : zone ∈ ["222".toList, "233".toList, "242".toList, "243".toList])
      (hlength : rest.length = 6) (hdigits : ∀ d ∈ rest, digit d) : PlanNumber digit (zone ++ rest)

/-- A national number of the plan: its digits are those of ASCII. -/
abbrev NationalNumber : List Char → Prop := PlanNumber Char.isDigit

/-- The blocks, by the digits their numbers begin with, and the operator of each. -/
def numbering_plan : List (String × String) :=
  [("650", "MTN"), ("651", "MTN"), ("652", "MTN"), ("653", "MTN"), ("654", "MTN"),
    ("655", "ORANGE"), ("656", "ORANGE"), ("657", "ORANGE"), ("658", "ORANGE"), ("659", "ORANGE"),
    ("66", "NEXTTEL"), ("67", "MTN"), ("69", "ORANGE"),
    ("222", "CAMTEL_FIXE"), ("233", "CAMTEL_FIXE"), ("242", "CAMTEL_CDMA"), ("243", "CAMTEL_CDMA")]

/-- The operator the plan gives a number. -/
def plan_operator (digits : List Char) : Option String :=
  (numbering_plan.find? fun block => block.1.toList.isPrefixOf digits).map Prod.snd

/-- A text without its separators. -/
def compact (raw : String) : List Char := raw.toList.filter fun c => !phone_separator c

/-- A text for the digits: with separators anywhere, and with or without the country code. -/
def Spells (raw : String) (digits : List Char) : Prop :=
  ∃ country ∈ ["", "237", "+237"], compact raw = country.toList ++ digits

/-- What the second text has more than the first are separators. -/
inductive Separated : List Char → List Char → Prop
  | nil : Separated [] []
  | keep {raw spaced : List Char} (c : Char) (h : Separated raw spaced) : Separated (c :: raw) (c :: spaced)
  | insert {raw spaced : List Char} {c : Char} (hc : phone_separator c) (h : Separated raw spaced) :
      Separated raw (c :: spaced)

/-- The decimal digits of Unicode are the ASCII ones and characters far from the separators. -/
theorem toNat_of_isdecimal {c : Char} (h : isdecimal c) :
    (48 ≤ c.toNat ∧ c.toNat ≤ 57) ∨ (1632 ≤ c.toNat ∧ c.toNat < 5760) ∨ (5760 < c.toNat ∧ c.toNat < 8192) ∨
      12288 < c.toNat := by
  have hruns : ∀ run ∈ decimal_runs, (48 ≤ run.1 ∧ run.2 ≤ 57) ∨ (1632 ≤ run.1 ∧ run.2 < 5760) ∨
      (5760 < run.1 ∧ run.2 < 8192) ∨ 12288 < run.1 := by decide
  obtain ⟨run, hrun, hbetween⟩ := List.any_eq_true.mp h
  simp only [Bool.and_eq_true, decide_eq_true_eq] at hbetween
  have hcases := hruns run hrun
  omega

theorem separator_of_isspace {c : Char} (h : isspace c) : phone_separator c := by simp [phone_separator, h]

theorem not_separator_of_isdecimal {c : Char} (h : isdecimal c) : phone_separator c = false := by
  have hcases := toNat_of_isdecimal h
  have hspace : isspace c = false := by
    simp [isspace]
    omega
  have hne : ∀ d ∈ ['-', '.', '(', ')', '\u00a0'], c ≠ d := by
    rintro d hd rfl
    simp only [List.mem_cons, List.not_mem_nil, or_false] at hd
    rcases hd with rfl | rfl | rfl | rfl | rfl <;> simp [Char.toNat] at hcases
  simp only [phone_separator, hspace, Bool.false_or, List.contains_eq_mem, decide_eq_false_iff_not]
  exact fun hmem => hne c hmem rfl

theorem isdecimal_of_isDigit {c : Char} (h : c.isDigit) : isdecimal c := by
  have hbounds := Char.isDigit_iff_toNat.mp h
  exact List.any_eq_true.mpr ⟨(0x30, 0x39), by decide, by simpa using hbounds⟩

theorem isdigit_of_isdecimal {c : Char} (h : isdecimal c) : isdigit c := by simp [isdigit, h]

variable {raw spaced : String} {digits : List Char} {number : CameroonPhoneNumber}

/-- Dropping separators at one end keeps the other characters. -/
theorem filter_dropWhile_isspace (l : List Char) :
    (l.dropWhile isspace).filter (fun c => !phone_separator c) = l.filter fun c => !phone_separator c := by
  induction l with
  | nil => rfl
  | cons c l ih =>
    by_cases hc : isspace c
    · rw [List.dropWhile_cons_of_pos hc, ih, List.filter_cons_of_neg (by simp [separator_of_isspace hc])]
    · rw [List.dropWhile_cons_of_neg hc]

/-- Stripping a text takes separators away only. -/
theorem filter_strip (raw : String) : (strip raw).toList.filter (fun c => !phone_separator c) = compact raw := by
  rw [strip, String.toList_ofList, List.filter_reverse, filter_dropWhile_isspace, List.filter_reverse,
    List.reverse_reverse, filter_dropWhile_isspace, compact]

theorem Separated.filter_eq {raw spaced : List Char} (h : Separated raw spaced) :
    spaced.filter (fun c => !phone_separator c) = raw.filter fun c => !phone_separator c := by
  induction h with
  | nil => rfl
  | keep c _ ih => rw [List.filter_cons, List.filter_cons, ih]
  | insert hc _ ih => rw [List.filter_cons_of_neg (by simp [hc]), ih]

/-- Separators do not change what a text spells. -/
theorem spells_of_separated (h : Separated raw.toList spaced.toList) : Spells spaced digits ↔ Spells raw digits := by
  have hcompact : compact spaced = compact raw := h.filter_eq
  rw [Spells, Spells, hcompact]

/-- A text of decimal digits, with the country code or without, spells them. -/
theorem spells_append {country : String} (hcountry : country ∈ ["", "237", "+237"])
    (hdigits : ∀ d ∈ digits, isdecimal d) : Spells (country ++ String.ofList digits) digits := by
  refine ⟨country, hcountry, ?_⟩
  rw [compact, String.toList_append, String.toList_ofList, List.filter_append]
  congr 1
  · simp only [List.mem_cons, List.not_mem_nil, or_false] at hcountry
    rcases hcountry with rfl | rfl | rfl <;> decide
  · exact List.filter_eq_self.mpr fun d hd => by simp [not_separator_of_isdecimal (hdigits d hd)]

theorem exists_country (l : List Char) :
    ∃ country ∈ ["", "237", "+237"], l = country.toList ++ without_country_prefix l := by
  unfold without_country_prefix
  split
  · exact ⟨"+237", by simp, rfl⟩
  · exact ⟨"237", by simp, rfl⟩
  · exact ⟨"", by simp, rfl⟩

theorem mobile_number_eq_true {l : List Char} : mobile_number l = true ↔
    ∃ c rest, l = '6' :: c :: rest ∧ c ∈ ['5', '6', '7', '9'] ∧ rest.length = 7 ∧ ∀ d ∈ rest, isdecimal d := by
  unfold mobile_number
  split
  · next c rest => simp [and_assoc]
  · next hne =>
    constructor
    · rintro ⟨⟩
    · rintro ⟨c, rest, rfl, -⟩
      exact absurd rfl (hne c rest)

theorem fixed_number_eq_true {l : List Char} : fixed_number l = true ↔
    ∃ zone rest, l = zone ++ rest ∧ zone ∈ ["222".toList, "233".toList, "242".toList, "243".toList] ∧
      rest.length = 6 ∧ ∀ d ∈ rest, isdecimal d := by
  simp only [fixed_number, Bool.and_eq_true, List.contains_eq_mem, decide_eq_true_eq, beq_iff_eq, List.all_eq_true]
  constructor
  · rintro ⟨⟨hzone, hlength⟩, hdigits⟩
    exact ⟨_, _, (List.take_append_drop 3 l).symm, hzone, hlength, hdigits⟩
  · rintro ⟨zone, rest, rfl, hzone, hlength, hdigits⟩
    have hthree : zone.length = 3 := by
      simp only [List.mem_cons, List.not_mem_nil, or_false] at hzone
      rcases hzone with rfl | rfl | rfl | rfl <;> rfl
    rw [List.take_left' hthree, List.drop_left' hthree]
    exact ⟨⟨hzone, hlength⟩, hdigits⟩

/-- The patterns match the numbers of the plan, with any decimal digits of Unicode. -/
theorem plan_number_iff {l : List Char} : (mobile_number l || fixed_number l) = true ↔ PlanNumber isdecimal l := by
  rw [Bool.or_eq_true, mobile_number_eq_true, fixed_number_eq_true]
  constructor
  · rintro (⟨c, rest, rfl, hc, hlength, hdigits⟩ | ⟨zone, rest, rfl, hzone, hlength, hdigits⟩)
    · exact .mobile hc hlength hdigits
    · exact .fixed hzone hlength hdigits
  · rintro (⟨hc, hlength, hdigits⟩ | ⟨hzone, hlength, hdigits⟩)
    · exact Or.inl ⟨_, _, rfl, hc, hlength, hdigits⟩
    · exact Or.inr ⟨_, _, rfl, hzone, hlength, hdigits⟩

namespace PlanNumber

variable {digit : Char → Bool} {l : List Char}

theorem length (h : PlanNumber digit l) : l.length = 9 := by
  cases h with
  | mobile _ hlength _ => simp [hlength]
  | fixed hzone hlength _ =>
    simp only [List.mem_cons, List.not_mem_nil, or_false] at hzone
    rcases hzone with rfl | rfl | rfl | rfl <;> simp [hlength]

/-- No number begins like the country code. -/
theorem without_country_prefix_eq (h : PlanNumber digit l) : without_country_prefix l = l := by
  cases h with
  | mobile _ _ _ => rfl
  | fixed hzone _ _ =>
    simp only [List.mem_cons, List.not_mem_nil, or_false] at hzone
    rcases hzone with rfl | rfl | rfl | rfl <;> rfl

theorem forall_digit (h : PlanNumber digit l) (hascii : ∀ c, c.isDigit → digit c) : ∀ c ∈ l, digit c := by
  cases h with
  | mobile hc _ hdigits =>
    have hblock : ∀ d ∈ ['5', '6', '7', '9'], d.isDigit := by simp
    simp only [List.forall_mem_cons]
    exact ⟨hascii _ (by decide), hascii _ (hblock _ hc), hdigits⟩
  | fixed hzone _ hdigits =>
    have hblock : ∀ zone ∈ ["222".toList, "233".toList, "242".toList, "243".toList], ∀ d ∈ zone, d.isDigit := by
      simp
    exact List.forall_mem_append.mpr ⟨fun d hd => hascii d (hblock _ hzone d hd), hdigits⟩

theorem of_forall {other : Char → Bool} (h : PlanNumber digit l) (hall : ∀ c ∈ l, other c) : PlanNumber other l := by
  cases h with
  | mobile hc hlength _ =>
    exact .mobile hc hlength fun d hd => hall d (List.mem_cons_of_mem _ (List.mem_cons_of_mem _ hd))
  | fixed hzone hlength _ => exact .fixed hzone hlength fun d hd => hall d (List.mem_append_right _ hd)

end PlanNumber

/-- A national number is what the patterns match, in ASCII digits. -/
theorem national_number_iff {l : List Char} : NationalNumber l ↔ PlanNumber isdecimal l ∧ ∀ c ∈ l, c.isDigit := by
  constructor
  · intro h
    have hdigits := h.forall_digit fun _ hc => hc
    exact ⟨h.of_forall fun c hc => isdecimal_of_isDigit (hdigits c hc), hdigits⟩
  · rintro ⟨h, hdigits⟩
    exact h.of_forall hdigits

/-- What is left of a text without its separators and its country code. -/
def remaining (raw : String) : List Char := without_country_prefix (compact raw)

theorem spells_remaining (raw : String) : Spells raw (remaining raw) := exists_country (compact raw)

/-- The digits that a text spells are what is left of it, when they are a number. -/
theorem Spells.eq_remaining (h : Spells raw digits) {digit : Char → Bool} (hnumber : PlanNumber digit digits) :
    digits = remaining raw := by
  obtain ⟨country, hcountry, heq⟩ := h
  rw [remaining, heq]
  simp only [List.mem_cons, List.not_mem_nil, or_false] at hcountry
  rcases hcountry with rfl | rfl | rfl
  · exact hnumber.without_country_prefix_eq.symm
  · rfl
  · rfl

theorem CameroonPhoneNumber.plan_number (number : CameroonPhoneNumber) : PlanNumber isdecimal number.national :=
  plan_number_iff.mp number.valid

theorem normalize_eq_ok_iff {l : List Char} : CameroonPhoneNumber.normalize raw = .ok l ↔
    l = remaining raw ∧ (∀ c ∈ l, isdigit c) ∧ l.length = 9 := by
  simp only [CameroonPhoneNumber.normalize, filter_strip, bind_eq_ok_iff, raise_if_eq_ok, pure_eq_ok, Except.ok.injEq,
    exists_and_left, exists_const, Bool.not_eq_false, Bool.and_eq_true, List.all_eq_true, ne_eq, Decidable.not_not]
  rw [← remaining]
  constructor
  · rintro ⟨⟨-, hdigits⟩, hlength, rfl⟩
    exact ⟨rfl, hdigits, hlength⟩
  · rintro ⟨rfl, hdigits, hlength⟩
    have hne : remaining raw ≠ [] := List.ne_nil_of_length_pos (by omega)
    exact ⟨⟨by simpa using hne, hdigits⟩, hlength, rfl⟩

/-- A text is accepted as the number that is left of it. -/
theorem init_eq_ok_iff_remaining : CameroonPhoneNumber.init raw = .ok number ↔ number.national = remaining raw := by
  constructor
  · intro h
    obtain ⟨l, hnormalize, hblock⟩ := bind_eq_ok_iff.mp h
    split at hblock
    · cases hblock
      exact (normalize_eq_ok_iff.mp hnormalize).1
    · cases hblock
  · intro h
    have hnumber := number.plan_number
    have hdigits : ∀ c ∈ number.national, isdigit c := fun c hc =>
      isdigit_of_isdecimal (hnumber.forall_digit (fun _ => isdecimal_of_isDigit) c hc)
    refine bind_eq_ok_iff.mpr ⟨number.national, normalize_eq_ok_iff.mpr ⟨h, hdigits, hnumber.length⟩, ?_⟩
    rw [dif_pos number.valid, pure_eq_ok]

/-- A text is accepted as the number that it spells. -/
theorem init_eq_ok_iff : CameroonPhoneNumber.init raw = .ok number ↔ Spells raw number.national := by
  rw [init_eq_ok_iff_remaining]
  constructor
  · intro h
    rw [h]
    exact spells_remaining raw
  · intro h
    exact h.eq_remaining number.plan_number

theorem mem_of_isDigit {c : Char} (h : c.isDigit) : c ∈ "0123456789".toList := by
  have hbounds := Char.isDigit_iff_toNat.mp h
  have hall : ∀ n < 58, 48 ≤ n → Char.ofNat n ∈ "0123456789".toList := by decide
  have hmem := hall c.toNat (Nat.lt_succ_of_le hbounds.2) hbounds.1
  rwa [Char.ofNat_toNat] at hmem

/-- The operator of an ASCII number is the one of its block. -/
theorem operator_eq_plan_operator (hnational : NationalNumber number.national) :
    plan_operator number.national = some number.operator := by
  obtain ⟨national, valid⟩ := number
  cases hnational with
  | @mobile c rest hc hlength hdigits =>
    obtain ⟨d, rest, rfl⟩ := List.exists_cons_of_length_pos (by omega : 0 < rest.length)
    have hd := mem_of_isDigit (hdigits d List.mem_cons_self)
    simp only [List.mem_cons, List.not_mem_nil, or_false] at hc
    rcases hc with rfl | rfl | rfl | rfl
    · simp at hd
      rcases hd with rfl | rfl | rfl | rfl | rfl | rfl | rfl | rfl | rfl | rfl <;> rfl
    · rfl
    · rfl
    · rfl
  | fixed hzone _ _ =>
    simp only [List.mem_cons, List.not_mem_nil, or_false] at hzone
    rcases hzone with rfl | rfl | rfl | rfl <;> rfl

theorem plan_operator_ne {operator : String} (h : plan_operator digits = some operator) : operator ≠ "INCONNU" := by
  have hknown : ∀ block ∈ numbering_plan, block.2 ≠ "INCONNU" := by decide
  obtain ⟨block, hfind, rfl⟩ := Option.map_eq_some_iff.mp h
  exact hknown block (List.mem_of_find?_eq_some hfind)

/-- What the plan says of a text: it is accepted exactly when it spells a number of the plan, in
ASCII digits, and then stands for these digits, with the operator of their block. -/
structure ParsesByPlan (raw : String) : Prop where
  accepted : (∃ number, CameroonPhoneNumber.init raw = .ok number) ↔
    ∃ digits, NationalNumber digits ∧ Spells raw digits
  canonical : ∀ number, CameroonPhoneNumber.init raw = .ok number → ∃ digits, NationalNumber digits ∧
    Spells raw digits ∧ number.e164 = "+237" ++ String.ofList digits ∧ plan_operator digits = some number.operator ∧
    number.operator ≠ "INCONNU"

/-- A text is read as the numbering plan says, exactly when it is not one with a digit of another
script where the patterns take any decimal digit of Unicode. -/
theorem parses_by_plan_iff (raw : String) : ParsesByPlan raw ↔
    ((mobile_number (remaining raw) || fixed_number (remaining raw)) = true → ∀ c ∈ remaining raw, c.isDigit) := by
  constructor
  · intro h hvalid
    obtain ⟨digits, hnational, -, he164, -⟩ := h.canonical ⟨remaining raw, hvalid⟩ (init_eq_ok_iff_remaining.mpr rfl)
    have heq : remaining raw = digits := String.ofList_injective ((String.append_right_inj "+237").mp he164)
    rw [heq]
    exact (national_number_iff.mp hnational).2
  · intro hascii
    have hnational : ∀ number, CameroonPhoneNumber.init raw = .ok number → NationalNumber number.national := by
      intro number h
      have heq := init_eq_ok_iff_remaining.mp h
      exact national_number_iff.mpr ⟨number.plan_number, heq ▸ hascii (heq ▸ number.valid)⟩
    refine ⟨⟨?_, ?_⟩, ?_⟩
    · rintro ⟨number, h⟩
      exact ⟨number.national, hnational number h, init_eq_ok_iff.mp h⟩
    · rintro ⟨digits, hdigits, hspells⟩
      have hvalid := plan_number_iff.mpr (national_number_iff.mp hdigits).1
      exact ⟨⟨digits, hvalid⟩, init_eq_ok_iff.mpr hspells⟩
    · intro number h
      have hoperator := operator_eq_plan_operator (hnational number h)
      exact ⟨number.national, hnational number h, init_eq_ok_iff.mp h, rfl, hoperator, plan_operator_ne hoperator⟩

/-- A number whose last seven digits are written in Arabic. -/
def arabic_digits : String := "65\u0660\u0660\u0660\u0660\u0660\u0660\u0660"

/-- It is accepted, and kept as it is written. -/
theorem arabic_digits_accepted : ∃ number, CameroonPhoneNumber.init arabic_digits = .ok number ∧
    number.e164 = "+237" ++ arabic_digits ∧ number.operator = "INCONNU" ∧ ¬ ParsesByPlan arabic_digits := by
  have hinit : CameroonPhoneNumber.init arabic_digits = .ok ⟨arabic_digits.toList, by decide⟩ :=
    init_eq_ok_iff_remaining.mpr (by decide)
  refine ⟨_, hinit, by decide, by decide, fun h => ?_⟩
  obtain ⟨_, _, _, _, _, hknown⟩ := h.canonical _ hinit
  exact hknown (by decide)

/-- An accepted number is read again, from its international form, from its national part, with the
country code before it, and with separators added anywhere; a refused one stays refused with them. -/
theorem phone_parsing_stable (raw : String) :
    (∀ number, CameroonPhoneNumber.init raw = .ok number →
      CameroonPhoneNumber.init number.e164 = .ok number ∧
      (∀ country ∈ ["", "237", "+237"],
        CameroonPhoneNumber.init (country ++ String.ofList number.national) = .ok number) ∧
      ∀ spaced : String, Separated raw.toList spaced.toList → CameroonPhoneNumber.init spaced = .ok number) ∧
    ∀ e, CameroonPhoneNumber.init raw = .error e → ∀ spaced : String, Separated raw.toList spaced.toList →
      ∃ e', CameroonPhoneNumber.init spaced = .error e' := by
  constructor
  · intro number h
    have hforms : ∀ country ∈ ["", "237", "+237"],
        CameroonPhoneNumber.init (country ++ String.ofList number.national) = .ok number := fun country hcountry =>
      init_eq_ok_iff.mpr (spells_append hcountry
        (number.plan_number.forall_digit fun _ => isdecimal_of_isDigit))
    refine ⟨hforms "+237" (by simp), hforms, fun spaced hspaced => ?_⟩
    rw [init_eq_ok_iff, spells_of_separated hspaced]
    exact init_eq_ok_iff.mp h
  · intro e h spaced hspaced
    cases hinit : CameroonPhoneNumber.init spaced with
    | error e' => exact ⟨e', rfl⟩
    | ok number =>
      rw [init_eq_ok_iff, spells_of_separated hspaced, ← init_eq_ok_iff, h] at hinit
      cases hinit

end sigis.accounts
