import ChatNotify.Text.Digits
import Mathlib.Algebra.Ring.Nat

namespace ChatNotify.Text

/-- The number that digits stand for behind a number that was read already. -/
def digitsAfter? (base : Nat) (value : Nat) (digits : List Char) : Option Nat :=
  digits.foldlM (fun value c => (digit? base c).map (value * base + ·)) value

variable {base value : Nat} {digits : List Char}

theorem ofDigits?_of_ne_nil (hne : digits ≠ []) : ofDigits? base digits = digitsAfter? base 0 digits :=
  if_neg fun hempty => hne (List.isEmpty_iff.1 hempty)

theorem digitsAfter?_append (base value : Nat) (digits more : List Char) :
    digitsAfter? base value (digits ++ more) =
      (digitsAfter? base value digits).bind fun value => digitsAfter? base value more :=
  List.foldlM_append

theorem digitsAfter?_cons (base value : Nat) (c : Char) (digits : List Char) :
    digitsAfter? base value (c :: digits) =
      ((digit? base c).map (value * base + ·)).bind fun value => digitsAfter? base value digits :=
  rfl

theorem digit?_digitChar (hbase : base ≤ 16) {digit : Nat} (hlt : digit < base) :
    digit? base digit.digitChar = some digit := by
  have hvalue : ∀ digit < 16,
      (if '0' ≤ digit.digitChar && digit.digitChar ≤ '9' then some (digit.digitChar.toNat - 48)
        else if 'a' ≤ digit.digitChar && digit.digitChar ≤ 'f' then some (digit.digitChar.toNat - 87)
        else if 'A' ≤ digit.digitChar && digit.digitChar ≤ 'F' then some (digit.digitChar.toNat - 55)
        else none) = some digit := by decide
  rw [digit?, hvalue digit (Nat.lt_of_lt_of_le hlt hbase)]
  exact Option.filter_some_pos (decide_eq_true hlt)

/-- The digits of a number stand for it. -/
theorem digitsAfter?_toDigits (hlow : 1 < base) (hhigh : base ≤ 16) (value : Nat) :
    digitsAfter? base 0 (Nat.toDigits base value) = some value := by
  induction value using Nat.strongRecOn with
  | ind value ih =>
    by_cases hlt : value < base
    · rw [Nat.toDigits_of_lt_base hlt, digitsAfter?_cons, digit?_digitChar hhigh hlt, Nat.zero_mul]
      exact congrArg some (Nat.zero_add value)
    · have hle := Nat.le_of_not_lt hlt
      have hsmaller : value / base < value := Nat.div_lt_self (by omega) hlow
      rw [Nat.toDigits_of_base_le hlow hle, digitsAfter?_append, ih _ hsmaller, Option.bind_some,
        digitsAfter?_cons, digit?_digitChar hhigh (Nat.mod_lt value (by omega))]
      exact congrArg some (Nat.div_add_mod' value base)

theorem ofDigits?_toDigits (hlow : 1 < base) (hhigh : base ≤ 16) (value : Nat) :
    ofDigits? base (Nat.toDigits base value) = some value := by
  rw [ofDigits?_of_ne_nil Nat.toDigits_ne_nil]
  exact digitsAfter?_toDigits hlow hhigh value

/-- Zeros in front count for nothing. -/
theorem digitsAfter?_zeros (hlow : 0 < base) (hhigh : base ≤ 16) (count : Nat) :
    digitsAfter? base 0 (List.replicate count '0') = some 0 := by
  have hzero : digit? base '0' = some 0 := digit?_digitChar hhigh hlow
  induction count with
  | zero => rfl
  | succ count ih =>
    rw [List.replicate_succ, digitsAfter?_cons, hzero, Nat.zero_mul]
    exact ih

theorem digitsAfter?_zeros_toDigits (hlow : 1 < base) (hhigh : base ≤ 16) (count value : Nat) :
    digitsAfter? base 0 (List.replicate count '0' ++ Nat.toDigits base value) = some value := by
  rw [digitsAfter?_append, digitsAfter?_zeros (by omega) hhigh, Option.bind_some]
  exact digitsAfter?_toDigits hlow hhigh value

/-- Zeros at the end multiply. -/
theorem digitsAfter?_zeros_end (value count : Nat) :
    digitsAfter? 10 value (List.replicate count '0') = some (value * 10 ^ count) := by
  induction count generalizing value with
  | zero => rw [Nat.pow_zero, Nat.mul_one]; rfl
  | succ count ih =>
    rw [List.replicate_succ, digitsAfter?_cons]
    refine (ih (value * 10 + 0)).trans ?_
    rw [Nat.add_zero, Nat.mul_assoc, Nat.pow_succ']

section

variable {rest : List Char}

theorem takeWhile_isDigit (hdigits : ∀ c ∈ digits, c.isDigit = true)
    (hrest : ∀ c, rest.head? = some c → c.isDigit = false) :
    (digits ++ rest).takeWhile Char.isDigit = digits := by
  rw [List.takeWhile_append_of_pos hdigits]
  cases rest with
  | nil => exact List.append_nil digits
  | cons c rest =>
    rw [List.takeWhile_cons_of_neg (by rw [hrest c rfl]; exact Bool.false_ne_true), List.append_nil]

theorem dropWhile_isDigit (hdigits : ∀ c ∈ digits, c.isDigit = true)
    (hrest : ∀ c, rest.head? = some c → c.isDigit = false) :
    (digits ++ rest).dropWhile Char.isDigit = rest := by
  rw [List.dropWhile_append_of_pos hdigits]
  cases rest with
  | nil => rfl
  | cons c rest => exact List.dropWhile_cons_of_neg (by rw [hrest c rfl]; exact Bool.false_ne_true)

end

theorem toList_padded (width value : Nat) :
    (padded width value).toList =
      List.replicate (width - (Nat.toDigits 10 value).length) '0' ++ Nat.toDigits 10 value :=
  String.toList_ofList

theorem digitsAfter?_padded (width value : Nat) :
    digitsAfter? 10 0 (padded width value).toList = some value := by
  rw [toList_padded]
  exact digitsAfter?_zeros_toDigits (by decide) (by decide) _ value

theorem padded_ne_nil (width value : Nat) : (padded width value).toList ≠ [] := by
  rw [toList_padded]
  exact List.append_ne_nil_of_right_ne_nil _ Nat.toDigits_ne_nil

/-- A number with zeros in front is read as the number. -/
theorem ofDigits?_padded (width value : Nat) : ofDigits? 10 (padded width value).toList = some value := by
  rw [ofDigits?_of_ne_nil (padded_ne_nil width value)]
  exact digitsAfter?_padded width value

theorem length_padded {width value : Nat} (hwidth : 0 < width) (hlt : value < 10 ^ width) :
    (padded width value).toList.length = width := by
  have hle := (Nat.length_toDigits_le_iff (by decide) hwidth).2 hlt
  rw [toList_padded, List.length_append, List.length_replicate]
  omega

theorem isDigit_of_mem_padded {width value : Nat} {c : Char} (hmem : c ∈ (padded width value).toList) :
    c.isDigit = true := by
  rw [toList_padded, List.mem_append] at hmem
  rcases hmem with hzero | hdigit
  · rw [List.eq_of_mem_replicate hzero]
    rfl
  · exact Nat.isDigit_of_mem_toDigits (by decide) (by decide) hdigit

/-- A decimal digit is the one that its value is written with. -/
theorem eq_digitChar_of_digit? {c : Char} {digit : Nat} (hdigit : digit? 10 c = some digit) :
    digit < 10 ∧ c = digit.digitChar := by
  obtain ⟨hvalue, hsmall⟩ := Option.filter_eq_some_iff.1 hdigit
  have hlt : digit < 10 := of_decide_eq_true hsmall
  refine ⟨hlt, ?_⟩
  have hcode : ∀ digit < 10, digit.digitChar.toNat = digit + 48 := by decide
  refine Char.toNat_inj.1 ((hcode digit hlt).symm ▸ ?_)
  split at hvalue
  · next hrange =>
    have hlow : 48 ≤ c.toNat := (Bool.and_eq_true_iff.1 hrange).1 |> of_decide_eq_true
    have hdigit := Option.some.inj hvalue
    omega
  · split at hvalue
    · next hrange =>
      have hlow : 97 ≤ c.toNat := (Bool.and_eq_true_iff.1 hrange).1 |> of_decide_eq_true
      have hdigit := Option.some.inj hvalue
      omega
    · obtain ⟨hrange, hvalue⟩ := Option.ite_none_right_eq_some.1 hvalue
      have hlow : 65 ≤ c.toNat := (Bool.and_eq_true_iff.1 hrange).1 |> of_decide_eq_true
      have hdigit := Option.some.inj hvalue
      omega

/-- As many digits that stand for the same number, each behind some number, are the same, and so are these. -/
theorem digitsAfter?_inj {before other : Nat} {others : List Char}
    (hdigits : digitsAfter? 10 before digits = some value) (hothers : digitsAfter? 10 other others = some value)
    (hlength : digits.length = others.length) : before = other ∧ digits = others := by
  induction digits generalizing before other others with
  | nil =>
    obtain rfl := List.length_eq_zero_iff.1 hlength.symm
    exact ⟨Option.some.inj (hdigits.trans hothers.symm), rfl⟩
  | cons c digits ih =>
    cases others with
    | nil => cases hlength
    | cons c' others =>
      obtain ⟨next, hnext, hdigits⟩ := Option.bind_eq_some_iff.1 hdigits
      obtain ⟨next', hnext', hothers⟩ := Option.bind_eq_some_iff.1 hothers
      obtain ⟨digit, hdigit, rfl⟩ := Option.map_eq_some_iff.1 hnext
      obtain ⟨digit', hdigit', rfl⟩ := Option.map_eq_some_iff.1 hnext'
      obtain ⟨hsum, rfl⟩ := ih hdigits hothers (Nat.succ.inj hlength)
      obtain ⟨hlt, rfl⟩ := eq_digitChar_of_digit? hdigit
      obtain ⟨hlt', rfl⟩ := eq_digitChar_of_digit? hdigit'
      obtain ⟨rfl, rfl⟩ : before = other ∧ digit = digit' := by omega
      exact ⟨rfl, rfl⟩

theorem digitsAfter?_lt {before : Nat} (hdigits : digitsAfter? 10 before digits = some value) :
    value < (before + 1) * 10 ^ digits.length := by
  induction digits generalizing before with
  | nil =>
    cases hdigits
    simp
  | cons c digits ih =>
    obtain ⟨next, hnext, hdigits⟩ := Option.bind_eq_some_iff.1 hdigits
    obtain ⟨digit, hdigit, rfl⟩ := Option.map_eq_some_iff.1 hnext
    have hlt := (eq_digitChar_of_digit? hdigit).1
    calc value < (before * 10 + digit + 1) * 10 ^ digits.length := ih hdigits
      _ ≤ (before + 1) * 10 * 10 ^ digits.length := Nat.mul_le_mul_right _ (by omega)
      _ = (before + 1) * 10 ^ (c :: digits).length := by rw [Nat.mul_assoc, List.length_cons, Nat.pow_succ']

theorem digit?_of_isDigit {c : Char} (hdigit : c.isDigit = true) : digit? 10 c = some (c.toNat - 48) := by
  have hrange : ('0' ≤ c && c ≤ '9') = true := hdigit
  have hhigh : c.toNat ≤ 57 := of_decide_eq_true (Bool.and_eq_true_iff.1 hrange).2
  simp only [digit?, if_pos hrange]
  exact Option.filter_some_pos (decide_eq_true (by omega))

theorem exists_digitsAfter? (hdigits : ∀ c ∈ digits, c.isDigit = true) (before : Nat) :
    ∃ value, digitsAfter? 10 before digits = some value := by
  induction digits generalizing before with
  | nil => exact ⟨before, rfl⟩
  | cons c digits ih =>
    obtain ⟨hfirst, hrest⟩ := List.forall_mem_cons.1 hdigits
    rw [digitsAfter?_cons, digit?_of_isDigit hfirst]
    exact ih hrest _

/-- What is read as a number is the number with zeros in front, in as many digits. -/
theorem eq_padded_of_ofDigits? (hvalue : ofDigits? 10 digits = some value) :
    value < 10 ^ digits.length ∧ digits = (padded digits.length value).toList := by
  have hne : digits ≠ [] := by
    rintro rfl
    cases hvalue
  rw [ofDigits?_of_ne_nil hne] at hvalue
  have hlt : value < 10 ^ digits.length := by simpa using digitsAfter?_lt hvalue
  have hlength := length_padded (List.length_pos_iff.2 hne) hlt
  exact ⟨hlt, (digitsAfter?_inj hvalue (digitsAfter?_padded _ _) hlength.symm).2⟩

end ChatNotify.Text
