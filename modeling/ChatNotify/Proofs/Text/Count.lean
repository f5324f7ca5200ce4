import ChatNotify.Proofs.Text.Digits
import ChatNotify.Text.Blank
import Mathlib.Data.List.TakeWhile

namespace ChatNotify.Text

/-- The text is a number in decimal digits, maybe behind a plus sign, with nothing but white space around it. -/
inductive WritesCount (text : String) (value : Nat) : Prop
  | intro {before sign digits after : List Char} (htext : text.toList = before ++ (sign ++ digits) ++ after)
      (hbefore : ∀ c ∈ before, c.isBlank = true) (hafter : ∀ c ∈ after, c.isBlank = true)
      (hsign : sign = [] ∨ sign = ['+']) (hne : digits ≠ []) (hdigits : ∀ c ∈ digits, c.isDigit = true)
      (hvalue : Nat.ofDigitChars 10 digits 0 = value)

variable {value : Nat} {digits : List Char}

theorem digit?_eq_some_iff {c : Char} {digit : Nat} :
    digit? 10 c = some digit ↔ c.isDigit = true ∧ c.toNat - 48 = digit := by
  constructor
  · intro hdigit
    obtain ⟨hlt, rfl⟩ := eq_digitChar_of_digit? hdigit
    have hchar : ∀ digit < 10, digit.digitChar.isDigit = true ∧ digit.digitChar.toNat - 48 = digit := by decide
    exact hchar digit hlt
  · rintro ⟨hdigit, rfl⟩
    exact digit?_of_isDigit hdigit

theorem digitsAfter?_eq_some_iff {before : Nat} : digitsAfter? 10 before digits = some value ↔
    (∀ c ∈ digits, c.isDigit = true) ∧ Nat.ofDigitChars 10 digits before = value := by
  induction digits generalizing before with
  | nil => simp [digitsAfter?]
  | cons c digits ih =>
    rw [digitsAfter?_cons, Option.bind_eq_some_iff, List.forall_mem_cons, Nat.ofDigitChars_cons]
    constructor
    · rintro ⟨next, hnext, hdigits⟩
      obtain ⟨digit, hdigit, rfl⟩ := Option.map_eq_some_iff.1 hnext
      obtain ⟨hfirst, rfl⟩ := digit?_eq_some_iff.1 hdigit
      obtain ⟨hrest, hvalue⟩ := ih.1 hdigits
      rw [Nat.mul_comm] at hvalue
      exact ⟨⟨hfirst, hrest⟩, hvalue⟩
    · rintro ⟨⟨hfirst, hrest⟩, hvalue⟩
      rw [Nat.mul_comm] at hvalue
      exact ⟨_, by rw [digit?_of_isDigit hfirst]; rfl, ih.2 ⟨hrest, hvalue⟩⟩

theorem ofDigits?_eq_some_iff : ofDigits? 10 digits = some value ↔
    digits ≠ [] ∧ (∀ c ∈ digits, c.isDigit = true) ∧ Nat.ofDigitChars 10 digits 0 = value := by
  by_cases hne : digits = []
  · subst hne
    simp [ofDigits?]
  · rw [ofDigits?_of_ne_nil hne, digitsAfter?_eq_some_iff, and_iff_right hne]

theorem count?_eq_some_iff {text : List Char} : count? text = some value ↔
    ∃ sign digits, text = sign ++ digits ∧ (sign = [] ∨ sign = ['+']) ∧ digits ≠ [] ∧
      (∀ c ∈ digits, c.isDigit = true) ∧ Nat.ofDigitChars 10 digits 0 = value := by
  constructor
  · intro hcount
    unfold count? at hcount
    split at hcount
    · exact ⟨['+'], _, rfl, .inr rfl, ofDigits?_eq_some_iff.1 hcount⟩
    · exact ⟨[], _, rfl, .inl rfl, ofDigits?_eq_some_iff.1 hcount⟩
  · rintro ⟨sign, digits, rfl, rfl | rfl, hdecimal⟩
    · have hvalue := ofDigits?_eq_some_iff.2 hdecimal
      unfold count?
      split
      · next rest hplus =>
        have hdigit := hdecimal.2.1 '+' (by simp [show digits = '+' :: rest from hplus])
        cases hdigit
      · exact hvalue
    · exact ofDigits?_eq_some_iff.2 hdecimal

section

variable {p : Char → Bool}

theorem exists_eq_append_trimBy (p : Char → Bool) (text : List Char) :
    ∃ before after, text = before ++ trimBy p text ++ after ∧ (∀ c ∈ before, p c = true) ∧ ∀ c ∈ after, p c = true := by
  obtain ⟨after, htext, hafter⟩ := exists_eq_trimEndBy_append p (text.dropWhile p)
  refine ⟨text.takeWhile p, after, ?_, fun c hc => List.mem_takeWhile_imp hc, hafter⟩
  rw [trimBy, List.append_assoc, ← htext, List.takeWhile_append_dropWhile]

/-- Of a text all is left but what stands around it. -/
theorem trimBy_append_append {before text after : List Char} (hbefore : ∀ c ∈ before, p c = true)
    (hafter : ∀ c ∈ after, p c = true) (hne : text ≠ []) (htext : ∀ c ∈ text, p c = false) :
    trimBy p (before ++ text ++ after) = text := by
  have hfront : (before ++ text ++ after).dropWhile p = text ++ after := by
    rw [List.append_assoc, List.dropWhile_append_of_pos hbefore]
    cases text with
    | nil => exact absurd rfl hne
    | cons c text => exact List.dropWhile_cons_of_neg (by simp [htext c])
  have hback : trimEndBy p (text ++ after) = text := by
    rw [trimEndBy_append hafter, trimEndBy_of_getLast? fun c hc => htext c (List.mem_of_getLast? hc)]
  rw [trimBy, hfront, hback]

end

theorem isBlank_of_isDigit {c : Char} (hdigit : c.isDigit = true) : c.isBlank = false := by
  obtain ⟨hlt, hchar⟩ := eq_digitChar_of_digit? (digit?_of_isDigit hdigit)
  have hblank : ∀ digit < 10, digit.digitChar.isBlank = false := by decide
  rw [hchar]
  exact hblank _ hlt

theorem count?_trimBy_eq_some_iff {text : String} :
    count? (trimBy Char.isBlank text.toList) = some value ↔ WritesCount text value := by
  constructor
  · intro hcount
    obtain ⟨before, after, htext, hbefore, hafter⟩ := exists_eq_append_trimBy Char.isBlank text.toList
    obtain ⟨sign, digits, hchars, hsign, hne, hdigits, hvalue⟩ := count?_eq_some_iff.1 hcount
    rw [hchars] at htext
    exact ⟨htext, hbefore, hafter, hsign, hne, hdigits, hvalue⟩
  · rintro (@⟨before, sign, digits, after, htext, hbefore, hafter, hsign, hne, hdigits, hvalue⟩)
    have hblank : ∀ c ∈ sign ++ digits, c.isBlank = false := by
      refine List.forall_mem_append.2 ⟨?_, fun c hc => isBlank_of_isDigit (hdigits c hc)⟩
      rcases hsign with rfl | rfl <;> simp [Char.isBlank, Char.isAsciiSpace]
    rw [htext, trimBy_append_append hbefore hafter (by simp [hne]) hblank]
    exact count?_eq_some_iff.2 ⟨sign, digits, rfl, hsign, hne, hdigits, hvalue⟩

end ChatNotify.Text
