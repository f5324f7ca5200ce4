import ChatNotify.Json.Reader
import ChatNotify.Json.Writer
import ChatNotify.Proofs.Text.Digits

namespace ChatNotify.Json

namespace Reader

/-- Nothing is kept back that the next characters would have to complete. -/
def Taken.of (chars : List Char) : Taken :=
  { chars := some chars }

/-- A control character is written with four digits, which stand for it. -/
theorem exists_unitDigits {code : Nat} (hlt : code < 0x20) :
    ∃ a b c d, unitDigits code = [a, b, c, d] ∧ Text.ofDigits? 16 [a, b, c, d] = some code := by
  have hshort : (Nat.toDigits 16 code).length ≤ 4 := by
    rw [Nat.length_toDigits_le_iff (by decide) (by decide)]
    omega
  have hlength : (unitDigits code).length = 4 := by
    rw [unitDigits, List.length_append, List.length_replicate]
    omega
  have hvalue : Text.ofDigits? 16 (unitDigits code) = some code := by
    rw [Text.ofDigits?_of_ne_nil (List.ne_nil_of_length_pos (by omega))]
    exact Text.digitsAfter?_zeros_toDigits (by decide) (by decide) _ code
  match hdigits : unitDigits code, hlength with
  | [a, b, c, d], _ => exact ⟨a, b, c, d, rfl, hdigits ▸ hvalue⟩

/-- The number of a control character stands for the character. -/
theorem pushUnit_of (chars : List Char) {c : Char} (hcontrol : c.toNat < 0x20) :
    Taken.pushUnit (.of chars) c.toNat = .of (c :: chars) := by
  have hsmall : (decide (c.toNat < 0xd800) || decide (0xe000 ≤ c.toNat)) = true := by
    rw [decide_eq_true (by omega : c.toNat < 0xd800)]
    rfl
  unfold Taken.pushUnit
  dsimp only [Taken.of]
  rw [if_pos hsmall, Char.ofNat_toNat]
  rfl

/-- A character is taken as it was written. -/
theorem readStringAfter_writeChar (chars : List Char) (c : Char) (rest : List Char) :
    readStringAfter (.of chars) (writeChar c ++ rest) = readStringAfter (.of (c :: chars)) rest := by
  unfold writeChar
  split
  case h_8 hquote hbackslash _ _ _ _ _ =>
    split
    · next hcontrol =>
      have hsmall : c.toNat < 0x20 := hcontrol
      obtain ⟨x, y, z, w, hdigits, hcode⟩ := exists_unitDigits hsmall
      rw [hdigits]
      change (Text.ofDigits? 16 [x, y, z, w]).bind
        (fun unit => readStringAfter (Taken.pushUnit (.of chars) unit) rest) = _
      rw [hcode, Option.bind_some, pushUnit_of chars hcontrol]
    · next hplain =>
      rw [List.singleton_append, readStringAfter.eq_def]
      split
      · next heq => cases heq
      · next heq => cases heq; exact absurd rfl hquote
      · next heq => cases heq; exact absurd rfl hbackslash
      · next heq => cases heq; exact absurd rfl hbackslash
      · next heq =>
        cases heq
        rw [if_neg hplain]
        rfl
  all_goals rfl

theorem readStringAfter_flatMap (text chars rest : List Char) :
    readStringAfter (.of chars) (text.flatMap writeChar ++ '"' :: rest) =
      some (some (String.ofList (chars.reverse ++ text)), rest) := by
  induction text generalizing chars with
  | nil =>
    rw [List.append_nil]
    rfl
  | cons c text ih =>
    rw [List.flatMap_cons, List.append_assoc, readStringAfter_writeChar, ih, List.reverse_cons,
      List.append_assoc]
    rfl

/-- A string is read as it was written, behind its opening quote. -/
theorem readStringAfter_writeString (text : String) (rest : List Char) :
    readStringAfter {} (text.toList.flatMap writeChar ++ '"' :: rest) = some (some text, rest) := by
  refine (readStringAfter_flatMap text.toList [] rest).trans ?_
  rw [List.reverse_nil, List.nil_append, String.ofList_toList]

theorem toList_writeString (text : String) :
    (writeString text).toList = '"' :: (text.toList.flatMap writeChar ++ ['"']) := by
  simp [writeString]

theorem readString_writeString (text : String) (rest : List Char) :
    readString ((writeString text).toList ++ rest) = some (some text, rest) := by
  rw [toList_writeString, List.cons_append, List.append_assoc]
  exact readStringAfter_writeString text rest

/-- A text that does not carry a number on. -/
def EndsNumber (rest : List Char) : Prop :=
  ∀ c, rest.head? = some c → c.isDigit = false ∧ c ≠ '.' ∧ c ≠ 'e' ∧ c ≠ 'E'

theorem head?_toDigits_ne_zero {value : Nat} (hpos : 0 < value) : (Nat.toDigits 10 value).head? ≠ some '0' := by
  induction value using Nat.strongRecOn with
  | ind value ih =>
    by_cases hlt : value < 10
    · rw [Nat.toDigits_of_lt_base hlt]
      have hdigit : ∀ value < 10, 0 < value → [value.digitChar].head? ≠ some '0' := by decide
      exact hdigit value hlt hpos
    · have hshorter := ih (value / 10) (by omega) (by omega)
      rw [Nat.toDigits_of_base_le (by decide) (Nat.le_of_not_lt hlt), List.head?_append]
      cases hhead : (Nat.toDigits 10 (value / 10)).head? with
      | none => exact absurd (List.head?_eq_none_iff.1 hhead) Nat.toDigits_ne_nil
      | some first =>
        rw [hhead] at hshorter
        exact hshorter

/-- A number has no zero in front, unless it is one. -/
theorem not_leadsWithZero (value : Nat) :
    ((Nat.toDigits 10 value).isEmpty ||
      (Nat.toDigits 10 value).head? = some '0' && 1 < (Nat.toDigits 10 value).length) = false := by
  rcases Nat.eq_zero_or_pos value with rfl | hpos
  · rfl
  · have hhead := head?_toDigits_ne_zero hpos
    have hne : (Nat.toDigits 10 value).isEmpty = false := by
      rw [List.isEmpty_eq_false_iff]
      exact Nat.toDigits_ne_nil
    rw [hne, decide_eq_false hhead]
    rfl

theorem isDigit_of_mem_toDigits {value : Nat} : ∀ c ∈ Nat.toDigits 10 value, c.isDigit = true :=
  fun _ => Nat.isDigit_of_mem_toDigits (by decide) (by decide)

theorem head?_toDigits_append_ne_minus (value : Nat) (rest : List Char) :
    (Nat.toDigits 10 value ++ rest).head? ≠ some '-' := by
  cases hdigits : Nat.toDigits 10 value with
  | nil => exact absurd hdigits Nat.toDigits_ne_nil
  | cons first digits =>
    have hdigit : first.isDigit = true := isDigit_of_mem_toDigits first (hdigits ▸ List.mem_cons_self ..)
    intro hminus
    cases hminus
    cases hdigit

/-- The sign and the digits of a number. -/
def signed (negative : Bool) (value : Nat) : List Char :=
  if negative then '-' :: Nat.toDigits 10 value else Nat.toDigits 10 value

theorem toList_toString (value : Int) : (toString value).toList = signed (value < 0) value.natAbs := by
  rw [Int.toString_eq_repr, Int.repr_eq_if]
  by_cases hnegative : value < 0
  · rw [if_neg (Int.not_le.2 hnegative), signed, if_pos (decide_eq_true hnegative), String.toList_append,
      Nat.repr_eq_ofList_toDigits, show (-value).toNat = value.natAbs by omega]
    exact congrArg ('-' :: ·) String.toList_ofList
  · rw [if_pos (Int.not_lt.1 hnegative), signed, if_neg (by simpa using hnegative),
      Nat.repr_eq_ofList_toDigits, show value.toNat = value.natAbs by omega, String.toList_ofList]

section

variable (negative : Bool) (value : Nat) {rest : List Char}

theorem head?_signed_append : (signed negative value ++ rest).head? = some '-' ↔ negative = true := by
  cases negative with
  | true => exact ⟨fun _ => rfl, fun _ => rfl⟩
  | false => exact ⟨fun hminus => absurd hminus (head?_toDigits_append_ne_minus value rest), nofun⟩

theorem head?_signed_append_ne_plus : (signed negative value ++ rest).head? ≠ some '+' := by
  cases negative with
  | true => exact nofun
  | false =>
    cases hdigits : Nat.toDigits 10 value with
    | nil => exact absurd hdigits Nat.toDigits_ne_nil
    | cons first digits =>
      have hdigit : first.isDigit = true := isDigit_of_mem_toDigits first (hdigits ▸ List.mem_cons_self ..)
      intro hplus
      rw [signed, if_neg Bool.false_ne_true, hdigits] at hplus
      cases hplus
      cases hdigit

theorem drop_signed_append :
    (if negative = true then (signed negative value ++ rest).drop 1 else signed negative value ++ rest) =
      Nat.toDigits 10 value ++ rest := by
  cases negative <;> rfl

theorem takeWhile_toDigits_append (hrest : ∀ c, rest.head? = some c → c.isDigit = false) :
    (Nat.toDigits 10 value ++ rest).takeWhile Char.isDigit = Nat.toDigits 10 value :=
  Text.takeWhile_isDigit isDigit_of_mem_toDigits hrest

/-- Sign and digits are read as an integer, if nothing carries the number on. -/
theorem readNumber_signed (hends : EndsNumber rest) (hsigned : negative = true → 0 < value) :
    readNumber (signed negative value ++ rest) =
      some (.integer (if negative then -(value : Int) else value), rest) := by
  have hdigits : Text.ofDigits? 10 (Nat.toDigits 10 value) = some value :=
    Text.ofDigits?_toDigits (by decide) (by decide) value
  have hkind : negative = true → ¬ value = 0 := fun hnegative => Nat.ne_of_gt (hsigned hnegative)
  unfold readNumber
  simp only [head?_signed_append, Bool.decide_eq_true, drop_signed_append,
    takeWhile_toDigits_append value fun c hfirst => (hends c hfirst).1, List.drop_left, not_leadsWithZero]
  rw [if_neg Bool.false_ne_true]
  split
  · next rest' => exact absurd rfl (hends '.' rfl).2.1
  · cases rest with
    | nil => simpa [hdigits] using hkind
    | cons c rest =>
      obtain ⟨-, -, hlower, hupper⟩ := hends c rfl
      simpa [hlower, hupper, hdigits] using hkind

end

theorem ite_natAbs (value : Int) : (if value < 0 then -(value.natAbs : Int) else value.natAbs) = value := by
  split <;> omega

/-- An integer is read as it was written. -/
theorem readNumber_toString (value : Int) {rest : List Char} (hends : EndsNumber rest) :
    readNumber ((toString value).toList ++ rest) = some (.integer value, rest) := by
  have hsigned : decide (value < 0) = true → 0 < value.natAbs := by
    intro hnegative
    have hlt := of_decide_eq_true hnegative
    omega
  rw [toList_toString, readNumber_signed _ _ hends hsigned]
  simpa using ite_natAbs value

/-- Sign, digits and an exponent are read as they were written. -/
theorem readNumber_decimal (negative : Bool) (value : Nat) (exponent : Int) {rest : List Char}
    (hends : EndsNumber rest) :
    readNumber (signed negative value ++ 'e' :: ((toString exponent).toList ++ rest)) =
      some (.decimal negative value exponent, rest) := by
  have hdigits : Text.ofDigits? 10 (Nat.toDigits 10 value) = some value :=
    Text.ofDigits?_toDigits (by decide) (by decide) value
  have hexponent : Text.ofDigits? 10 (Nat.toDigits 10 exponent.natAbs) = some exponent.natAbs :=
    Text.ofDigits?_toDigits (by decide) (by decide) exponent.natAbs
  have hletter : ∀ c, ('e' :: ((toString exponent).toList ++ rest)).head? = some c → c.isDigit = false := by
    intro c hfirst
    cases hfirst
    rfl
  rw [toList_toString] at hletter ⊢
  unfold readNumber
  simp only [head?_signed_append, Bool.decide_eq_true, drop_signed_append,
    takeWhile_toDigits_append value hletter, List.drop_left, not_leadsWithZero]
  rw [if_neg Bool.false_ne_true]
  simp only [Option.bind_eq_bind, Option.bind_some, head?_signed_append_ne_plus, decide_false, Bool.or_false,
    head?_signed_append, Bool.decide_eq_true, drop_signed_append,
    takeWhile_toDigits_append exponent.natAbs fun c hfirst => (hends c hfirst).1, List.drop_left, hexponent]
  simpa [hdigits] using ite_natAbs exponent

end Reader

end ChatNotify.Json
