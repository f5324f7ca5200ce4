import ChatNotify.Proofs.Text.Digits
import ChatNotify.Proofs.Time.Calendar
import ChatNotify.Time.Timestamp
import Mathlib.Data.Option.Basic

namespace ChatNotify.LocalTime

theorem readNumber_padded {width value : Nat} (hwidth : 0 < width) (hlt : value < 10 ^ width)
    (rest : List Char) :
    readNumber width ((Text.padded width value).toList ++ rest) = some (value, rest) := by
  have hlength := Text.length_padded hwidth hlt
  unfold readNumber
  rw [if_neg (by rw [List.length_append]; omega), List.take_left' hlength, List.drop_left' hlength,
    Text.ofDigits?_padded]
  rfl

theorem passChar_cons (c : Char) (rest : List Char) : passChar c (c :: rest) = some rest :=
  if_pos rfl

theorem readDate_dateText {date : Date} (hlow : 0 ≤ date.year) (hhigh : date.year ≤ 9999)
    (hvalid : date.isValid = true) (rest : List Char) :
    readDate ((dateText date).toList ++ rest) = some (date, rest) := by
  simp only [Date.isValid, Bool.and_eq_true, decide_eq_true_eq] at hvalid
  have hday := Date.monthLength_le date.year date.month
  have htext : (dateText date).toList ++ rest =
      (Text.padded 4 date.year.toNat).toList ++ ('-' :: ((Text.padded 2 date.month).toList ++
        ('-' :: ((Text.padded 2 date.day).toList ++ rest)))) := by
    simp [dateText]
  rw [htext]
  unfold readDate
  rw [readNumber_padded (by decide) (by omega)]
  simp only [Option.bind_eq_bind, Option.bind_some, passChar_cons]
  rw [readNumber_padded (by decide) (by omega)]
  simp only [Option.bind_some, passChar_cons]
  rw [readNumber_padded (by decide) (by omega), Option.bind_some, Int.toNat_of_nonneg hlow]

/-- A text that does not carry the time of day on: no digit is first, and no point. -/
def EndsTime (rest : List Char) : Prop :=
  ∀ c, rest.head? = some c → c.isDigit = false ∧ c ≠ '.'

/-- The digits of a fraction without the zeros at the end. -/
def shownDigits (nanos : Nat) : List Char :=
  ((Text.padded 9 nanos).toList.reverse.dropWhile (· = '0')).reverse

theorem padded_eq_shownDigits_append (nanos : Nat) :
    ∃ count, (Text.padded 9 nanos).toList = shownDigits nanos ++ List.replicate count '0' := by
  let zeros := (Text.padded 9 nanos).toList.reverse.takeWhile (· = '0')
  have hzeros : ∀ c ∈ zeros.reverse, c = '0' := by
    intro c hmem
    have hall := List.all_eq_true.1 (List.all_takeWhile (p := (· = '0'))) c (List.mem_reverse.1 hmem)
    exact of_decide_eq_true hall
  refine ⟨zeros.reverse.length, ?_⟩
  rw [← List.eq_replicate_of_mem hzeros, shownDigits, ← List.reverse_append,
    List.takeWhile_append_dropWhile, List.reverse_reverse]

/-- What the shown digits stand for is the fraction when it is filled up to nanoseconds. -/
theorem ofDigits?_shownDigits {nanos : Nat} (hpos : 0 < nanos) (hlt : nanos < nanosPerSecond) :
    ∃ value, Text.ofDigits? 10 (shownDigits nanos) = some value ∧
      value * 10 ^ (9 - (shownDigits nanos).length) = nanos ∧ (shownDigits nanos).length ≤ 9 := by
  obtain ⟨count, hsplit⟩ := padded_eq_shownDigits_append nanos
  have hlength := Text.length_padded (by decide : 0 < 9) hlt
  rw [hsplit, List.length_append, List.length_replicate] at hlength
  have hvalue := Text.digitsAfter?_padded 9 nanos
  rw [hsplit, Text.digitsAfter?_append] at hvalue
  obtain ⟨value, hshown, hzeros⟩ := Option.bind_eq_some_iff.1 hvalue
  rw [Text.digitsAfter?_zeros_end] at hzeros
  have hmul : value * 10 ^ count = nanos := Option.some.inj hzeros
  have hne : shownDigits nanos ≠ [] := by
    intro hnil
    rw [hnil] at hshown
    cases hshown
    omega
  have hcount : 9 - (shownDigits nanos).length = count := by omega
  refine ⟨value, ?_, ?_, by omega⟩
  · rw [Text.ofDigits?_of_ne_nil hne, hshown]
  · rw [hcount, hmul]

theorem isDigit_of_mem_shownDigits {nanos : Nat} {c : Char} (hmem : c ∈ shownDigits nanos) :
    c.isDigit = true := by
  obtain ⟨count, hsplit⟩ := padded_eq_shownDigits_append nanos
  have hpadded : c ∈ (Text.padded 9 nanos).toList := hsplit ▸ List.mem_append_left _ hmem
  exact Text.isDigit_of_mem_padded hpadded

theorem readFraction_fractionText {nanos : Nat} (hlt : nanos < nanosPerSecond) {rest : List Char}
    (hends : EndsTime rest) : readFraction ((fractionText nanos).toList ++ rest) = some (nanos, rest) := by
  by_cases hzero : nanos = 0
  · rw [fractionText, if_pos hzero]
    change readFraction rest = _
    unfold readFraction
    split
    · next text => exact absurd rfl (hends '.' rfl).2
    · rw [hzero]
  · obtain ⟨value, hvalue, hmul, hle⟩ := ofDigits?_shownDigits (Nat.pos_of_ne_zero hzero) hlt
    have htext : (fractionText nanos).toList = '.' :: shownDigits nanos := by
      rw [fractionText, if_neg hzero]
      simp [shownDigits]
    have hdigits : ∀ c ∈ shownDigits nanos, c.isDigit = true := fun c => isDigit_of_mem_shownDigits
    have hrest : ∀ c, rest.head? = some c → c.isDigit = false := fun c hfirst => (hends c hfirst).1
    rw [htext, List.cons_append, readFraction, Text.takeWhile_isDigit hdigits hrest,
      Text.dropWhile_isDigit hdigits hrest, List.take_of_length_le hle, hvalue]
    exact congrArg (fun nanos => some (nanos, rest)) hmul

theorem readTime_clockText {clock : TimeOfDay} (hvalid : clock.isValid = true) {rest : List Char}
    (hends : EndsTime rest) : readTime ((clockText clock).toList ++ rest) = some (clock, rest) := by
  simp only [TimeOfDay.isValid, Bool.and_eq_true, decide_eq_true_eq] at hvalid
  have htext : (clockText clock).toList ++ rest =
      (Text.padded 2 clock.hour).toList ++ (':' :: ((Text.padded 2 clock.minute).toList ++
        (':' :: ((Text.padded 2 clock.second).toList ++ ((fractionText clock.nanos).toList ++ rest))))) := by
    simp [clockText]
  rw [htext]
  unfold readTime
  rw [readNumber_padded (by decide) (by omega)]
  simp only [Option.bind_eq_bind, Option.bind_some, passChar_cons]
  rw [readNumber_padded (by decide) (by omega)]
  simp only [Option.bind_some, passChar_cons]
  rw [readNumber_padded (by decide) (by omega)]
  simp only [Option.bind_some]
  rw [readFraction_fractionText hvalid.2 hends]
  rfl

theorem toList_offsetText {offset : Int} (hne : offset ≠ 0) :
    (offsetText offset).toList = (if offset < 0 then '-' else '+') ::
      ((Text.padded 2 (offset.natAbs / 60 / 60)).toList ++
        (':' :: ((Text.padded 2 (offset.natAbs / 60 % 60)).toList ++ []))) := by
  rw [offsetText, if_neg hne]
  split <;> simp

theorem endsTime_offsetText (offset : Int) : EndsTime (offsetText offset).toList := by
  intro c hfirst
  by_cases hzero : offset = 0
  · rw [offsetText, if_pos hzero] at hfirst
    obtain rfl : 'Z' = c := Option.some.inj hfirst
    decide
  · rw [toList_offsetText hzero, List.head?_cons] at hfirst
    split at hfirst
    · cases hfirst
      decide
    · cases hfirst
      decide

/-- An offset with a sign is read as hours and minutes. -/
theorem readOffset_sign {sign : Char} (hsign : sign = '+' ∨ sign = '-') {hours minutes : Nat}
    (hhours : hours < 24) (hminutes : minutes < 60) :
    readOffset (sign :: ((Text.padded 2 hours).toList ++ (':' :: ((Text.padded 2 minutes).toList ++ [])))) =
      some (if sign = '-' then -((hours * 60 + minutes) * 60 : Int) else (hours * 60 + minutes) * 60) := by
  have hread : (do
      guard (sign = '+' || sign = '-')
      let first ← readNumber 2
        ((Text.padded 2 hours).toList ++ (':' :: ((Text.padded 2 minutes).toList ++ [])))
      let text ← passChar ':' first.2
      let second ← readNumber 2 text
      guard (first.1 < 24 && second.1 < 60 && second.2.isEmpty)
      let seconds : Int := (first.1 * 60 + second.1) * 60
      some (if sign = '-' then -seconds else seconds) : Option Int) =
      some (if sign = '-' then -((hours * 60 + minutes) * 60 : Int) else (hours * 60 + minutes) * 60) := by
    rw [readNumber_padded (by decide) (by omega)]
    simp only [Option.bind_eq_bind, Option.bind_some, passChar_cons]
    rw [readNumber_padded (by decide) (by omega)]
    simp [hsign, hhours, hminutes, guard]
  rcases hsign with rfl | rfl
  · exact hread
  · exact hread

theorem readOffset_offsetText {offset : Int} (hsmall : offset.natAbs < 86400) (hwhole : offset % 60 = 0) :
    readOffset (offsetText offset).toList = some offset := by
  by_cases hzero : offset = 0
  · rw [hzero]
    rfl
  · rw [toList_offsetText hzero]
    by_cases hnegative : offset < 0
    · rw [if_pos hnegative, readOffset_sign (.inr rfl) (by omega) (by omega), if_pos rfl]
      exact congrArg some (by omega)
    · rw [if_neg hnegative, readOffset_sign (.inl rfl) (by omega) (by omega), if_neg (by decide)]
      exact congrArg some (by omega)

theorem ofShown_shown (time : LocalTime) :
    ofShown time.shown.date time.shown.timeOfDay time.offset = time := by
  have hshown := Instant.ofDateTime_date_timeOfDay time.shown
  have hnanos : time.shown.nanos - time.offset * nanosPerSecond = time.instant.nanos := by
    rw [shown]
    exact Int.add_sub_cancel ..
  rw [ofShown, hshown, hnanos]

/-- A point in time is read from its text. -/
theorem ofText?_of_text? {time : LocalTime} {text : String} (htext : time.text? = some text) :
    ofText? text = some time := by
  unfold text? at htext
  dsimp only at htext
  split at htext
  · next hcan =>
    obtain rfl := Option.some.inj htext
    simp only [Bool.and_eq_true, decide_eq_true_eq] at hcan
    obtain ⟨⟨⟨hlow, hhigh⟩, hsmall⟩, hwhole⟩ := hcan
    have hdate := Instant.isValid_date time.shown
    have hclock := Instant.isValid_timeOfDay time.shown
    have htext : (dateText time.shown.date ++ "T" ++ clockText time.shown.timeOfDay ++ offsetText time.offset).toList =
        (dateText time.shown.date).toList ++ ('T' :: ((clockText time.shown.timeOfDay).toList ++
          (offsetText time.offset).toList)) := by
      simp
    unfold ofText?
    rw [htext, readDate_dateText hlow hhigh hdate]
    simp only [Option.bind_eq_bind, Option.bind_some]
    rw [readTime_clockText hclock (endsTime_offsetText time.offset)]
    simp only [Option.bind_some]
    rw [readOffset_offsetText hsmall hwhole]
    have hsecond : time.shown.timeOfDay.second ≠ 60 := by
      simp only [TimeOfDay.isValid, Bool.and_eq_true, decide_eq_true_eq] at hclock
      omega
    simp [hsecond, hdate, hclock, guard, ofShown_shown]
  · cases htext

/-- A point in time in UTC can be written if the year has at most four digits and is not below zero. -/
theorem isSome_text? {time : LocalTime} (hutc : time.offset = 0) (hlow : 0 ≤ time.instant.date.year)
    (hhigh : time.instant.date.year ≤ 9999) : time.text?.isSome = true := by
  have hshown : time.shown = time.instant := by
    rw [shown, hutc, Int.zero_mul, Int.add_zero]
  simp [text?, hshown, hutc, hlow, hhigh]

end ChatNotify.LocalTime
