import ChatNotify.Proofs.Time.Timestamp

namespace ChatNotify.LocalTime

/-- A fraction of a second: nothing, or a point and some digits. -/
inductive IsFraction : String → Prop
  | none : IsFraction ""
  | digits {digits : List Char} (hne : digits ≠ []) (hdigits : ∀ c ∈ digits, c.isDigit = true) :
      IsFraction ("." ++ String.ofList digits)

/-- An offset from UTC in seconds: none, or hours and minutes with a sign. -/
inductive IsOffset : Int → String → Prop
  | utc : IsOffset 0 "Z"
  | utcLower : IsOffset 0 "z"
  | ahead {hours minutes : Nat} (hhours : hours < 24) (hminutes : minutes < 60) :
      IsOffset ((hours * 60 + minutes) * 60) ("+" ++ Text.padded 2 hours ++ ":" ++ Text.padded 2 minutes)
  | behind {hours minutes : Nat} (hhours : hours < 24) (hminutes : minutes < 60) :
      IsOffset (-((hours * 60 + minutes) * 60)) ("-" ++ Text.padded 2 hours ++ ":" ++ Text.padded 2 minutes)

/-- The grammar of RFC 3339, section 5.6: a date, a time of day and an offset, with some separator between date and
time, where the grammar has a `T` and a note leaves the choice to the application. The second may be the sixtieth
behind the last of a month, UTC. -/
inductive IsTimestamp (IsSeparator : Char → Prop) : String → Prop
  | intro {date : Date} {hour minute second : Nat} {offset : Int} {separator : Char} {fraction zone : String}
      (hyear : 0 ≤ date.year ∧ date.year ≤ 9999) (hdate : date.isValid = true) (hseparator : IsSeparator separator)
      (hhour : hour < 24) (hminute : minute < 60)
      (hsecond : second < 60 ∨ second = 60 ∧
        isEndOfMonth (ofShown date ⟨hour, minute, 59, nanosPerSecond - 1⟩ offset).instant = true)
      (hfraction : IsFraction fraction) (hoffset : IsOffset offset zone) :
      IsTimestamp IsSeparator (dateText date ++ separator.toString ++ Text.padded 2 hour ++ ":" ++
        Text.padded 2 minute ++ ":" ++ Text.padded 2 second ++ fraction ++ zone)

theorem readNumber_eq_some {width value : Nat} {text rest : List Char}
    (hread : readNumber width text = some (value, rest)) :
    value < 10 ^ width ∧ text = (Text.padded width value).toList ++ rest := by
  unfold readNumber at hread
  split at hread
  · cases hread
  · next hlong =>
    obtain ⟨found, hvalue, hpair⟩ := Option.map_eq_some_iff.1 hread
    obtain ⟨rfl, rfl⟩ := Prod.mk.inj hpair
    have hlength : (text.take width).length = width := List.length_take_of_le (Nat.le_of_not_lt hlong)
    obtain ⟨hlt, hdigits⟩ := Text.eq_padded_of_ofDigits? hvalue
    rw [hlength] at hlt hdigits
    exact ⟨hlt, by rw [← hdigits, List.take_append_drop]⟩

theorem passChar_eq_some {c : Char} {text rest : List Char} (hread : passChar c text = some rest) :
    text = c :: rest := by
  unfold passChar at hread
  split at hread
  · obtain ⟨rfl, hrest⟩ := Option.ite_none_right_eq_some.1 hread
    rw [Option.some.inj hrest]
  · cases hread

theorem readDate_eq_some {date : Date} {text rest : List Char} (hread : readDate text = some (date, rest)) :
    (0 ≤ date.year ∧ date.year ≤ 9999) ∧ text = (dateText date).toList ++ rest := by
  simp only [readDate, Option.bind_eq_bind, Option.bind_eq_some_iff] at hread
  obtain ⟨⟨year, _⟩, hyear, _, hdash, ⟨month, _⟩, hmonth, _, hdash', ⟨day, _⟩, hday, hdate⟩ := hread
  obtain ⟨rfl, rfl⟩ := Prod.mk.inj (Option.some.inj hdate)
  obtain ⟨hlt, rfl⟩ := readNumber_eq_some hyear
  obtain rfl := passChar_eq_some hdash
  obtain ⟨-, rfl⟩ := readNumber_eq_some hmonth
  obtain rfl := passChar_eq_some hdash'
  obtain ⟨-, rfl⟩ := readNumber_eq_some hday
  exact ⟨by simp only; omega, by simp [dateText]⟩

theorem readFraction_eq_some {nanos : Nat} {text rest : List Char} (hread : readFraction text = some (nanos, rest)) :
    ∃ fraction, IsFraction fraction ∧ text = fraction.toList ++ rest := by
  unfold readFraction at hread
  split at hread
  · next text =>
    obtain ⟨value, hvalue, hpair⟩ := Option.map_eq_some_iff.1 hread
    obtain ⟨-, rfl⟩ := Prod.mk.inj hpair
    refine ⟨"." ++ String.ofList (text.takeWhile Char.isDigit), .digits ?_ ?_, ?_⟩
    · intro hnil
      rw [hnil] at hvalue
      cases hvalue
    · exact List.all_eq_true.1 List.all_takeWhile
    · simp
  · obtain ⟨-, rfl⟩ := Prod.mk.inj (Option.some.inj hread)
    exact ⟨"", .none, rfl⟩

theorem readTime_eq_some {clock : TimeOfDay} {text rest : List Char} (hread : readTime text = some (clock, rest)) :
    ∃ fraction, IsFraction fraction ∧ text = (Text.padded 2 clock.hour).toList ++ (':' ::
      ((Text.padded 2 clock.minute).toList ++ (':' :: ((Text.padded 2 clock.second).toList ++
        (fraction.toList ++ rest))))) := by
  simp only [readTime, Option.bind_eq_bind, Option.bind_eq_some_iff] at hread
  obtain ⟨⟨hour, _⟩, hhour, _, hcolon, ⟨minute, _⟩, hminute, _, hcolon', ⟨second, _⟩, hsecond, ⟨nanos, _⟩, hnanos,
    hclock⟩ := hread
  obtain ⟨rfl, rfl⟩ := Prod.mk.inj (Option.some.inj hclock)
  obtain ⟨-, rfl⟩ := readNumber_eq_some hhour
  obtain rfl := passChar_eq_some hcolon
  obtain ⟨-, rfl⟩ := readNumber_eq_some hminute
  obtain rfl := passChar_eq_some hcolon'
  obtain ⟨-, rfl⟩ := readNumber_eq_some hsecond
  obtain ⟨fraction, hfraction, rfl⟩ := readFraction_eq_some hnanos
  exact ⟨fraction, hfraction, rfl⟩

theorem readOffset_eq_some {offset : Int} {text : List Char} (hread : readOffset text = some offset) :
    ∃ zone, IsOffset offset zone ∧ text = zone.toList := by
  unfold readOffset at hread
  split at hread
  · cases hread
    exact ⟨"Z", .utc, rfl⟩
  · cases hread
    exact ⟨"z", .utcLower, rfl⟩
  · simp only [Option.bind_eq_bind, Option.bind_eq_some_iff, Option.guard_eq_some', Bool.or_eq_true, Bool.and_eq_true,
      decide_eq_true_eq, List.isEmpty_iff] at hread
    obtain ⟨-, hsign, ⟨hours, _⟩, hhours, _, hcolon, ⟨minutes, _⟩, hminutes, -, ⟨⟨hday, hhour⟩, rfl⟩, hoffset⟩ := hread
    obtain ⟨-, rfl⟩ := readNumber_eq_some hhours
    obtain rfl := passChar_eq_some hcolon
    obtain ⟨-, rfl⟩ := readNumber_eq_some hminutes
    obtain rfl := Option.some.inj hoffset
    rcases hsign with rfl | rfl
    · exact ⟨_, .ahead hday hhour, by simp⟩
    · exact ⟨_, .behind hday hhour, by simp⟩
  · cases hread

theorem IsFraction.read {fraction : String} (hfraction : IsFraction fraction) {rest : List Char}
    (hends : EndsTime rest) :
    ∃ nanos < nanosPerSecond, readFraction (fraction.toList ++ rest) = some (nanos, rest) := by
  cases hfraction with
  | none =>
    refine ⟨0, by decide, ?_⟩
    change readFraction rest = _
    unfold readFraction
    split
    · exact absurd rfl (hends '.' rfl).2
    · rfl
  | @digits digits hne hdigits =>
    have htext : ("." ++ String.ofList digits).toList ++ rest = '.' :: (digits ++ rest) := by simp
    have hrest : ∀ c, rest.head? = some c → c.isDigit = false := fun c hfirst => (hends c hfirst).1
    -- Digits behind the ninth are passed over, and zeros stand for those that are missing.
    have hcut : digits.take 9 ≠ [] := by
      rw [ne_eq, List.take_eq_nil_iff]
      simpa using hne
    obtain ⟨value, hvalue⟩ := Text.exists_digitsAfter? (fun c hc => hdigits c (List.mem_of_mem_take hc)) 0
    have hlt : value < 10 ^ min 9 digits.length := by simpa using Text.digitsAfter?_lt hvalue
    rw [← Text.ofDigits?_of_ne_nil hcut] at hvalue
    refine ⟨value * 10 ^ (9 - digits.length), ?_, ?_⟩
    · calc value * 10 ^ (9 - digits.length) < 10 ^ min 9 digits.length * 10 ^ (9 - digits.length) :=
            Nat.mul_lt_mul_of_pos_right hlt (Nat.pow_pos (by decide))
        _ = nanosPerSecond := by
            rw [← Nat.pow_add, Nat.min_comm, show min digits.length 9 + (9 - digits.length) = 9 by omega]
            rfl
    · rw [htext, readFraction, Text.takeWhile_isDigit hdigits hrest, Text.dropWhile_isDigit hdigits hrest, hvalue]
      rfl

theorem IsOffset.read {offset : Int} {zone : String} (hoffset : IsOffset offset zone) :
    readOffset zone.toList = some offset := by
  cases hoffset with
  | utc => rfl
  | utcLower => rfl
  | @ahead hours minutes hhours hminutes =>
    simpa using readOffset_sign (.inl rfl : '+' = '+' ∨ '+' = '-') hhours hminutes
  | @behind hours minutes hhours hminutes =>
    simpa using readOffset_sign (.inr rfl : '-' = '+' ∨ '-' = '-') hhours hminutes

theorem IsOffset.endsTime {offset : Int} {zone : String} (hoffset : IsOffset offset zone) : EndsTime zone.toList := by
  intro c hfirst
  cases hoffset with
  | utc =>
    obtain rfl : 'Z' = c := Option.some.inj hfirst
    decide
  | utcLower =>
    obtain rfl : 'z' = c := Option.some.inj hfirst
    decide
  | ahead =>
    obtain rfl : '+' = c := by simpa using hfirst
    decide
  | behind =>
    obtain rfl : '-' = c := by simpa using hfirst
    decide

/-- The separators that the grammar and its note name. -/
def IsStandardSeparator (c : Char) : Prop :=
  c = 'T' ∨ c = 't' ∨ c = ' '

/-- The characters that are taken for a separator. -/
def IsReadSeparator (c : Char) : Prop :=
  c.val < 128

/-- The separator comes behind the ten characters of the date. -/
theorem IsTimestamp.exists_separator {IsSeparator : Char → Prop} {text : String}
    (htext : IsTimestamp IsSeparator text) :
    ∃ separator, IsSeparator separator ∧ text.toList[10]? = some separator := by
  cases htext with
  | @intro date hour minute second offset separator fraction zone hyear hdate hseparator =>
    refine ⟨separator, hseparator, ?_⟩
    have hlength : (dateText date).toList.length = 10 := by
      simp only [Date.isValid, Bool.and_eq_true, decide_eq_true_eq] at hdate
      have hday := Date.monthLength_le date.year date.month
      have hyear : date.year.toNat < 10 ^ 4 := by omega
      have hmonth : date.month < 10 ^ 2 := by omega
      have hday : date.day < 10 ^ 2 := by omega
      simp only [dateText, String.toList_append, List.length_append, Text.length_padded (by decide) hyear,
        Text.length_padded (by decide) hmonth, Text.length_padded (by decide) hday]
      rfl
    simp [hlength]

/-- What is read is of the grammar. -/
theorem isTimestamp_of_ofText? {text : String} {time : LocalTime} (hread : ofText? text = some time) :
    IsTimestamp IsReadSeparator text := by
  simp only [ofText?, Option.bind_eq_bind, Option.bind_eq_some_iff] at hread
  obtain ⟨⟨date, shown⟩, hdate, hread⟩ := hread
  cases shown with
  | nil => cases hread
  | cons separator shown =>
    simp only [Option.bind_eq_some_iff, Option.guard_eq_some', Bool.and_eq_true, Bool.or_eq_true,
      Bool.not_eq_true', decide_eq_false_iff_not] at hread
    obtain ⟨-, hseparator, ⟨clock, _⟩, hclock, offset, hoffset, -, ⟨hvalid, hclockValid⟩, -, hleap, -⟩ := hread
    obtain ⟨hyear, htext⟩ := readDate_eq_some hdate
    obtain ⟨fraction, hfraction, rfl⟩ := readTime_eq_some hclock
    obtain ⟨zone, hzone, rfl⟩ := readOffset_eq_some hoffset
    have heq : text = dateText date ++ separator.toString ++ Text.padded 2 clock.hour ++ ":" ++
        Text.padded 2 clock.minute ++ ":" ++ Text.padded 2 clock.second ++ fraction ++ zone := by
      refine String.toList_inj.1 (htext.trans ?_)
      simp
    have hclock : clock.hour < 24 ∧ clock.minute < 60 ∧ (clock.second < 60 ∨ clock.second = 60) := by
      simp only [TimeOfDay.isValid, Bool.and_eq_true, decide_eq_true_eq] at hclockValid
      split at hclockValid
      · next hsixty => exact ⟨hclockValid.1.1.1, hclockValid.1.1.2, .inr hsixty⟩
      · exact ⟨hclockValid.1.1.1, hclockValid.1.1.2, .inl hclockValid.1.2⟩
    rw [heq]
    refine .intro hyear hvalid hseparator hclock.1 hclock.2.1 ?_ hfraction hzone
    refine hclock.2.2.imp_right fun hsixty => ⟨hsixty, ?_⟩
    rw [if_pos hsixty] at hleap
    exact hleap.resolve_left fun hne => hne hsixty

/-- What is of the grammar is read. -/
theorem IsTimestamp.isSome_ofText? {text : String} (htext : IsTimestamp IsReadSeparator text) :
    (ofText? text).isSome = true := by
  cases htext with
  | @intro date hour minute second offset separator fraction zone hyear hdate hseparator hhour hminute hsecond
      hfraction hoffset =>
    obtain ⟨nanos, hnanos, hread⟩ := hfraction.read hoffset.endsTime
    have hlist : (dateText date ++ separator.toString ++ Text.padded 2 hour ++ ":" ++ Text.padded 2 minute ++ ":" ++
        Text.padded 2 second ++ fraction ++ zone).toList = (dateText date).toList ++ (separator ::
          ((Text.padded 2 hour).toList ++ (':' :: ((Text.padded 2 minute).toList ++
            (':' :: ((Text.padded 2 second).toList ++ (fraction.toList ++ zone.toList))))))) := by
      simp
    have htime : readTime ((Text.padded 2 hour).toList ++ (':' :: ((Text.padded 2 minute).toList ++
        (':' :: ((Text.padded 2 second).toList ++ (fraction.toList ++ zone.toList)))))) =
          some (⟨hour, minute, second, nanos⟩, zone.toList) := by
      unfold readTime
      rw [readNumber_padded (by decide) (by omega)]
      simp only [Option.bind_eq_bind, Option.bind_some, passChar_cons]
      rw [readNumber_padded (by decide) (by omega)]
      simp only [Option.bind_some, passChar_cons]
      rw [readNumber_padded (by decide) (by omega)]
      simp only [Option.bind_some, hread]
    unfold ofText?
    rw [hlist, readDate_dateText hyear.1 hyear.2 hdate]
    simp only [Option.bind_eq_bind, Option.bind_some, htime, hoffset.read]
    have hascii : separator.val < 128 := hseparator
    rcases hsecond with hlt | ⟨rfl, hleap⟩
    · have hclock : (⟨hour, minute, second, nanos⟩ : TimeOfDay).isValid = true := by
        simp [TimeOfDay.isValid, hhour, hminute, hlt, hnanos]
      simp [hascii, hdate, hclock, Nat.ne_of_lt hlt, guard]
    · -- The sixtieth second is read as the last moment of the one before.
      have hclock : (⟨hour, minute, 59, nanosPerSecond - 1⟩ : TimeOfDay).isValid = true := by
        simp [TimeOfDay.isValid, hhour, hminute, nanosPerSecond]
      simp [hascii, hdate, hclock, hleap, guard]

/-- A text is read exactly if it is of the grammar with some ASCII character between date and time. -/
theorem isSome_ofText?_iff (text : String) : (ofText? text).isSome = true ↔ IsTimestamp IsReadSeparator text := by
  refine ⟨fun hread => ?_, IsTimestamp.isSome_ofText?⟩
  obtain ⟨time, htime⟩ := Option.isSome_iff_exists.1 hread
  exact isTimestamp_of_ofText? htime

end ChatNotify.LocalTime
