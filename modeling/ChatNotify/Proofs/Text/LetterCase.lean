import ChatNotify.Text.Lowercase

namespace ChatNotify.Text

theorem lastStart_spec {start : Nat → Nat} {code low high found : Nat}
    (hfound : lastStart start code low high = some found) : start found ≤ code ∧ low ≤ found ∧ found < high := by
  fun_induction lastStart start code low high with
  | case1 low high hlt middle hle ih =>
    cases hlater : lastStart start code (middle + 1) high with
    | none =>
      simp only [hlater, Option.none_or, Option.some.injEq] at hfound
      subst hfound
      exact ⟨hle, by omega, by omega⟩
    | some later =>
      simp only [hlater, Option.some_or, Option.some.injEq] at hfound
      subst hfound
      obtain ⟨hstart, hlow, hhigh⟩ := ih hlater
      exact ⟨hstart, by omega, hhigh⟩
  | case2 low high hlt middle hgt ih =>
    obtain ⟨hstart, hlow, hhigh⟩ := ih hfound
    exact ⟨hstart, hlow, by omega⟩
  | case3 low high hge => cases hfound

/-- A character stays, or is moved by the distance of a range that it lies in. -/
theorem CodeShift.apply_cases (shifts : Array CodeShift) (c : Char) :
    apply shifts c = c ∨ ∃ shift ∈ shifts, shift.first ≤ c.toNat ∧ c.toNat ≤ shift.last ∧
      apply shifts c = Char.ofNat (c.toNat + shift.distance).toNat := by
  unfold apply
  dsimp only
  split
  · exact .inl rfl
  · next i hfound =>
    obtain ⟨hstart, -, hlt⟩ := lastStart_spec hfound
    obtain ⟨shift, hshift⟩ : ∃ shift, shifts.getD i ⟨0, 0, 1, 0⟩ = shift := ⟨_, rfl⟩
    have hmem : shift ∈ shifts := by
      rw [← hshift, Array.getD_eq_getD_getElem?, Array.getElem?_eq_getElem hlt, Option.getD_some]
      exact Array.getElem_mem hlt
    simp only [hshift] at hstart ⊢
    split
    · next hinside =>
      rw [Bool.and_eq_true, decide_eq_true_eq] at hinside
      exact .inr ⟨shift, hmem, hstart, hinside.1, rfl⟩
    · exact .inl rfl

/-- What is no code point is replaced by the first character of all. -/
theorem ofNat_cases (code : Nat) : (Char.ofNat code).toNat = code ∨ Char.ofNat code = '\x00' := by
  by_cases hvalid : code.isValidChar
  · left
    rw [Char.ofNat, dif_pos hvalid]
    rfl
  · right
    rw [Char.ofNat, dif_neg hvalid]
    rfl

/-- Of the ranges of capitals beyond ASCII only that of the Kelvin sign is moved into ASCII. -/
private theorem lowerShifts_cases {shift : CodeShift} (hmem : shift ∈ lowerShifts) :
    128 ≤ shift.first + shift.distance ∨ shift.first = shift.last ∧ shift.first + shift.distance = 0x6b := by
  have hall : lowerShifts.all (fun shift => 128 ≤ shift.first + shift.distance ||
      (shift.first = shift.last && shift.first + shift.distance = 0x6b)) = true := by decide +kernel
  simpa using Array.all_eq_true_iff_forall_mem.1 hall shift hmem

/-- In ASCII only a small letter is the lower-case form of another character. -/
theorem eq_of_toLower_eq {c d : Char} (hlower : c.toLower = d) (hletter : d.isLower = false) : c = d := by
  subst hlower
  unfold Char.toLower at hletter ⊢
  split
  · next hupper =>
    -- A capital letter moves up by 32, onto a small one.
    rw [dif_pos hupper] at hletter
    obtain ⟨hge, hle⟩ := hupper
    change (_ && _) = false at hletter
    simp only [Bool.and_eq_false_iff, decide_eq_false_iff_not] at hletter
    grind
  · rfl

theorem lowered_ne_nil (c : Char) : c.lowered ≠ [] := by
  unfold Char.lowered
  split
  · simp
  · split <;> simp

/-- A character whose lower-case form begins in ASCII, and is neither an i nor a k, is ASCII itself. -/
theorem val_lt_of_lowered_eq_cons {c first : Char} {rest : List Char} (hlowered : c.lowered = first :: rest)
    (hascii : first.val < 128) (hfirst : first ∉ ['\x00', 'i', 'k']) : c.val < 128 := by
  refine Classical.byContradiction fun hbeyond => hfirst ?_
  unfold Char.lowered at hlowered
  rw [if_neg hbeyond] at hlowered
  split at hlowered
  · cases hlowered
    decide
  · obtain ⟨rfl, -⟩ := List.cons.inj hlowered
    rcases CodeShift.apply_cases lowerShifts c with hstays | ⟨shift, hmem, hlow, hhigh, hmoved⟩
    · rw [hstays] at hascii
      exact absurd hascii hbeyond
    · rw [hmoved] at hascii ⊢
      rcases lowerShifts_cases hmem with hstays | ⟨hsingle, hkelvin⟩
      · rcases ofNat_cases (c.toNat + shift.distance).toNat with hcode | hnone
        · have hlt : (Char.ofNat (c.toNat + shift.distance).toNat).toNat < 128 := hascii
          omega
        · rw [hnone]
          decide
      · have hcode : (c.toNat + shift.distance).toNat = 0x6b := by omega
        rw [hcode]
        decide

/-- A text whose lower case is ASCII without an i or a k differs from it in ASCII letter case alone: of the characters
beyond ASCII only the dotted capital I and the Kelvin sign have a lower-case form that begins in ASCII. -/
theorem map_toLower_eq_lowerAfter {before text : List Char}
    (hplain : ∀ c ∈ lowerAfter before text, c.val < 128 ∧ c ∉ ['\x00', 'i', 'k']) :
    text.map Char.toLower = lowerAfter before text := by
  induction text generalizing before with
  | nil => rfl
  | cons c text ih =>
    rw [lowerAfter] at hplain ⊢
    obtain ⟨hfirst, hrest⟩ := List.forall_mem_append.1 hplain
    by_cases hsigma : c = 'Σ'
    · rw [if_pos hsigma] at hfirst
      have hascii := (hfirst _ (List.mem_singleton_self _)).1
      split at hascii <;> exact absurd hascii (by decide)
    · rw [if_neg hsigma] at hfirst ⊢
      cases hlowered : c.lowered with
      | nil => exact absurd hlowered (lowered_ne_nil c)
      | cons first rest =>
        rw [hlowered] at hfirst
        obtain ⟨hascii, hother⟩ := hfirst first List.mem_cons_self
        have hc := val_lt_of_lowered_eq_cons hlowered hascii hother
        rw [← hlowered, Char.lowered_of_ascii hc, List.map_cons, ih hrest]
        rfl

/-- The texts have the same letters at the same places, whatever the case of each. -/
def SameLetters (text other : List Char) : Prop :=
  text.map Char.lowered = other.map Char.lowered

/-- Only a space is a space in lower case. -/
theorem lowered_eq_space_iff {c : Char} : c.lowered = [' '] ↔ c = ' ' := by
  constructor
  · intro hlowered
    have hascii := val_lt_of_lowered_eq_cons hlowered (by decide) (by decide)
    rw [Char.lowered_of_ascii hascii] at hlowered
    exact eq_of_toLower_eq (List.cons.inj hlowered).1 (by decide)
  · rintro rfl
    decide

/-- Without a capital sigma each character has its lower case by itself. -/
theorem lowerAfter_eq_flatMap {before text : List Char} (hsigma : 'Σ' ∉ text) :
    lowerAfter before text = text.flatMap Char.lowered := by
  induction text generalizing before with
  | nil => rfl
  | cons c text ih =>
    rw [List.mem_cons, not_or] at hsigma
    rw [lowerAfter, if_neg (Ne.symm hsigma.1), ih hsigma.2, List.flatMap_cons]

/-- The lower case of a capital sigma is beyond ASCII. -/
theorem not_mem_of_lowerAfter_ascii {before text : List Char} (hascii : ∀ c ∈ lowerAfter before text, c.val < 128) :
    'Σ' ∉ text := by
  induction text generalizing before with
  | nil => exact List.not_mem_nil
  | cons c text ih =>
    rw [lowerAfter, List.forall_mem_append] at hascii
    rw [List.mem_cons, not_or]
    refine ⟨?_, ih hascii.2⟩
    rintro rfl
    have hsigma := hascii.1 _ (by rw [if_pos rfl]; exact List.mem_singleton_self _)
    split at hsigma <;> exact absurd hsigma (by decide)

variable {text other : List Char}

theorem SameLetters.symm (hsame : SameLetters text other) : SameLetters other text :=
  Eq.symm hsame

theorem SameLetters.lowercaseChars_eq (hsame : SameLetters text other) (htext : 'Σ' ∉ text) (hother : 'Σ' ∉ other) :
    lowercaseChars text = lowercaseChars other := by
  rw [lowercaseChars, lowercaseChars, lowerAfter_eq_flatMap htext, lowerAfter_eq_flatMap hother, List.flatMap_def,
    List.flatMap_def, hsame]

/-- A text whose lower case is ASCII shares it with all texts that have the same letters. -/
theorem SameLetters.lowercaseChars_eq_of_ascii (hsame : SameLetters text other)
    (hascii : ∀ c ∈ lowercaseChars text, c.val < 128) : lowercaseChars text = lowercaseChars other := by
  have htext : 'Σ' ∉ text := not_mem_of_lowerAfter_ascii hascii
  refine hsame.lowercaseChars_eq htext fun hother => ?_
  -- A sigma of either case in the one text would be one in the other too.
  have hmem : Char.lowered 'Σ' ∈ text.map Char.lowered := hsame ▸ List.mem_map_of_mem hother
  obtain ⟨c, hc, hlowered⟩ := List.mem_map.1 hmem
  rw [lowercaseChars, lowerAfter_eq_flatMap htext] at hascii
  have hsigma : 'σ' ∈ text.flatMap Char.lowered := List.mem_flatMap.2 ⟨c, hc, by rw [hlowered]; decide +kernel⟩
  exact absurd (hascii _ hsigma) (by decide)

end ChatNotify.Text
