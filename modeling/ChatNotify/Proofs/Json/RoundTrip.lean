import ChatNotify.Proofs.Json.Scalar

namespace ChatNotify.Json

mutual

/-- Holds of values whose strings and names are texts. -/
def isWellFormed : Json → Bool
  | .illFormed => false
  | .array elements => areWellFormed elements
  | .object members => haveWellFormedValues members
  | _ => true

/-- Holds if all values are well formed. -/
def areWellFormed : List Json → Bool
  | [] => true
  | value :: rest => value.isWellFormed && areWellFormed rest

/-- Holds if the values of all members are well formed. -/
def haveWellFormedValues : List (String × Json) → Bool
  | [] => true
  | (_, value) :: rest => value.isWellFormed && haveWellFormedValues rest

end

/-- The text between the brackets of an array. -/
def elementsText (elements : List Json) : List Char :=
  [','].intercalate ((renderAll elements).map String.toList)

/-- The text between the braces of an object. -/
def membersText (members : List (String × Json)) : List Char :=
  [','].intercalate ((renderMembers members).map String.toList)

section

variable (value : Json) (name : String)

theorem elementsText_singleton : elementsText [value] = value.render.toList := by
  simp [elementsText, renderAll]

theorem elementsText_cons_cons (next : Json) (more : List Json) :
    elementsText (value :: next :: more) = value.render.toList ++ ',' :: elementsText (next :: more) := by
  simp [elementsText, renderAll, List.intercalate_cons_cons]

theorem membersText_singleton :
    membersText [(name, value)] = (writeString name).toList ++ ':' :: value.render.toList := by
  simp [membersText, renderMembers]

theorem membersText_cons_cons (next : String × Json) (more : List (String × Json)) :
    membersText ((name, value) :: next :: more) =
      (writeString name).toList ++ ':' :: (value.render.toList ++ ',' :: membersText (next :: more)) := by
  simp [membersText, renderMembers, List.intercalate_cons_cons]

theorem toList_render_array (elements : List Json) :
    (Json.array elements).render.toList = '[' :: (elementsText elements ++ [']']) := by
  simp [render, elementsText, String.toList_intercalate]

theorem toList_render_object (members : List (String × Json)) :
    (Json.object members).render.toList = '\x7b' :: (membersText members ++ ['\x7d']) := by
  simp [render, membersText, String.toList_intercalate]

theorem toList_render_decimal (negative : Bool) (digits : Nat) (exponent : Int) :
    (Json.decimal negative digits exponent).render.toList =
      Reader.signed negative digits ++ 'e' :: (toString exponent).toList := by
  cases negative <;> simp [render, Reader.signed, Nat.repr_eq_ofList_toDigits]

end

namespace Reader

/-- Holds of the characters that a value begins with. -/
def isFirst (c : Char) : Bool :=
  c = 'n' || c = 't' || c = 'f' || c = '"' || c = '[' || c = '\x7b' || c = '-' || c.isDigit

theorem exists_signed_eq_cons (negative : Bool) (value : Nat) :
    ∃ c text, signed negative value = c :: text ∧ (c = '-' ∨ c.isDigit = true) := by
  cases negative with
  | true => exact ⟨'-', _, rfl, .inl rfl⟩
  | false =>
    cases hdigits : Nat.toDigits 10 value with
    | nil => exact absurd hdigits Nat.toDigits_ne_nil
    | cons first digits =>
      exact ⟨first, digits, hdigits, .inr (isDigit_of_mem_toDigits first (hdigits ▸ List.mem_cons_self ..))⟩

theorem exists_render_eq_cons (json : Json) :
    ∃ c text, json.render.toList = c :: text ∧ isFirst c = true := by
  have hnumber (negative : Bool) (value : Nat) (rest : List Char) :
      ∃ c text, signed negative value ++ rest = c :: text ∧ isFirst c = true := by
    obtain ⟨c, text, htext, hfirst⟩ := exists_signed_eq_cons negative value
    refine ⟨c, text ++ rest, by rw [htext]; rfl, ?_⟩
    rcases hfirst with rfl | hdigit
    · rfl
    · simp [isFirst, hdigit]
  cases json with
  | null => exact ⟨'n', _, rfl, rfl⟩
  | illFormed => exact ⟨'n', _, rfl, rfl⟩
  | bool value =>
    cases value with
    | true => exact ⟨'t', _, rfl, rfl⟩
    | false => exact ⟨'f', _, rfl, rfl⟩
  | integer value =>
    obtain ⟨c, text, htext, hfirst⟩ := hnumber (value < 0) value.natAbs []
    refine ⟨c, text, ?_, hfirst⟩
    rw [render, toList_toString, ← htext, List.append_nil]
  | decimal negative digits exponent => exact toList_render_decimal .. ▸ hnumber negative digits _
  | string text => exact ⟨'"', _, toList_writeString text, rfl⟩
  | array elements => exact ⟨'[', _, toList_render_array elements, rfl⟩
  | object members => exact ⟨'\x7b', _, toList_render_object members, rfl⟩

/-- A text that may follow a value inside of another one, or at the end. -/
def EndsValue (rest : List Char) : Prop :=
  ∀ c, rest.head? = some c → c = ',' ∨ c = ']' ∨ c = '\x7d'

theorem EndsValue.endsNumber {rest : List Char} (hends : EndsValue rest) : EndsNumber rest := by
  intro c hfirst
  rcases hends c hfirst with rfl | rfl | rfl <;> decide

theorem endsValue_cons {c : Char} (hc : c = ',' ∨ c = ']' ∨ c = '\x7d') (rest : List Char) :
    EndsValue (c :: rest) := by
  intro first hfirst
  cases hfirst
  exact hc

theorem skipSpace_cons {c : Char} (hc : isSpace c = false) (rest : List Char) :
    skipSpace (c :: rest) = c :: rest :=
  List.dropWhile_cons_of_neg (by rw [hc]; exact Bool.false_ne_true)

theorem isSpace_of_isFirst {c : Char} (hfirst : isFirst c = true) : isSpace c = false := by
  rw [Bool.eq_false_iff]
  intro hspace
  simp only [isSpace, Bool.or_eq_true, decide_eq_true_eq] at hspace
  rcases hspace with ((rfl | rfl) | rfl) | rfl <;> cases hfirst

theorem skipSpace_render (json : Json) (rest : List Char) :
    skipSpace (json.render.toList ++ rest) = json.render.toList ++ rest := by
  obtain ⟨c, text, htext, hfirst⟩ := exists_render_eq_cons json
  rw [htext, List.cons_append]
  exact skipSpace_cons (isSpace_of_isFirst hfirst) _

theorem exists_elementsText_eq_cons (value : Json) (more : List Json) :
    ∃ c text, elementsText (value :: more) = c :: text ∧ isFirst c = true := by
  obtain ⟨c, text, htext, hfirst⟩ := exists_render_eq_cons value
  cases more with
  | nil => exact ⟨c, text, (elementsText_singleton value).trans htext, hfirst⟩
  | cons next more => exact ⟨c, _, by rw [elementsText_cons_cons, htext]; rfl, hfirst⟩

theorem exists_membersText_eq_cons (name : String) (value : Json) (more : List (String × Json)) :
    ∃ text, membersText ((name, value) :: more) = '"' :: text := by
  cases more with
  | nil => exact ⟨_, by rw [membersText_singleton, toList_writeString]; rfl⟩
  | cons next more => exact ⟨_, by rw [membersText_cons_cons, toList_writeString]; rfl⟩

theorem readValue_of_number {c : Char} (hc : c = '-' ∨ c.isDigit = true) (fuel : Nat) (text : List Char) :
    readValue (fuel + 1) (c :: text) = readNumber (c :: text) := by
  rw [readValue.eq_def]
  dsimp only
  split
  all_goals
    first
    | rfl
    | next heq =>
      cases heq
      rcases hc with hc | hc <;> cases hc

theorem readValue_array (fuel : Nat) (text : List Char) :
    readValue (fuel + 1) ('[' :: text) =
      match skipSpace text with
      | ']' :: rest => some (.array [], rest)
      | rest => readElements fuel [] rest :=
  rfl

theorem readValue_object (fuel : Nat) (text : List Char) :
    readValue (fuel + 1) ('\x7b' :: text) =
      match skipSpace text with
      | '\x7d' :: rest => some (.object [], rest)
      | rest => readMembers fuel (some []) rest :=
  rfl

theorem readValue_signed (fuel : Nat) (negative : Bool) (value : Nat) (rest : List Char) :
    readValue (fuel + 1) (signed negative value ++ rest) = readNumber (signed negative value ++ rest) := by
  obtain ⟨c, text, htext, hfirst⟩ := exists_signed_eq_cons negative value
  rw [htext, List.cons_append]
  exact readValue_of_number hfirst fuel _

theorem readValue_writeString (fuel : Nat) (text : String) (rest : List Char) :
    readValue (fuel + 1) ((writeString text).toList ++ rest) = some (.string text, rest) := by
  have hread := readStringAfter_writeString text rest
  rw [toList_writeString, List.cons_append, List.append_assoc]
  change (readStringAfter {} (text.toList.flatMap writeChar ++ '"' :: rest)).map _ = _
  rw [hread]
  rfl

/-- After an element there is a comma and the next one, or the end. -/
theorem readElements_succ {fuel : Nat} {text : List Char} {value : Json} {c : Char} {rest : List Char}
    (hvalue : readValue fuel text = some (value, c :: rest)) (taken : List Json) :
    (c = ',' → readElements (fuel + 1) taken text = readElements fuel (value :: taken) (skipSpace rest)) ∧
      (c = ']' → readElements (fuel + 1) taken text = some (.array (value :: taken).reverse, rest)) := by
  rw [readElements, hvalue]
  constructor
  · rintro rfl
    rfl
  · rintro rfl
    rfl

/-- After a member there is a comma and the next one, or the end. -/
theorem readMembers_succ {fuel : Nat} {name : String} {text : List Char} {value : Json} {c : Char}
    {rest : List Char} (hspace : skipSpace text = text) (hvalue : readValue fuel text = some (value, c :: rest))
    (taken : List (String × Json)) :
    (c = ',' → readMembers (fuel + 1) (some taken) ((writeString name).toList ++ ':' :: text) =
        readMembers fuel (some ((name, value) :: taken)) (skipSpace rest)) ∧
      (c = '\x7d' → readMembers (fuel + 1) (some taken) ((writeString name).toList ++ ':' :: text) =
        some (.object ((name, value) :: taken).reverse, rest)) := by
  have hcolon : skipSpace (':' :: text) = ':' :: text := skipSpace_cons rfl text
  rw [readMembers, readString_writeString]
  simp only [Option.bind_eq_bind, Option.bind_some, hcolon, hspace, hvalue]
  constructor
  · rintro rfl
    rfl
  · rintro rfl
    rfl

/-- With the fuel, values are read as they were written. -/
def ReadsValues (fuel : Nat) : Prop :=
  ∀ (json : Json) (rest : List Char), json.isWellFormed = true → json.render.toList.length ≤ fuel →
    EndsValue rest → readValue fuel (json.render.toList ++ rest) = some (json, rest)

/-- With the fuel, the elements of an array are read as they were written. -/
def ReadsElements (fuel : Nat) : Prop :=
  ∀ (value : Json) (more taken : List Json) (rest : List Char), areWellFormed (value :: more) = true →
    (elementsText (value :: more)).length < fuel →
    readElements fuel taken (elementsText (value :: more) ++ ']' :: rest) =
      some (.array (taken.reverse ++ value :: more), rest)

/-- With the fuel, the members of an object are read as they were written. -/
def ReadsMembers (fuel : Nat) : Prop :=
  ∀ (name : String) (value : Json) (more taken : List (String × Json)) (rest : List Char),
    haveWellFormedValues ((name, value) :: more) = true → (membersText ((name, value) :: more)).length < fuel →
    readMembers fuel (some taken) (membersText ((name, value) :: more) ++ '\x7d' :: rest) =
      some (.object (taken.reverse ++ (name, value) :: more), rest)

theorem readsValues_succ {fuel : Nat} (helements : ReadsElements fuel) (hmembers : ReadsMembers fuel) :
    ReadsValues (fuel + 1) := by
  intro json rest hwell hfuel hends
  cases json with
  | null => rfl
  | illFormed => cases hwell
  | bool value => cases value <;> rfl
  | integer value =>
    have hnumber := readNumber_toString value hends.endsNumber
    rw [render]
    rw [toList_toString] at hnumber ⊢
    rw [readValue_signed, hnumber]
  | decimal negative digits exponent =>
    rw [toList_render_decimal, List.append_assoc, readValue_signed]
    exact readNumber_decimal negative digits exponent hends.endsNumber
  | string text => exact readValue_writeString fuel text rest
  | array elements =>
    cases elements with
    | nil => rfl
    | cons value more =>
      rw [toList_render_array, List.length_cons, List.length_append, List.length_singleton] at hfuel
      have hread := helements value more [] rest hwell (by omega)
      obtain ⟨c, text, htext, hfirst⟩ := exists_elementsText_eq_cons value more
      rw [toList_render_array, List.cons_append, List.append_assoc, readValue_array]
      rw [htext] at hread ⊢
      rw [List.cons_append, skipSpace_cons (isSpace_of_isFirst hfirst)]
      split
      · next heq => cases heq; cases hfirst
      · exact hread
  | object members =>
    cases members with
    | nil => rfl
    | cons member more =>
      obtain ⟨name, value⟩ := member
      rw [toList_render_object, List.length_cons, List.length_append, List.length_singleton] at hfuel
      have hread := hmembers name value more [] rest hwell (by omega)
      obtain ⟨text, htext⟩ := exists_membersText_eq_cons name value more
      rw [toList_render_object, List.cons_append, List.append_assoc, readValue_object]
      rw [htext] at hread ⊢
      exact hread

theorem readsElements_succ {fuel : Nat} (hvalues : ReadsValues fuel) (helements : ReadsElements fuel) :
    ReadsElements (fuel + 1) := by
  intro value more taken rest hwell hfuel
  obtain ⟨hfirst, hothers⟩ := Bool.and_eq_true_iff.1 hwell
  cases more with
  | nil =>
    rw [elementsText_singleton] at hfuel ⊢
    have hvalue := hvalues value (']' :: rest) hfirst (by omega) (endsValue_cons (.inr (.inl rfl)) rest)
    rw [(readElements_succ hvalue taken).2 rfl, List.reverse_cons]
  | cons next more =>
    rw [elementsText_cons_cons, List.length_append, List.length_cons] at hfuel
    obtain ⟨c, text, htext, hc⟩ := exists_elementsText_eq_cons next more
    have hmore := helements next more (value :: taken) rest hothers (by omega)
    have hvalue := hvalues value (',' :: (elementsText (next :: more) ++ ']' :: rest)) hfirst (by omega)
      (endsValue_cons (.inl rfl) _)
    rw [elementsText_cons_cons, List.append_assoc, List.cons_append, (readElements_succ hvalue taken).1 rfl]
    rw [htext] at hmore ⊢
    rw [List.cons_append, skipSpace_cons (isSpace_of_isFirst hc), ← List.cons_append, hmore, List.reverse_cons,
      List.append_assoc]
    rfl

theorem readsMembers_succ {fuel : Nat} (hvalues : ReadsValues fuel) (hmembers : ReadsMembers fuel) :
    ReadsMembers (fuel + 1) := by
  intro name value more taken rest hwell hfuel
  obtain ⟨hfirst, hothers⟩ := Bool.and_eq_true_iff.1 hwell
  cases more with
  | nil =>
    rw [membersText_singleton, List.length_append, List.length_cons] at hfuel
    have hvalue := hvalues value ('\x7d' :: rest) hfirst (by omega) (endsValue_cons (.inr (.inr rfl)) rest)
    rw [membersText_singleton, List.append_assoc, List.cons_append,
      (readMembers_succ (skipSpace_render value _) hvalue taken).2 rfl, List.reverse_cons]
  | cons next more =>
    obtain ⟨other, nextValue⟩ := next
    rw [membersText_cons_cons, List.length_append, List.length_cons, List.length_append, List.length_cons] at hfuel
    obtain ⟨text, htext⟩ := exists_membersText_eq_cons other nextValue more
    have hmore := hmembers other nextValue more ((name, value) :: taken) rest hothers (by omega)
    have hvalue := hvalues value (',' :: (membersText ((other, nextValue) :: more) ++ '\x7d' :: rest)) hfirst
      (by omega) (endsValue_cons (.inl rfl) _)
    rw [membersText_cons_cons, List.append_assoc, List.cons_append, List.append_assoc, List.cons_append,
      (readMembers_succ (skipSpace_render value _) hvalue taken).1 rfl]
    rw [htext] at hmore ⊢
    rw [List.cons_append, skipSpace_cons rfl, ← List.cons_append, hmore, List.reverse_cons, List.append_assoc]
    rfl

/-- Enough fuel reads everything as it was written. -/
theorem reads (fuel : Nat) : ReadsValues fuel ∧ ReadsElements fuel ∧ ReadsMembers fuel := by
  -- Values are read with one unit less for their elements and members, and these for their values.
  induction fuel with
  | zero =>
    refine ⟨?_, ?_, ?_⟩
    · intro json rest _ hfuel _
      obtain ⟨c, text, htext, -⟩ := exists_render_eq_cons json
      rw [htext] at hfuel
      exact absurd hfuel (Nat.not_succ_le_zero _)
    · exact fun _ _ _ _ _ hfuel => absurd hfuel (Nat.not_lt_zero _)
    · exact fun _ _ _ _ _ _ hfuel => absurd hfuel (Nat.not_lt_zero _)
  | succ fuel ih =>
    obtain ⟨hvalues, helements, hmembers⟩ := ih
    exact ⟨readsValues_succ helements hmembers, readsElements_succ hvalues helements,
      readsMembers_succ hvalues hmembers⟩

end Reader

/-- A value that was written is read back. -/
theorem parse?_render {json : Json} (hwell : json.isWellFormed = true) : parse? json.render = some json := by
  have hspace := Reader.skipSpace_render json []
  have hread := (Reader.reads (2 * json.render.toList.length + 1)).1 json [] hwell (by omega) nofun
  rw [List.append_nil] at hspace hread
  rw [parse?, hspace, hread]
  rfl

end ChatNotify.Json
