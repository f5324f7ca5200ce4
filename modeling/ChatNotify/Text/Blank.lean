namespace Char

/-- Holds of the space, the tab, the line feed, the vertical tab, the form feed and the carriage
return. -/
def isAsciiSpace (c : Char) : Bool :=
  c.val = 0x20 || 9 ≤ c.val && c.val ≤ 13

/-- Holds of white space of every script, which is the property `White_Space`. -/
def isBlank (c : Char) : Bool :=
  c.isAsciiSpace || c.val = 0x85 || c.val = 0xa0 || c.val = 0x1680 ||
    0x2000 ≤ c.val && c.val ≤ 0x200a || c.val = 0x2028 || c.val = 0x2029 || c.val = 0x202f ||
    c.val = 0x205f || c.val = 0x3000

theorem isBlank_of_isWhitespace {c : Char} (h : c.isWhitespace) : c.isBlank := by
  simp only [isWhitespace, Bool.or_eq_true, decide_eq_true_eq] at h
  rcases h with ((h | h) | h) | h <;> subst h <;> decide

end Char

namespace ChatNotify.Text

/-- Drops the characters of `p` at the end. -/
def trimEndBy (p : Char → Bool) (text : List Char) : List Char :=
  (text.reverse.dropWhile p).reverse

/-- What is dropped at the end consists of characters of `p`. -/
theorem exists_eq_trimEndBy_append (p : Char → Bool) (text : List Char) :
    ∃ back, text = trimEndBy p text ++ back ∧ ∀ c ∈ back, p c = true := by
  refine ⟨(text.reverse.takeWhile p).reverse, ?_, fun c hc => ?_⟩
  · rw [trimEndBy, ← List.reverse_append, List.takeWhile_append_dropWhile, List.reverse_reverse]
  · exact List.all_eq_true.1 List.all_takeWhile c (List.mem_reverse.1 hc)

theorem trimEndBy_append {p : Char → Bool} {back : List Char} (hback : ∀ c ∈ back, p c = true) (text : List Char) :
    trimEndBy p (text ++ back) = trimEndBy p text := by
  rw [trimEndBy, List.reverse_append, List.dropWhile_append_of_pos (by simpa using hback), trimEndBy]

/-- A text stays as it is if its last character is none of `p`. -/
theorem trimEndBy_of_getLast? {p : Char → Bool} {text : List Char} (hlast : ∀ c ∈ text.getLast?, p c = false) :
    trimEndBy p text = text := by
  rw [List.getLast?_eq_head?_reverse] at hlast
  rw [trimEndBy]
  cases hreverse : text.reverse with
  | nil => simpa using hreverse.symm
  | cons c rest =>
    rw [hreverse] at hlast
    rw [List.dropWhile_cons_of_neg (by simp [hlast c rfl]), ← hreverse, List.reverse_reverse]

theorem getLast?_trimEndBy_not {p : Char → Bool} {text : List Char} {c : Char}
    (hlast : (trimEndBy p text).getLast? = some c) : p c = false := by
  rw [trimEndBy, List.getLast?_reverse] at hlast
  have hhead := List.head?_dropWhile_not p text.reverse
  rw [hlast] at hhead
  simpa using hhead

theorem trimEndBy_concat (p : Char → Bool) (text : List Char) (c : Char) :
    trimEndBy p (text ++ [c]) = if p c then trimEndBy p text else text ++ [c] := by
  unfold trimEndBy
  rw [List.reverse_append, List.reverse_singleton, List.singleton_append, List.dropWhile_cons]
  split <;> simp

theorem trimEndBy_cons {p : Char → Bool} {c : Char} (hc : p c = false) (text : List Char) :
    trimEndBy p (c :: text) = c :: trimEndBy p text := by
  simp [trimEndBy, List.dropWhile_append, hc]

/-- Drops the characters of `p` at both ends. -/
def trimBy (p : Char → Bool) (text : List Char) : List Char :=
  trimEndBy p (text.dropWhile p)

/-- A text without the white space at its ends. -/
def trimmed (text : String) : String :=
  String.ofList (trimBy Char.isBlank text.toList)

end ChatNotify.Text
