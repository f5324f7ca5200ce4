import Mathlib.Data.List.Induction

namespace ChatNotify

variable {α : Type} {log : List α} {happening : α}

theorem getElem?_extend {moment : Nat} {seen : α} (hseen : log[moment]? = some seen) (happening : α) :
    (log ++ [happening])[moment]? = some seen := by
  obtain ⟨hlt, -⟩ := List.getElem?_eq_some_iff.1 hseen
  rwa [List.getElem?_append_left hlt]

/-- What is seen in a log that has grown was seen before, or is what it has grown by. -/
theorem getElem?_extend_cases {moment : Nat} {seen : α}
    (hseen : (log ++ [happening])[moment]? = some seen) :
    moment < log.length ∧ log[moment]? = some seen ∨ moment = log.length ∧ seen = happening := by
  by_cases hlt : moment < log.length
  · rw [List.getElem?_append_left hlt] at hseen
    exact .inl ⟨hlt, hseen⟩
  · obtain ⟨hbound, -⟩ := List.getElem?_eq_some_iff.1 hseen
    have hmoment : moment = log.length := by
      simp only [List.length_append, List.length_singleton] at hbound
      omega
    rw [hmoment, List.getElem?_concat_length] at hseen
    cases hseen
    exact .inr ⟨hmoment, rfl⟩

/-- The last happening of a kind, if there is one. -/
theorem exists_last (p : α → Prop) (log : List α) :
    (∀ happening ∈ log, ¬ p happening) ∨
      ∃ front last back, log = front ++ last :: back ∧ p last ∧ ∀ happening ∈ back, ¬ p happening := by
  induction log with
  | nil => exact .inl nofun
  | cons first rest ih =>
    rcases ih with hnone | ⟨front, last, back, rfl, hlast, hback⟩
    · by_cases hfirst : p first
      · exact .inr ⟨[], first, rest, rfl, hfirst, hnone⟩
      · exact .inl (List.forall_mem_cons.2 ⟨hfirst, hnone⟩)
    · exact .inr ⟨first :: front, last, back, rfl, hlast, hback⟩

/-- What is the last happening of a kind is the newest one, or was it before and the newest does not end that. -/
theorem exists_last_concat_iff {P Q : α → Prop} :
    (∃ front last back, log ++ [happening] = front ++ last :: back ∧ P last ∧ ∀ later ∈ back, Q later) ↔
      P happening ∨
        (∃ front last back, log = front ++ last :: back ∧ P last ∧ ∀ later ∈ back, Q later) ∧ Q happening := by
  constructor
  · rintro ⟨front, last, back, hsplit, hlast, hback⟩
    rcases List.eq_nil_or_concat back with rfl | ⟨back, newest, rfl⟩
    · obtain ⟨-, hnewest⟩ := List.append_inj' hsplit rfl
      obtain ⟨rfl, -⟩ := List.cons.inj hnewest
      exact .inl hlast
    · rw [List.concat_eq_append] at hsplit hback
      rw [← List.cons_append, ← List.append_assoc] at hsplit
      obtain ⟨rfl, hnewest⟩ := List.append_inj' hsplit rfl
      obtain ⟨rfl, -⟩ := List.cons.inj hnewest
      exact .inr ⟨⟨front, last, back, rfl, hlast, fun later hlater => hback later (by simp [hlater])⟩,
        hback happening (by simp)⟩
  · rintro (hnewest | ⟨⟨front, last, back, rfl, hlast, hback⟩, hnewest⟩)
    · exact ⟨log, happening, [], rfl, hnewest, nofun⟩
    · refine ⟨front, last, back ++ [happening], by simp, hlast, fun later hlater => ?_⟩
      rcases List.mem_append.1 hlater with hbefore | hend
      · exact hback later hbefore
      · rw [List.mem_singleton.1 hend]
        exact hnewest

end ChatNotify
