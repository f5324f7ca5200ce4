import ChatNotify.Journal

namespace ChatNotify.Logged

variable {α β ε : Type}

instance : LawfulMonad Logged :=
  LawfulMonad.mk' Logged (by rintro α ⟨value, questions, warnings⟩; simp [Functor.map, andThen])
    (by intros; simp [bind, pure, andThen]) (by intros; simp [bind, andThen, List.append_assoc])

/-- Work that may fail goes on with the value of what comes before, or fails as that does. -/
theorem value_run_bind (first : ExceptT ε Logged α) (next : α → ExceptT ε Logged β) :
    (first >>= next).run.value = first.run.value >>= fun value => (next value).run.value := by
  have hrun : (first >>= next).run.value = (ExceptT.bindCont next first.run.value).value := rfl
  rw [hrun]
  cases first.run.value with
  | ok value => rfl
  | error error => rfl

/-- Work on a list that fails at none of the items. -/
theorem value_run_mapM {work : α → ExceptT ε Logged β} {outcome : α → β}
    (hwork : ∀ item, (work item).run.value = .ok (outcome item)) (items : List α) :
    (items.mapM work).run.value = .ok (items.map outcome) := by
  induction items with
  | nil => rfl
  | cons first rest ih =>
    have hrest : ((rest.mapM work >>= fun outcomes => pure (outcome first :: outcomes) :
        ExceptT ε Logged (List β))).run.value = .ok (outcome first :: rest.map outcome) := by
      rw [value_run_bind, ih]
      rfl
    rw [List.mapM_cons, value_run_bind, hwork]
    exact hrest

end ChatNotify.Logged
