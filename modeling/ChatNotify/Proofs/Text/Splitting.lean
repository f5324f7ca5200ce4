namespace ChatNotify.Text

/-- The part is a maximal stretch of the text without a separator. It may be empty. -/
structure IsStretch (p : Char → Bool) (part text : List Char) : Prop where
  clear : ∀ c ∈ part, p c = false
  bounded : ∃ before after, text = before ++ part ++ after ∧
    (∀ c ∈ before.getLast?, p c = true) ∧ ∀ c ∈ after.head?, p c = true

variable {p : Char → Bool} {part text : List Char}

private theorem mem_splitOnP_append {after : List Char} (hpart : ∀ c ∈ part, p c = false)
    (hafter : ∀ c ∈ after.head?, p c = true) : part ∈ (part ++ after).splitOnP p := by
  cases after with
  | nil =>
    rw [List.append_nil, List.splitOnP_eq_singleton hpart]
    exact List.mem_singleton_self part
  | cons sep rest =>
    rw [List.splitOnP_append_cons_of_forall_mem hpart sep (hafter sep rfl)]
    exact List.mem_cons_self

theorem IsStretch.mem_splitOnP (hstretch : IsStretch p part text) : part ∈ text.splitOnP p := by
  obtain ⟨before, after, rfl, hbefore, hafter⟩ := hstretch.bounded
  have hmem := mem_splitOnP_append hstretch.clear hafter
  rcases List.eq_nil_or_concat before with rfl | ⟨init, sep, rfl⟩
  · exact hmem
  · rw [List.concat_eq_append] at hbefore ⊢
    have htext : (init ++ [sep]) ++ part ++ after = init ++ sep :: (part ++ after) := by simp
    rw [htext, List.splitOnP_append_cons init (part ++ after) (hbefore sep (by simp))]
    exact List.mem_append_right _ hmem

/-- A stretch behind a separator is one of the whole text. -/
theorem IsStretch.of_append_cons {init : List Char} {sep : Char} (hsep : p sep = true)
    (hstretch : IsStretch p part text) : IsStretch p part (init ++ sep :: text) := by
  obtain ⟨before, after, rfl, hbefore, hafter⟩ := hstretch.bounded
  refine ⟨hstretch.clear, init ++ sep :: before, after, by simp, ?_, hafter⟩
  cases before with
  | nil => simpa using hsep
  | cons c before => simpa using hbefore

theorem isStretch_of_mem_splitOnP (hmem : part ∈ text.splitOnP p) : IsStretch p part text := by
  -- The induction is on the separators: what stands behind the first of them is shorter.
  induction hlength : text.length using Nat.strongRecOn generalizing text with
  | ind length ih =>
    cases hfind : text.find? p with
    | none =>
      have hclear : ∀ c ∈ text, p c = false := by simpa using hfind
      rw [List.splitOnP_eq_singleton hclear, List.mem_singleton] at hmem
      subst hmem
      exact ⟨hclear, [], [], by simp, by simp, by simp⟩
    | some sep =>
      obtain ⟨hsep, init, rest, rfl, hinit⟩ := List.find?_eq_some_iff_append.1 hfind
      have hclear : ∀ c ∈ init, p c = false := by simpa using hinit
      rw [List.splitOnP_append_cons_of_forall_mem hclear sep hsep, List.mem_cons] at hmem
      rcases hmem with rfl | hmem
      · exact ⟨hclear, [], sep :: rest, by simp, by simp, by simpa using hsep⟩
      · have hshorter : rest.length < length := by
          rw [← hlength, List.length_append, List.length_cons]
          omega
        exact (ih rest.length hshorter hmem rfl).of_append_cons hsep

theorem mem_splitOnP_iff : part ∈ text.splitOnP p ↔ IsStretch p part text :=
  ⟨isStretch_of_mem_splitOnP, IsStretch.mem_splitOnP⟩

end ChatNotify.Text
