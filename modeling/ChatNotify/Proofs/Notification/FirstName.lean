import ChatNotify.Proofs.Mention.PlainWord
import ChatNotify.Proofs.Notification.OptIn

namespace ChatNotify

/-- The user with these words to be addressed by, besides the names. -/
def User.withMentionKeys (user : User) (keys : List String) : User :=
  { user with preferences := { user.preferences with mentionKeys := keys } }

namespace KeywordIndex

/-- The first name of the user is all ASCII, and in lower case it is a keyword, but not one of the user. -/
def TakesFirstName (index : KeywordIndex) (user : User) : Prop :=
  (∀ c ∈ user.firstName.toList, c.val < 128) ∧
    ∃ users, index.get? (Text.lowercase user.firstName) = some users ∧ user.id ∉ users

variable {profiles : Table Id User} {allowed : Bool} {preferences : Table Id ChannelPreferences}
  {presence : Table Id Presence}

/-- The index has the keywords of the members, and no others. -/
theorem get?_build_ne_none_iff {keyword : String} :
    (build profiles allowed preferences presence).get? keyword ≠ none ↔ ∃ user ∈ profiles.values,
      keyword ∈ ofMember user (preferences.get? user.id) (presence.get? user.id) allowed := by
  rw [ne_eq, get?_build_eq_none_iff, List.eq_nil_iff_forall_not_mem, not_forall_not]
  simp only [mem_build_iff]
  constructor
  · rintro ⟨_, user, huser, -, hkeyword⟩
    exact ⟨user, huser, hkeyword⟩
  · rintro ⟨user, huser, hkeyword⟩
    exact ⟨user.id, user, huser, rfl, hkeyword⟩

/-- The first name is taken if others have its lower case for a keyword and the member does not. -/
theorem takesFirstName_iff {index : KeywordIndex} {user : User} : index.TakesFirstName user ↔
    (∀ c ∈ user.firstName.toList, c.val < 128) ∧ index.get? (Text.lowercase user.firstName) ≠ none ∧
      user.id ∉ (index.get? (Text.lowercase user.firstName)).getD [] := by
  unfold TakesFirstName
  cases index.get? (Text.lowercase user.firstName) <;> simp

section

variable {key : Id} {other owner : User} {keys : List String} {keyword : String}

theorem mem_ofMember_withMentionKeys_iff (hkeys : other.preferences.mentionKeys ⊆ keys)
    {preference : Option ChannelPreferences} {status : Option Presence} :
    keyword ∈ ofMember (other.withMentionKeys keys) preference status allowed ↔
      keyword ∈ ofMember other preference status allowed ∨ keyword ∈ keys := by
  have hmore : keyword ∈ other.preferences.mentionKeys → keyword ∈ keys := @hkeys keyword
  simp only [ofMember, User.withMentionKeys, List.mem_append]
  tauto

/-- The index has the keywords that it had, and the new ones. -/
theorem get?_build_insert_ne_none_iff (hother : profiles.get? key = some other)
    (hkeys : other.preferences.mentionKeys ⊆ keys) :
    (build (profiles.insert key (other.withMentionKeys keys)) allowed preferences presence).get? keyword ≠ none ↔
      (build profiles allowed preferences presence).get? keyword ≠ none ∨ keyword ∈ keys := by
  rw [get?_build_ne_none_iff, get?_build_ne_none_iff]
  constructor
  · rintro ⟨user, huser, hkeyword⟩
    rcases Table.eq_or_mem_of_mem_values_insert huser with rfl | huser
    · rcases (mem_ofMember_withMentionKeys_iff hkeys).1 hkeyword with hkeyword | hkeyword
      · exact .inl ⟨other, Table.mem_values_iff.2 ⟨key, hother⟩, hkeyword⟩
      · exact .inr hkeyword
    · exact .inl ⟨user, huser, hkeyword⟩
  · rintro (⟨user, huser, hkeyword⟩ | hkeyword)
    · rcases Table.eq_or_mem_values_insert hother huser with rfl | huser
      · exact ⟨_, Table.mem_values_insert_self, (mem_ofMember_withMentionKeys_iff hkeys).2 (.inl hkeyword)⟩
      · exact ⟨user, huser, hkeyword⟩
    · exact ⟨_, Table.mem_values_insert_self, (mem_ofMember_withMentionKeys_iff hkeys).2 (.inr hkeyword)⟩

/-- Others are found under their keywords as before. -/
theorem mem_build_insert_iff (hother : profiles.get? key = some other) {id : Id} (hne : other.id ≠ id) :
    id ∈ ((build (profiles.insert key (other.withMentionKeys keys)) allowed preferences presence).get? keyword).getD
        [] ↔ id ∈ ((build profiles allowed preferences presence).get? keyword).getD [] := by
  rw [mem_build_iff, mem_build_iff]
  constructor
  · rintro ⟨user, huser, rfl, hkeyword⟩
    rcases Table.eq_or_mem_of_mem_values_insert huser with rfl | huser
    · exact absurd rfl hne
    · exact ⟨user, huser, rfl, hkeyword⟩
  · rintro ⟨user, huser, rfl, hkeyword⟩
    rcases Table.eq_or_mem_values_insert hother huser with rfl | huser
    · exact absurd rfl hne
    · exact ⟨user, huser, rfl, hkeyword⟩

/-- New keywords of another member take the first name if its lower case is among them, unless it is a keyword of
the owner too. -/
theorem takesFirstName_build_insert_iff (hother : profiles.get? key = some other) (hne : other.id ≠ owner.id)
    (hkeys : other.preferences.mentionKeys ⊆ keys) :
    (build (profiles.insert key (other.withMentionKeys keys)) allowed preferences presence).TakesFirstName owner ↔
      (build profiles allowed preferences presence).TakesFirstName owner ∨
      (∀ c ∈ owner.firstName.toList, c.val < 128) ∧ Text.lowercase owner.firstName ∈ keys ∧
        owner.id ∉ ((build profiles allowed preferences presence).get? (Text.lowercase owner.firstName)).getD [] := by
  rw [takesFirstName_iff, takesFirstName_iff, get?_build_insert_ne_none_iff hother hkeys,
    mem_build_insert_iff hother hne]
  tauto

end

end KeywordIndex

namespace Mention

variable {index : KeywordIndex} {owner : User}

/-- The first name tags the member as it stands if its lower case is no keyword, and by its lower case if that is a
keyword of the member. One beyond ASCII is inside itself. -/
theorem tags_firstName_iff (hname : IsPlain owner.firstName.toList) (hne : owner.firstName.toList ≠ [])
    (hmem : owner.id ∈ (index.get? owner.firstName).getD []) :
    Tags index owner.firstName.toList owner.id ↔ ¬ index.TakesFirstName owner := by
  rw [hname.tags_iff hne]
  constructor
  · rintro htags ⟨hascii, users, hlower, hnot⟩
    rcases htags with hbound | ⟨keyword, -, -, -, ⟨c, hc, hbeyond⟩, hinside⟩
    · have hreserved := isReserved_eq_false_iff.1 hname.isReserved_eq_false
      cases hbound with
      | channel hform => exact hreserved.2.1 hform
      | all hform => exact hreserved.2.2 hform
      | lower _ hget huser =>
        cases hget.symm.trans hlower
        exact hnot huser
      | exact _ hget _ _ => cases hget.symm.trans hlower
    · exact absurd (hascii c (hinside.subset hc)) (by simpa using hbeyond)
  · intro hfree
    obtain ⟨users, hget, huser⟩ := KeywordIndex.mem_getD_iff.1 hmem
    by_cases hascii : ∀ c ∈ owner.firstName.toList, c.val < 128
    · left
      have hreserved := hname.isReserved_eq_false
      cases hlower : index.get? (Text.lowercase owner.firstName) with
      | none => exact .exact hreserved hlower (by rwa [String.ofList_toList]) huser
      | some others =>
        refine .lower hreserved hlower (Classical.byContradiction fun hnot => hfree ⟨hascii, others, hlower, hnot⟩)
    · right
      refine ⟨_, users, hget, huser, ?_, List.infix_rfl⟩
      simpa using hascii

/-- A text with the first name of a member in it, just as written, finds the member unless the name is taken; then
it finds the member if another word does. -/
theorem exists_kind?_of_isRun_firstName_iff (hname : IsPlain owner.firstName.toList)
    (hmem : owner.id ∈ (index.get? owner.firstName).getD []) {fragment : String}
    (hrun : IsRun owner.firstName.toList fragment.toList) :
    (∃ kind, (inFragments index [fragment]).kind? owner.id = some kind) ↔ ¬ index.TakesFirstName owner ∨
      ∃ word, IsWordIn fragment.toList word ∧ word ≠ owner.firstName.toList ∧ Tags index word owner.id := by
  rw [exists_kind?_inFragments_singleton_iff, ← tags_firstName_iff hname hrun.ne_nil hmem]
  constructor
  · rintro ⟨word, hword, htags⟩
    by_cases hsame : word = owner.firstName.toList
    · exact .inl (hsame ▸ htags)
    · exact .inr ⟨word, hword, hsame, htags⟩
  · rintro (htags | ⟨word, hword, -, htags⟩)
    · exact ⟨_, hname.isWordIn hrun, htags⟩
    · exact ⟨word, hword, htags⟩

/-- The keywords of others take away a mention by first name only where they are the first name in lower case. A text
with the first name of a member in it, just as written, finds the member before and after another member has chosen
more keywords, unless the name is taken, in which case it takes another word to find the member. The new keywords
take the name only if its lower case is among them. -/
theorem tagged_by_first_name_iff {profiles : Table Id User} (allowed : Bool) (preferences : Table Id ChannelPreferences)
    (presence : Table Id Presence) {key : Id} {other owner : User} {keys : List String}
    (hother : profiles.get? key = some other) (howner : owner ∈ profiles.values) (hne : other.id ≠ owner.id)
    (hkeys : other.preferences.mentionKeys ⊆ keys) (hwants : owner.preferences.firstName = true)
    (hname : IsPlain owner.firstName.toList) {fragment : String}
    (hrun : IsRun owner.firstName.toList fragment.toList) :
    let before := KeywordIndex.build profiles allowed preferences presence
    let after := KeywordIndex.build (profiles.insert key (other.withMentionKeys keys)) allowed preferences presence
    (∀ index ∈ [before, after], (∃ kind, (inFragments index [fragment]).kind? owner.id = some kind) ↔
      ¬ index.TakesFirstName owner ∨
        ∃ word, IsWordIn fragment.toList word ∧ word ≠ owner.firstName.toList ∧ Tags index word owner.id) ∧
    (after.TakesFirstName owner ↔ before.TakesFirstName owner ∨
      (∀ c ∈ owner.firstName.toList, c.val < 128) ∧ Text.lowercase owner.firstName ∈ keys ∧
        owner.id ∉ (before.get? (Text.lowercase owner.firstName)).getD []) := by
  intro before after
  have hbefore : owner.id ∈ (before.get? owner.firstName).getD [] :=
    KeywordIndex.mem_build_firstName howner hwants (by simpa using hrun.ne_nil)
  have hafter : owner.id ∈ (after.get? owner.firstName).getD [] :=
    (KeywordIndex.mem_build_insert_iff hother hne).2 hbefore
  refine ⟨?_, KeywordIndex.takesFirstName_build_insert_iff hother hne hkeys⟩
  simp only [List.forall_mem_cons, List.not_mem_nil, false_implies, implies_true, and_true]
  exact ⟨exists_kind?_of_isRun_firstName_iff hname hbefore hrun, exists_kind?_of_isRun_firstName_iff hname hafter hrun⟩

/-- Anna chooses `bob` for a keyword, and `Bob` does not find Bob any more. -/
theorem keyword_takes_first_name :
    let anna : User := { id := ⟨1⟩, username := "anna" }
    let bob : User := { id := ⟨2⟩, username := "robert", firstName := "Bob", preferences := { firstName := true } }
    let profiles : Table Id User := (Table.insert ∅ ⟨1⟩ anna).insert ⟨2⟩ bob
    (profiles.get? ⟨1⟩ = some anna ∧ bob ∈ profiles.values ∧ anna.id ≠ bob.id ∧
      anna.preferences.mentionKeys ⊆ ["bob"] ∧ IsPlain bob.firstName.toList ∧
      IsRun bob.firstName.toList "Bob".toList) ∧
    (inFragments (KeywordIndex.build profiles false ∅ ∅) ["Bob"]).kind? bob.id = some .keyword ∧
    (inFragments (KeywordIndex.build (profiles.insert ⟨1⟩ (anna.withMentionKeys ["bob"])) false ∅ ∅) ["Bob"]).kind?
      bob.id = none := by
  intro anna bob profiles
  have hbefore : KeywordIndex.build profiles false ∅ ∅ =
      .ofList [("@anna", ⟨1⟩), ("@robert", ⟨2⟩), ("Bob", ⟨2⟩)] := by
    rw [KeywordIndex.build, KeywordIndex.inOrder, List.mergeSort_of_pairwise (by decide)]
    exact congrArg KeywordIndex.ofList (by decide +kernel)
  have hafter : KeywordIndex.build (profiles.insert ⟨1⟩ (anna.withMentionKeys ["bob"])) false ∅ ∅ =
      .ofList [("@anna", ⟨1⟩), ("bob", ⟨1⟩), ("@robert", ⟨2⟩), ("Bob", ⟨2⟩)] := by
    rw [KeywordIndex.build, KeywordIndex.inOrder, List.mergeSort_of_pairwise (by decide)]
    exact congrArg KeywordIndex.ofList (by decide +kernel)
  rw [hbefore, hafter]
  have hbob : bob ∈ profiles.values := List.mem_cons_of_mem _ List.mem_cons_self
  refine ⟨⟨rfl, hbob, by decide, by decide, List.all_eq_true.1 (by decide), ?_⟩, ?_, ?_⟩
  · exact ⟨by decide, List.all_eq_true.1 (by decide), [], [], by decide, by simp, by simp⟩
  · decide +kernel
  · decide +kernel

/-- With `deploy` for a keyword of Anna's, `Bob` finds Bob as before. -/
theorem other_keyword_leaves_first_name :
    let anna : User := { id := ⟨1⟩, username := "anna" }
    let bob : User := { id := ⟨2⟩, username := "robert", firstName := "Bob", preferences := { firstName := true } }
    let profiles : Table Id User := (Table.insert ∅ ⟨1⟩ anna).insert ⟨2⟩ bob
    (profiles.get? ⟨1⟩ = some anna ∧ bob ∈ profiles.values ∧ anna.id ≠ bob.id ∧
      anna.preferences.mentionKeys ⊆ ["deploy"] ∧ IsPlain bob.firstName.toList ∧
      IsRun bob.firstName.toList "hi Bob, deploy".toList) ∧
    ∃ kind, (inFragments (KeywordIndex.build (profiles.insert ⟨1⟩ (anna.withMentionKeys ["deploy"])) false ∅ ∅)
      ["hi Bob, deploy"]).kind? bob.id = some kind := by
  intro anna bob profiles
  have hanna : profiles.get? ⟨1⟩ = some anna := rfl
  have hbob : bob ∈ profiles.values := List.mem_cons_of_mem _ List.mem_cons_self
  have hname : IsPlain bob.firstName.toList := List.all_eq_true.1 (by decide)
  have hrun : IsRun bob.firstName.toList "hi Bob, deploy".toList :=
    { ne_nil := by decide
      chars := List.all_eq_true.1 (by decide)
      bounded := ⟨"hi ".toList, ", deploy".toList, by decide, by rintro c ⟨⟩; rfl, by rintro c ⟨⟩; rfl⟩ }
  have hfree : ¬ (KeywordIndex.build profiles false ∅ ∅).TakesFirstName bob := by
    intro htakes
    have howners := KeywordIndex.get?_build_ne_none_iff.1 (KeywordIndex.takesFirstName_iff.1 htakes).2.1
    revert howners
    decide +kernel
  have hkeys : anna.preferences.mentionKeys ⊆ ["deploy"] := by decide
  obtain ⟨htagged, htaken⟩ := tagged_by_first_name_iff false ∅ ∅ hanna hbob (by decide) hkeys rfl hname hrun
  refine ⟨⟨hanna, hbob, by decide, hkeys, hname, hrun⟩, (htagged _ (by simp)).2 (.inl fun htakes => ?_)⟩
  rcases htaken.1 htakes with htakes | ⟨-, hkey, -⟩
  · exact hfree htakes
  · revert hkey
    decide +kernel

end Mention

end ChatNotify
