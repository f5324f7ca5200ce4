import ChatNotify.Mention.Keyword

namespace ChatNotify

namespace KeywordIndex

theorem get?_add (index : KeywordIndex) (keyword other : String) (user : Id) :
    (index.add keyword user).get? other =
      if keyword = other then some ((index.get? keyword).getD [] ++ [user]) else index.get? other :=
  index.table.get?_insert keyword other _

theorem mem_getD_iff {index : KeywordIndex} {keyword : String} {user : Id} :
    user ∈ (index.get? keyword).getD [] ↔ ∃ users, index.get? keyword = some users ∧ user ∈ users := by
  cases index.get? keyword <;> simp

theorem mem_add_iff {index : KeywordIndex} {keyword other : String} {user id : Id} :
    id ∈ ((index.add keyword user).get? other).getD [] ↔
      id ∈ (index.get? other).getD [] ∨ other = keyword ∧ id = user := by
  rw [get?_add]
  by_cases hsame : keyword = other
  · subst hsame
    simp
  · have hother : other ≠ keyword := fun h => hsame h.symm
    simp [hsame, hother]

/-- A keyword has those users with whom it was listed. -/
theorem mem_ofList_iff {pairs : List (String × Id)} {keyword : String} {user : Id} :
    user ∈ ((ofList pairs).get? keyword).getD [] ↔ (keyword, user) ∈ pairs := by
  -- The induction is on the pairs still to come, for any index of those before.
  suffices h : ∀ index : KeywordIndex,
      user ∈ ((pairs.foldl (fun index pair => index.add pair.1 pair.2) index).get? keyword).getD [] ↔
        user ∈ (index.get? keyword).getD [] ∨ (keyword, user) ∈ pairs by
    simpa [ofList, get?] using h {}
  induction pairs with
  | nil => simp
  | cons pair rest ih =>
    intro index
    rw [List.foldl_cons, ih, mem_add_iff, List.mem_cons, Prod.ext_iff, or_assoc]

section

variable {profiles : Table Id User} {allowed : Bool} {preferences : Table Id ChannelPreferences}
  {presence : Table Id Presence}

/-- A keyword belongs to a member if it is one of those that belong to the member. -/
theorem mem_build_iff {keyword : String} {id : Id} :
    id ∈ ((build profiles allowed preferences presence).get? keyword).getD [] ↔
      ∃ user ∈ profiles.values, user.id = id ∧
        keyword ∈ ofMember user (preferences.get? user.id) (presence.get? user.id) allowed := by
  simp only [build, mem_ofList_iff, List.mem_flatMap, List.mem_map, Prod.mk.injEq, inOrder, List.mem_mergeSort]
  constructor
  · rintro ⟨user, huser, keyword, hkeyword, rfl, rfl⟩
    exact ⟨user, huser, rfl, hkeyword⟩
  · rintro ⟨user, huser, rfl, hkeyword⟩
    exact ⟨user, huser, keyword, hkeyword, rfl, rfl⟩

theorem mem_build_username {user : User} (huser : user ∈ profiles.values) :
    user.id ∈ ((build profiles allowed preferences presence).get? ("@" ++ Text.lowercase user.username)).getD [] :=
  mem_build_iff.2 ⟨user, huser, rfl, by simp [ofMember]⟩

theorem mem_build_key {user : User} (huser : user ∈ profiles.values) {key : String}
    (hkey : key ∈ user.preferences.mentionKeys) :
    user.id ∈ ((build profiles allowed preferences presence).get? key).getD [] :=
  mem_build_iff.2 ⟨user, huser, rfl, by simp [ofMember, hkey]⟩

theorem mem_build_firstName {user : User} (huser : user ∈ profiles.values)
    (hwants : user.preferences.firstName = true) (hne : user.firstName ≠ "") :
    user.id ∈ ((build profiles allowed preferences presence).get? user.firstName).getD [] :=
  mem_build_iff.2 ⟨user, huser, rfl, by simp [ofMember, hwants, hne]⟩

end

/-- Holds of the keywords under which the index has those whom a word for the whole channel stands for. -/
def isBucket (keyword : String) : Bool :=
  keyword = Reserved.channel || keyword = Reserved.all || keyword = Reserved.here

/-- The index without the words for the whole channel. -/
def withoutBuckets (index : KeywordIndex) : KeywordIndex :=
  ⟨index.table.filter fun keyword _ => !isBucket keyword⟩

theorem get?_withoutBuckets (index : KeywordIndex) {keyword : String} (hkeyword : isBucket keyword = false) :
    index.withoutBuckets.get? keyword = index.get? keyword := by
  simp only [withoutBuckets, get?, Table.get?_filter, hkeyword]
  cases index.table.get? keyword <;> rfl

theorem get?_withoutBuckets_of_isBucket (index : KeywordIndex) {keyword : String}
    (hkeyword : isBucket keyword = true) : index.withoutBuckets.get? keyword = none := by
  simp [withoutBuckets, get?, Table.get?_filter, hkeyword]

theorem withoutBuckets_add (index : KeywordIndex) (keyword : String) (user : Id) :
    (index.add keyword user).withoutBuckets =
      if isBucket keyword then index.withoutBuckets else index.withoutBuckets.add keyword user := by
  have hfilter := index.table.filter_insert (fun keyword => !isBucket keyword) keyword
    ((index.get? keyword).getD [] ++ [user])
  cases hkeyword : isBucket keyword with
  | true => simpa [withoutBuckets, add, get?, hkeyword] using hfilter
  | false =>
    have hget := index.get?_withoutBuckets hkeyword
    simp only [withoutBuckets, get?] at hget
    simpa [withoutBuckets, add, get?, hkeyword, hget] using hfilter

theorem withoutBuckets_ofList (pairs : List (String × Id)) :
    (ofList pairs).withoutBuckets = ofList (pairs.filter fun pair => !isBucket pair.1) := by
  suffices h : ∀ index : KeywordIndex,
      (pairs.foldl (fun index pair => index.add pair.1 pair.2) index).withoutBuckets =
        (pairs.filter fun pair => !isBucket pair.1).foldl (fun index pair => index.add pair.1 pair.2)
          index.withoutBuckets from h {}
  induction pairs with
  | nil => exact fun _ => rfl
  | cons pair rest ih =>
    intro index
    rw [List.foldl_cons, ih, withoutBuckets_add]
    cases hpair : isBucket pair.1 <;> simp [hpair]

/-- Where mentions of the whole channel count, a member has words for it besides the other keywords. -/
theorem exists_ofMember_eq (user : User) (preferences : Option ChannelPreferences) (presence : Option Presence)
    (allowed : Bool) :
    ∃ words, (∀ word ∈ words, isBucket word = true) ∧
      ofMember user preferences presence allowed = ofMember user preferences presence false ++ words := by
  have hwords : ∀ word ∈ [Reserved.channel, Reserved.all]
      ++ (if presence = some .online then [Reserved.here] else []), isBucket word = true := by
    split <;> decide
  simp only [ofMember, Bool.false_and, Bool.false_eq_true, if_false, List.append_nil]
  refine ⟨_, ?_, rfl⟩
  split
  · exact hwords
  · simp

/-- Whether mentions of the whole channel count, the index has the same users for all keywords but the
words for it, and in the same order. -/
theorem withoutBuckets_build (profiles : Table Id User) (allowed : Bool)
    (preferences : Table Id ChannelPreferences) (presence : Table Id Presence) :
    (build profiles allowed preferences presence).withoutBuckets =
      (build profiles false preferences presence).withoutBuckets := by
  have hmember (user : User) :
      (ofMember user (preferences.get? user.id) (presence.get? user.id) allowed).filter
          (fun keyword => !isBucket keyword) =
        (ofMember user (preferences.get? user.id) (presence.get? user.id) false).filter
          fun keyword => !isBucket keyword := by
    obtain ⟨words, hwords, heq⟩ :=
      exists_ofMember_eq user (preferences.get? user.id) (presence.get? user.id) allowed
    have hnone : words.filter (fun keyword => !isBucket keyword) = [] := by simpa using hwords
    rw [heq, List.filter_append, hnone, List.append_nil]
  simp only [build, withoutBuckets_ofList, List.filter_flatMap, List.filter_map, Function.comp_def, hmember]

/-- Who has a keyword although mentions of the whole channel do not count has it if they do. -/
theorem mem_build_of_refused {profiles : Table Id User} {preferences : Table Id ChannelPreferences}
    {presence : Table Id Presence} {keyword : String} {id : Id}
    (hmem : id ∈ ((build profiles false preferences presence).get? keyword).getD []) :
    id ∈ ((build profiles true preferences presence).get? keyword).getD [] := by
  obtain ⟨user, huser, hid, hkeyword⟩ := mem_build_iff.1 hmem
  obtain ⟨words, -, heq⟩ := exists_ofMember_eq user (preferences.get? user.id) (presence.get? user.id) true
  refine mem_build_iff.2 ⟨user, huser, hid, ?_⟩
  rw [heq]
  exact List.mem_append_left words hkeyword

end KeywordIndex

end ChatNotify
