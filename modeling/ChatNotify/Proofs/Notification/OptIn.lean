import ChatNotify.Proofs.Mention.Index
import ChatNotify.Proofs.Notification.Delivery
import ChatNotify.Proofs.Notification.Refusal

namespace ChatNotify

namespace User

/-- The keyword is the name of the user behind an at sign, a word that the user has chosen, or the first name
where that counts. -/
def OwnsKeyword (user : User) (keyword : String) : Prop :=
  "@" ++ Text.lowercase user.username = keyword ∨ keyword ∈ user.preferences.mentionKeys ∨
    user.preferences.firstName = true ∧ user.firstName ≠ "" ∧ user.firstName = keyword

/-- The user wants to be addressed with the whole channel, both in general and in the channel. -/
def WantsChannelMentions (user : User) (preferences : Option ChannelPreferences) : Prop :=
  user.preferences.channelMentions = true ∧ preferences.any (·.ignoreChannelMentions = .on) = false

/-- The user wants to be addressed with the whole channel, and is online if the word is for those who are here. -/
def OptsIn (user : User) (preferences : Option ChannelPreferences) (presence : Option Presence)
    (word : String) : Prop :=
  user.WantsChannelMentions preferences ∧ (word = Reserved.here → presence = some .online)

instance (user : User) (keyword : String) : Decidable (user.OwnsKeyword keyword) :=
  inferInstanceAs (Decidable (_ ∨ _ ∨ _ ∧ _ ∧ _))

instance (user : User) (preferences : Option ChannelPreferences) : Decidable (user.WantsChannelMentions preferences) :=
  inferInstanceAs (Decidable (_ ∧ _))

instance (user : User) (preferences : Option ChannelPreferences) (presence : Option Presence) (word : String) :
    Decidable (user.OptsIn preferences presence word) :=
  inferInstanceAs (Decidable (_ ∧ (_ → _)))

/-- How often a user contributes a keyword: once with the name, as often as it is chosen, once with the first name
where that counts, and once if it is a word for the whole channel by which the user wants to be addressed. -/
def contributions (user : User) (preferences : Option ChannelPreferences) (presence : Option Presence)
    (allowed : Bool) (keyword : String) : Nat :=
  (if "@" ++ Text.lowercase user.username = keyword then 1 else 0)
    + user.preferences.mentionKeys.count keyword
    + (if user.preferences.firstName = true ∧ user.firstName ≠ "" ∧ user.firstName = keyword then 1 else 0)
    + (if allowed = true ∧ user.WantsChannelMentions preferences ∧
          (keyword = Reserved.channel ∨ keyword = Reserved.all ∨
            keyword = Reserved.here ∧ presence = some .online) then 1 else 0)

end User

namespace KeywordIndex

/-- Under the word, the index has those who want to be addressed by it, each once and in the order of their
identifiers, if mentions of the whole channel count, and has no such word if they do not. -/
structure HoldsOptIns (index : KeywordIndex) (profiles : Table Id User) (allowed : Bool)
    (preferences : Table Id ChannelPreferences) (presence : Table Id Presence) (word : String) : Prop where
  get?_of_refused : allowed = false → index.get? word = none
  pairwise : allowed = true → ((index.get? word).getD []).Pairwise (· < ·)
  mem_iff : allowed = true → ∀ id, id ∈ (index.get? word).getD [] ↔
    ∃ user, profiles.get? id = some user ∧ user.OptsIn (preferences.get? id) (presence.get? id) word

/-- The users with whom a keyword is listed, as often and in the same order. -/
def listedWith (pairs : List (String × Id)) (keyword : String) : List Id :=
  pairs.filterMap fun pair => if pair.1 = keyword then some pair.2 else none

/-- The index has the keywords that are listed, and for each of them the users with whom it is. -/
theorem get?_ofList (pairs : List (String × Id)) (keyword : String) :
    (ofList pairs).get? keyword =
      if listedWith pairs keyword = [] then none else some (listedWith pairs keyword) := by
  -- The induction is on the pairs still to come, for any index of those before.
  suffices h : ∀ index : KeywordIndex,
      (pairs.foldl (fun index pair => index.add pair.1 pair.2) index).get? keyword =
        if listedWith pairs keyword = [] then index.get? keyword
        else some ((index.get? keyword).getD [] ++ listedWith pairs keyword) from h {}
  induction pairs with
  | nil => exact fun _ => rfl
  | cons pair rest ih =>
    intro index
    rw [List.foldl_cons, ih, get?_add]
    by_cases hpair : pair.1 = keyword
    · subst hpair
      have hlisted : listedWith (pair :: rest) pair.1 = pair.2 :: listedWith rest pair.1 := by
        simp [listedWith]
      rw [hlisted, if_pos rfl, Option.getD_some, List.append_assoc]
      by_cases hrest : listedWith rest pair.1 = []
      · simp [hrest]
      · simp [hrest]
    · have hlisted : listedWith (pair :: rest) keyword = listedWith rest keyword := by
        simp [listedWith, hpair]
      rw [hlisted, if_neg hpair]

theorem getD_get?_ofList (pairs : List (String × Id)) (keyword : String) :
    ((ofList pairs).get? keyword).getD [] = listedWith pairs keyword := by
  rw [get?_ofList]
  split
  · next hnone => exact hnone.symm
  · rfl

theorem listedWith_map (keywords : List String) (user : Id) (keyword : String) :
    listedWith (keywords.map (·, user)) keyword = List.replicate (keywords.count keyword) user := by
  induction keywords with
  | nil => rfl
  | cons first rest ih =>
    rw [List.count_cons, List.map_cons]
    by_cases hfirst : first = keyword
    · simpa [listedWith, hfirst, List.replicate_succ] using ih
    · simpa [listedWith, hfirst] using ih

section

variable {profiles : Table Id User} {allowed : Bool} {preferences : Table Id ChannelPreferences}
  {presence : Table Id Presence}

/-- The index has each member under a keyword as often as the keyword belongs to the member. -/
theorem getD_get?_build (keyword : String) :
    ((build profiles allowed preferences presence).get? keyword).getD [] =
      (inOrder profiles).flatMap fun user => List.replicate
        ((ofMember user (preferences.get? user.id) (presence.get? user.id) allowed).count keyword) user.id := by
  rw [build, getD_get?_ofList, listedWith, List.filterMap_flatMap]
  exact congrArg (List.flatMap · (inOrder profiles)) (funext fun user => listedWith_map _ user.id keyword)

theorem get?_build_eq_none_iff (keyword : String) :
    (build profiles allowed preferences presence).get? keyword = none ↔
      ((build profiles allowed preferences presence).get? keyword).getD [] = [] := by
  rw [build, getD_get?_ofList, get?_ofList]
  split
  · next hnone => simp [hnone]
  · next hsome => simp [hsome]

/-- No two members have one identifier if each is listed under the own one. -/
theorem pairwise_inOrder (hkeyed : ∀ id user, profiles.get? id = some user → user.id = id) :
    (inOrder profiles).Pairwise fun a b => a.id < b.id := by
  have hkeys : profiles.values.map User.id = profiles.keys := by
    rw [Table.values, Table.keys, List.map_map]
    refine List.map_congr_left fun entry hentry => ?_
    exact hkeyed entry.1 entry.2 (Table.get?_eq_some_iff.2 hentry)
  have hnodup : (inOrder profiles).Pairwise fun a b => a.id ≠ b.id := by
    refine ((List.mergeSort_perm _ _).pairwise_iff fun h => Ne.symm h).2 ?_
    exact List.pairwise_map.1 (hkeys ▸ profiles.nodup_keys)
  have hsorted : (inOrder profiles).Pairwise fun a b => a.id ≤ b.id := by
    simpa [inOrder] using @List.pairwise_mergeSort _ (fun a b : User => decide (a.id ≤ b.id))
      (fun a b c => by simpa using Id.le_trans) (fun a b => by simpa using Id.le_total a.id b.id) _
  exact (hsorted.and hnodup).imp fun h => Id.lt_of_le_of_ne h.1 h.2

theorem mem_inOrder_iff (hkeyed : ∀ id user, profiles.get? id = some user → user.id = id) {user : User} :
    user ∈ inOrder profiles ↔ profiles.get? user.id = some user := by
  rw [inOrder, List.mem_mergeSort, Table.values, List.mem_map]
  constructor
  · rintro ⟨⟨id, member⟩, hentry, rfl⟩
    have hmember := Table.get?_eq_some_iff.2 hentry
    rwa [hkeyed id member hmember]
  · exact fun huser => ⟨_, Table.get?_eq_some_iff.1 huser, rfl⟩

/-- The members under a keyword stand there once and in the order of their identifiers if it belongs to none
of them more than once. -/
theorem pairwise_getD_get?_build_iff (hkeyed : ∀ id user, profiles.get? id = some user → user.id = id)
    (keyword : String) :
    (((build profiles allowed preferences presence).get? keyword).getD []).Pairwise (· < ·) ↔
      ∀ id user, profiles.get? id = some user →
        (ofMember user (preferences.get? id) (presence.get? id) allowed).count keyword ≤ 1 := by
  have hirrefl (user : User) : ¬ user.id < user.id := Nat.lt_irrefl _
  rw [getD_get?_build, List.pairwise_flatMap]
  constructor
  · rintro ⟨hreplicate, -⟩ id user huser
    obtain rfl := hkeyed id user huser
    have honce := hreplicate user ((mem_inOrder_iff hkeyed).2 huser)
    rw [List.pairwise_replicate] at honce
    exact honce.resolve_right (hirrefl user)
  · refine fun honce => ⟨fun user huser => ?_, (pairwise_inOrder hkeyed).imp ?_⟩
    · rw [List.pairwise_replicate]
      exact .inl (honce user.id user ((mem_inOrder_iff hkeyed).1 huser))
    · intro a b hlt x hx y hy
      rwa [List.eq_of_mem_replicate hx, List.eq_of_mem_replicate hy]

/-- The index has under a keyword the members that it belongs to. -/
theorem mem_build_iff_of_keyed (hkeyed : ∀ id user, profiles.get? id = some user → user.id = id)
    {keyword : String} {id : Id} :
    id ∈ ((build profiles allowed preferences presence).get? keyword).getD [] ↔
      ∃ user, profiles.get? id = some user ∧
        keyword ∈ ofMember user (preferences.get? id) (presence.get? id) allowed := by
  rw [mem_build_iff]
  constructor
  · rintro ⟨user, huser, rfl, hkeyword⟩
    exact ⟨user, (mem_inOrder_iff hkeyed).1 (List.mem_mergeSort.2 huser), hkeyword⟩
  · rintro ⟨user, huser, hkeyword⟩
    obtain rfl := hkeyed id user huser
    exact ⟨user, List.mem_mergeSort.1 ((mem_inOrder_iff hkeyed).2 huser), rfl, hkeyword⟩

end

section

variable {user : User} {preferences : Option ChannelPreferences} {presence : Option Presence} {allowed : Bool}
  {word : String}

theorem count_buckets (presence : Option Presence) (keyword : String) :
    ([Reserved.channel, Reserved.all] ++ (if presence = some .online then [Reserved.here] else [])).count keyword =
      if keyword = Reserved.channel ∨ keyword = Reserved.all ∨ keyword = Reserved.here ∧ presence = some .online
        then 1 else 0 := by
  by_cases hword : isBucket keyword = true
  · simp only [isBucket, Bool.or_eq_true, decide_eq_true_eq] at hword
    by_cases honline : presence = some .online <;> rcases hword with (rfl | rfl) | rfl <;> simp [honline] <;> decide
  · simp only [isBucket, Bool.or_eq_true, decide_eq_true_eq, not_or] at hword
    obtain ⟨⟨hchannel, hall⟩, hhere⟩ := hword
    have hother : ¬ (keyword = Reserved.channel ∨ keyword = Reserved.all ∨
        keyword = Reserved.here ∧ presence = some .online) := by simp [hchannel, hall, hhere]
    rw [if_neg hother, List.count_eq_zero]
    split <;> simp [hchannel, hall, hhere]

/-- The keywords of a member are those that the member contributes. -/
theorem count_ofMember_eq (keyword : String) :
    (ofMember user preferences presence allowed).count keyword =
      user.contributions preferences presence allowed keyword := by
  have hname : ["@" ++ Text.lowercase user.username].count keyword =
      if "@" ++ Text.lowercase user.username = keyword then 1 else 0 := by
    rw [List.count_singleton]
    simp
  have hfirst : (if user.preferences.firstName && user.firstName ≠ "" then [user.firstName] else []).count keyword =
      if user.preferences.firstName = true ∧ user.firstName ≠ "" ∧ user.firstName = keyword then 1 else 0 := by
    by_cases hcounts : user.preferences.firstName = true ∧ user.firstName ≠ ""
    · simp [hcounts, List.count_singleton]
    · rw [if_neg (by simpa using hcounts), if_neg fun h => hcounts ⟨h.1, h.2.1⟩]
      rfl
  rw [ofMember, List.count_append, List.count_append, List.count_append, hname, hfirst, User.contributions]
  congr 1
  by_cases hwants : allowed = true ∧ user.WantsChannelMentions preferences
  · rw [if_pos (by simpa [User.WantsChannelMentions, and_assoc] using hwants), count_buckets]
    simp only [hwants, true_and]
  · rw [if_neg (by simpa [User.WantsChannelMentions, and_assoc] using hwants),
      if_neg fun h => hwants ⟨h.1, h.2.1⟩]
    rfl

/-- Where mentions of the whole channel do not count, a member has the keywords that the member owns. -/
theorem mem_ofMember_refused_iff :
    word ∈ ofMember user preferences presence false ↔ user.OwnsKeyword word := by
  have hpos (p : Prop) [Decidable p] : (0 < if p then 1 else 0) ↔ p := by by_cases h : p <;> simp [h]
  rw [← List.count_pos_iff, count_ofMember_eq, User.contributions, User.OwnsKeyword]
  simp only [Bool.false_eq_true, false_and, if_false, Nat.add_zero, Nat.add_pos_iff_pos_or_pos, hpos,
    List.count_pos_iff, or_assoc]

/-- Where they count, a word for the whole channel belongs once more to a member who wants to be addressed by
it. -/
theorem count_ofMember (hword : isBucket word = true) :
    (ofMember user preferences presence allowed).count word =
      (ofMember user preferences presence false).count word +
        if allowed = true ∧ user.OptsIn preferences presence word then 1 else 0 := by
  have haddressed : (word = Reserved.channel ∨ word = Reserved.all ∨ word = Reserved.here ∧ presence = some .online) ↔
      (word = Reserved.here → presence = some .online) := by
    simp only [isBucket, Bool.or_eq_true, decide_eq_true_eq] at hword
    by_cases honline : presence = some .online <;> rcases hword with (rfl | rfl) | rfl <;> simp [honline] <;> decide
  have hopts : (user.WantsChannelMentions preferences ∧
      (word = Reserved.channel ∨ word = Reserved.all ∨ word = Reserved.here ∧ presence = some .online)) ↔
      user.OptsIn preferences presence word := and_congr_right fun _ => haddressed
  rw [count_ofMember_eq, count_ofMember_eq, User.contributions, User.contributions]
  simp only [hopts, Bool.false_eq_true, false_and, if_false, Nat.add_zero]

/-- A word for the whole channel belongs to those who own it, and to those who want to be addressed by it. -/
theorem mem_ofMember_iff (hword : isBucket word = true) :
    word ∈ ofMember user preferences presence allowed ↔
      user.OwnsKeyword word ∨ allowed = true ∧ user.OptsIn preferences presence word := by
  have howned : word ∈ ofMember user preferences presence false ↔ user.OwnsKeyword word := mem_ofMember_refused_iff
  rw [← howned, ← List.count_pos_iff, ← List.count_pos_iff, count_ofMember hword]
  split
  · next hopts => simp [hopts]
  · next hopts => simp [hopts]

end

/-- Under a word for the whole channel the index has just those who want to be addressed by it, unless the word
is a keyword of some member too. -/
theorem holdsOptIns_build_iff {profiles : Table Id User}
    (hkeyed : ∀ id user, profiles.get? id = some user → user.id = id) (allowed : Bool)
    (preferences : Table Id ChannelPreferences) (presence : Table Id Presence) {word : String}
    (hword : isBucket word = true) :
    (build profiles allowed preferences presence).HoldsOptIns profiles allowed preferences presence word ↔
      ∀ id user, profiles.get? id = some user → ¬ user.OwnsKeyword word := by
  constructor
  · intro hholds id user huser howns
    have hmem : id ∈ ((build profiles allowed preferences presence).get? word).getD [] :=
      (mem_build_iff_of_keyed hkeyed).2 ⟨user, huser, (mem_ofMember_iff hword).2 (.inl howns)⟩
    cases allowed with
    | false =>
      rw [hholds.get?_of_refused rfl] at hmem
      cases hmem
    | true =>
      obtain ⟨same, hsame, hopts⟩ := (hholds.mem_iff rfl id).1 hmem
      obtain rfl : user = same := Option.some.inj (huser.symm.trans hsame)
      -- The word belongs to the member as an own one, and once more for the whole channel.
      have honce := (pairwise_getD_get?_build_iff hkeyed word).1 (hholds.pairwise rfl) id user huser
      have hown : 0 < (ofMember user (preferences.get? id) (presence.get? id) false).count word :=
        List.count_pos_iff.2 (mem_ofMember_refused_iff.2 howns)
      rw [count_ofMember hword, if_pos ⟨rfl, hopts⟩] at honce
      omega
  · intro hunowned
    refine ⟨?_, ?_, ?_⟩
    · rintro rfl
      rw [get?_build_eq_none_iff, List.eq_nil_iff_forall_not_mem]
      intro id hmem
      obtain ⟨user, huser, hkeyword⟩ := (mem_build_iff_of_keyed hkeyed).1 hmem
      exact hunowned id user huser (mem_ofMember_refused_iff.1 hkeyword)
    · rintro rfl
      rw [pairwise_getD_get?_build_iff hkeyed]
      intro id user huser
      have hnone : (ofMember user (preferences.get? id) (presence.get? id) false).count word = 0 :=
        List.count_eq_zero.2 (mt mem_ofMember_refused_iff.1 (hunowned id user huser))
      rw [count_ofMember hword, hnone]
      split <;> simp
    · rintro rfl id
      rw [mem_build_iff_of_keyed hkeyed]
      refine exists_congr fun user => and_congr_right fun huser => ?_
      rw [mem_ofMember_iff hword, or_iff_right (hunowned id user huser), and_iff_right rfl]

end KeywordIndex

/-- The preferences of the members for the channel. -/
def memberPreferences (members : List Member) : Table Id ChannelPreferences :=
  Table.ofList (members.map fun member => (member.user, member.preferences))

open Mention

/-- Those who are notified as addressed with the whole channel are in the index under a word for it. -/
theorem exists_bucket_of_channel_recipient {snapshot : Snapshot} {post : Post} {thread : Option Thread}
    {keywords : KeywordIndex} {allowed : Bool} {recipient : Recipient}
    (hrecipient : recipient ∈ recipientsOf snapshot post
      (settledMentions snapshot post thread keywords allowed (inPost keywords post)))
    (hchannel : recipient.kind = .channel) :
    ∃ word, KeywordIndex.isBucket word = true ∧ recipient.user ∈ (keywords.get? word).getD [] := by
  obtain ⟨-, -, hconcerns⟩ := concerns_of_mem_recipientsOf hrecipient
  rw [hchannel] at hconcerns
  cases hconcerns with
  | addressed haddressed => exact ⟨Reserved.here, by decide, haddressed.2.2⟩
  | named hkind =>
    obtain ⟨finding, hfinding, haddresses⟩ := exists_addresses_of_kind?_account hkind
    rcases isInBucket_of_flatMap_fieldFindings hfinding haddresses with hword | hword
    · exact ⟨Reserved.channel, by decide, hword⟩
    · exact ⟨Reserved.all, by decide, hword⟩

/-- A plan is made from the members and the profiles that the notifier has for the channel. -/
theorem exists_planFor_of_value_run_plan {notifier : Notifier} {post : Post} {channel : Channel}
    {thread : Option Thread} {profiles : Table Id User} {members : List Member} {plan : Plan}
    (hprofiles : notifier.profiles channel.id = .ok profiles) (hmembers : notifier.members channel.id = .ok members)
    (hplan : (notifier.plan post channel thread).run.value = .ok plan) :
    ∃ memberCount permitted,
      plan = notifier.planFor post thread (notifier.snapshotOf channel memberCount profiles members) permitted := by
  have hright : post.channel = channel.id := by
    refine Classical.byContradiction fun hwrong => ?_
    rw [Notifier.plan_of_misplaced notifier post channel thread hwrong] at hplan
    cases hplan
  rw [notifier.value_run_plan post channel thread hright, notifier.value_run_snapshot, hprofiles, hmembers] at hplan
  cases hcount : notifier.memberCount channel.id with
  | error error =>
    rw [hcount] at hplan
    cases hplan
  | ok memberCount =>
    cases hpermitted : notifier.mayMentionChannel post.user channel.id with
    | error error =>
      rw [hcount, hpermitted] at hplan
      cases hplan
    | ok permitted =>
      rw [hcount, hpermitted] at hplan
      exact ⟨memberCount, permitted, (Except.ok.inj hplan).symm⟩

/-- A member who is notified as addressed with the whole channel wants to be, or owns a word for it. -/
theorem wantsChannelMentions_of_channel_recipient {profiles : Table Id User}
    (hkeyed : ∀ id user, profiles.get? id = some user → user.id = id) {notifier : Notifier} {post : Post}
    {channel : Channel} {thread : Option Thread} {members : List Member} {plan : Plan}
    (hprofiles : notifier.profiles channel.id = .ok profiles) (hmembers : notifier.members channel.id = .ok members)
    (hplan : (notifier.plan post channel thread).run.value = .ok plan) {recipient : Recipient}
    (hrecipient : recipient ∈ plan.recipients) (hchannel : recipient.kind = .channel) {user : User}
    (huser : profiles.get? recipient.user = some user) :
    user.WantsChannelMentions ((memberPreferences members).get? recipient.user) ∨
    ∃ word, KeywordIndex.isBucket word = true ∧ user.OwnsKeyword word := by
  obtain ⟨memberCount, permitted, rfl⟩ := exists_planFor_of_value_run_plan hprofiles hmembers hplan
  obtain ⟨word, hword, hmem⟩ := exists_bucket_of_channel_recipient hrecipient hchannel
  obtain ⟨same, hsame, hkeyword⟩ := (KeywordIndex.mem_build_iff_of_keyed hkeyed).1 hmem
  obtain rfl : user = same := Option.some.inj (huser.symm.trans hsame)
  rcases (KeywordIndex.mem_ofMember_iff hword).1 hkeyword with howns | ⟨-, hopts⟩
  · exact .inr ⟨word, hword, howns⟩
  · exact .inl hopts.1

/-- Let the members of a channel be listed under their own identifiers. Then for each of the words `@channel`,
`@all` and `@here`, whether mentions of the whole channel count or not, the index has under the word just
the members who want to be addressed by it, once each and in order, exactly if the word is not a keyword of
some member too: the name behind an at sign, a chosen keyword or the first name. And in no plan for a post
is a member told of a mention of the whole channel who does not want that, in general or in the channel, and
none of whose keywords is such a word. -/
theorem buckets_hold_opt_ins_iff_unowned (profiles : Table Id User)
    (hkeyed : ∀ id user, profiles.get? id = some user → user.id = id) :
    (∀ (allowed : Bool) (preferences : Table Id ChannelPreferences) (presence : Table Id Presence) (word : String),
      KeywordIndex.isBucket word = true →
      ((KeywordIndex.build profiles allowed preferences presence).HoldsOptIns profiles allowed preferences
          presence word ↔
        ∀ id user, profiles.get? id = some user → ¬ user.OwnsKeyword word)) ∧
    ∀ (notifier : Notifier) (post : Post) (channel : Channel) (thread : Option Thread) (members : List Member)
      (plan : Plan), notifier.profiles channel.id = .ok profiles → notifier.members channel.id = .ok members →
      (notifier.plan post channel thread).run.value = .ok plan →
      ∀ id user, profiles.get? id = some user →
        ¬ user.WantsChannelMentions ((memberPreferences members).get? id) →
        (∀ word, KeywordIndex.isBucket word = true → ¬ user.OwnsKeyword word) →
        ∀ recipient ∈ plan.recipients, recipient.user = id → recipient.kind ≠ .channel := by
  refine ⟨fun allowed preferences presence word hword =>
    KeywordIndex.holdsOptIns_build_iff hkeyed allowed preferences presence hword, ?_⟩
  rintro notifier post channel thread members plan hprofiles hmembers hplan id user huser hrefuses hunowned
    recipient hrecipient rfl hchannel
  rcases wantsChannelMentions_of_channel_recipient hkeyed hprofiles hmembers hplan hrecipient hchannel huser with
    hwants | ⟨word, hword, howns⟩
  · exact hrefuses hwants
  · exact hunowned word hword howns

/-- A member with `@channel` among the chosen keywords has the word for herself even where mentions of the whole
channel do not count; `@all` has just those who want to be addressed, and another member who does not is not
told of any such mention. -/
theorem chosen_keyword_fills_bucket :
    let quiet : User := { id := ⟨2⟩, username := "quiet", preferences := { channelMentions := false } }
    let loud : User := { id := ⟨3⟩, username := "loud", preferences := { mentionKeys := ["@channel"] } }
    let profiles : Table Id User := ((∅ : Table Id User).insert ⟨2⟩ quiet).insert ⟨3⟩ loud
    let notifier : Notifier :=
      { directory := { resolve := fun _ => .ok ∅, groupMembers := fun _ => .ok [] }
        memberCount := fun _ => .ok 2
        profiles := fun _ => .ok profiles
        members := fun _ => .ok []
        presence := fun _ => .ok .online
        mayMentionChannel := fun _ _ => .ok true }
    let post : Post := { id := ⟨5⟩, channel := ⟨9⟩, user := ⟨1⟩, message := "@all" }
    (∀ id user, profiles.get? id = some user → user.id = id) ∧
    ¬ (KeywordIndex.build profiles false ∅ ∅).HoldsOptIns profiles false ∅ ∅ Reserved.channel ∧
    (KeywordIndex.build profiles true ∅ ∅).HoldsOptIns profiles true ∅ ∅ Reserved.all ∧
    ∃ plan, (notifier.plan post { id := ⟨9⟩ } none).run.value = .ok plan ∧
      ∀ recipient ∈ plan.recipients, recipient.user = ⟨2⟩ → recipient.kind ≠ .channel := by
  intro quiet loud profiles notifier post
  have hkeyed : ∀ id user, profiles.get? id = some user → user.id = id := by
    have hentries : ∀ entry ∈ profiles.entries, entry.2.id = entry.1 := by decide
    exact fun id user huser => hentries (id, user) (Table.get?_eq_some_iff.1 huser)
  have hunowned : ∀ id user, profiles.get? id = some user → ¬ user.OwnsKeyword Reserved.all := by
    have hentries : ∀ entry ∈ profiles.entries, ¬ entry.2.OwnsKeyword Reserved.all := by decide
    exact fun id user huser => hentries (id, user) (Table.get?_eq_some_iff.1 huser)
  have hquiet : ∀ word, KeywordIndex.isBucket word = true → ¬ quiet.OwnsKeyword word := by
    intro word hword
    simp only [KeywordIndex.isBucket, Bool.or_eq_true, decide_eq_true_eq] at hword
    rcases hword with (rfl | rfl) | rfl <;> decide
  obtain ⟨hbuckets, hplans⟩ := buckets_hold_opt_ins_iff_unowned profiles hkeyed
  obtain ⟨plan, hplan⟩ : ∃ plan, (notifier.plan post { id := ⟨9⟩ } none).run.value = .ok plan := by
    rw [notifier.value_run_plan _ _ _ rfl, notifier.value_run_snapshot]
    exact ⟨_, rfl⟩
  refine ⟨hkeyed, fun hholds => ?_, ?_, plan, hplan, ?_⟩
  · have hloud : profiles.get? ⟨3⟩ = some loud := by rfl
    exact (hbuckets false ∅ ∅ Reserved.channel (by decide)).1 hholds ⟨3⟩ loud hloud (by decide)
  · exact (hbuckets true ∅ ∅ Reserved.all (by decide)).2 hunowned
  · exact hplans notifier post { id := ⟨9⟩ } none [] plan rfl rfl hplan ⟨2⟩ quiet rfl (by decide) hquiet

end ChatNotify
