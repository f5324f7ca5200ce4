import ChatNotify.Proofs.Cache.Lawful

namespace ChatNotify.Cache

/-- The posts of every channel, the files of every post and the members of every channel. A post stays in the channel
that it was saved in, so a save never takes a post out of another channel. -/
structure Archive where
  posts : Id → Table Id Post := fun _ => ∅
  files : Id → List File := fun _ => []
  members : Id → Table Id Member := fun _ => ∅

namespace Archive

/-- Puts a value in the place of one identifier. -/
def set {α : Type} (values : Id → α) (id : Id) (value : α) : Id → α :=
  fun other => if other = id then value else values other

theorem set_of_ne {α : Type} (values : Id → α) {id other : Id} (hne : other ≠ id) (value : α) :
    set values id value other = values other :=
  if_neg hne

/-- The posts of a channel that have changed after an instant. -/
def changes (archive : Archive) (channel : Id) (since : Instant) : PostList :=
  let changed := (archive.posts channel).filter fun _ post => since < post.updateAt
  { order := changed.values.map Post.id, posts := changed }

/-- The archive as the stores behind a cache. It does not know the channels of teams. -/
def backing : Backing Archive where
  savePost post archive :=
    .ok (post, { archive with
      posts := set archive.posts post.channel ((archive.posts post.channel).insert post.id post) })
  lastPostTime channel archive :=
    .ok (({ posts := archive.posts channel } : PostList).latestUpdate?.getD .epoch)
  postsSince channel since archive := .ok (archive.changes channel since)
  page channel page size archive :=
    .ok (.ofList (((archive.posts channel).values.reverse.drop (page * size)).take size))
  saveFile file archive :=
    .ok (file, match file.post with
      | none => archive
      | some post => { archive with files := set archive.files post (archive.files post ++ [file]) })
  files post withDeleted archive :=
    .ok ((archive.files post).filter fun file => withDeleted || file.deletedAt.isNone)
  deleteFiles post archive :=
    .ok { archive with
      files := set archive.files post
        ((archive.files post).map fun file => { file with deletedAt := some .epoch }) }
  memberCount channel archive := .ok (archive.members channel).size
  members channel archive := .ok (archive.members channel).values
  membersOfUser _ _ _ := .error .notFound
  updateMember member archive :=
    .ok (member, { archive with
      members := set archive.members member.channel ((archive.members member.channel).insert member.user member) })

theorem changes_listsExactly (archive : Archive) (channel : Id) (since : Instant) :
    (archive.changes channel since).ListsExactly fun post =>
      post ∈ (archive.posts channel).values ∧ since < post.updateAt where
  values post := by
    simp only [changes, Table.values, Table.filter, List.mem_map, List.mem_filter, decide_eq_true_eq]
    constructor
    · rintro ⟨entry, ⟨hentry, hlt⟩, rfl⟩
      exact ⟨⟨entry, hentry, rfl⟩, hlt⟩
    · rintro ⟨⟨entry, hentry, rfl⟩, hlt⟩
      exact ⟨entry, ⟨hentry, hlt⟩, rfl⟩
  order id := by
    simp only [changes, Table.values, Table.filter, List.mem_map, List.mem_filter, decide_eq_true_eq]
    constructor
    · rintro ⟨post, ⟨entry, ⟨hentry, hlt⟩, rfl⟩, rfl⟩
      exact ⟨entry.2, ⟨⟨entry, hentry, rfl⟩, hlt⟩, rfl⟩
    · rintro ⟨post, ⟨⟨entry, hentry, rfl⟩, hlt⟩, rfl⟩
      exact ⟨entry.2, ⟨entry, ⟨hentry, hlt⟩, rfl⟩, rfl⟩

/-- An archive tells what is true of its posts, and a write changes only what belongs to its record. -/
theorem backing_lawful : backing.Lawful fun archive channel => (archive.posts channel).values where
  lastPostTime channel archive := by
    refine ⟨_, rfl, ?_⟩
    by_cases hempty : (archive.posts channel).values = []
    · rw [PostList.latestUpdate?_eq_none hempty]
      exact .inl ⟨hempty, rfl⟩
    · obtain ⟨time, hlatest, hnewest⟩ :=
        @PostList.exists_latestUpdate? { posts := archive.posts channel } hempty
      rw [hlatest]
      exact hnewest
  postsSince channel since archive := ⟨_, rfl, archive.changes_listsExactly channel since⟩
  savePost post archive saved after hsave := by
    cases hsave
    refine ⟨fun channel hother => ?_, fun _ _ => rfl, fun _ => rfl⟩
    have hsame := set_of_ne archive.posts hother ((archive.posts post.channel).insert post.id post)
    exact ⟨congrArg Table.values hsame, fun page size => by simp only [backing, hsame]⟩
  saveFile file archive saved after hsave := by
    simp only [backing] at hsave
    cases hpost : file.post with
    | none =>
      rw [hpost] at hsave
      cases hsave
      exact ⟨fun _ => ⟨rfl, fun _ _ => rfl⟩, fun _ _ _ => rfl, fun _ => rfl⟩
    | some post =>
      rw [hpost] at hsave
      cases hsave
      refine ⟨fun _ => ⟨rfl, fun _ _ => rfl⟩, fun other hother withDeleted => ?_, fun _ => rfl⟩
      have hne : other ≠ post := fun heq => hother (heq ▸ hpost)
      simp only [backing, set_of_ne _ hne]
  deleteFiles post archive after hdelete := by
    cases hdelete
    refine ⟨fun _ => ⟨rfl, fun _ _ => rfl⟩, fun other hother withDeleted => ?_, fun _ => rfl⟩
    simp only [backing, set_of_ne _ hother]
  updateMember member archive updated after hupdate := by
    cases hupdate
    refine ⟨fun _ => ⟨rfl, fun _ _ => rfl⟩, fun _ _ => rfl, fun channel hother => ?_⟩
    simp only [Backing.SameCount, backing, set_of_ne _ hother]

end Archive

end ChatNotify.Cache
