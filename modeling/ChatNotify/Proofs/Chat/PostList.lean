import ChatNotify.Chat.Post

namespace ChatNotify

/-- The time is that of the latest change to one of the posts, or the epoch if there are none. -/
def IsNewest (posts : List Post) (time : Instant) : Prop :=
  posts = [] ∧ time = .epoch ∨
    (∃ post ∈ posts, post.updateAt = time) ∧ ∀ post ∈ posts, post.updateAt ≤ time

namespace IsNewest

variable {posts : List Post} {time other : Instant}

theorem le (hnewest : IsNewest posts time) {post : Post} (hpost : post ∈ posts) : post.updateAt ≤ time := by
  rcases hnewest with ⟨rfl, -⟩ | ⟨-, hle⟩
  · cases hpost
  · exact hle post hpost

theorem unique (htime : IsNewest posts time) (hother : IsNewest posts other) : time = other := by
  rcases htime with ⟨rfl, rfl⟩ | ⟨⟨post, hpost, rfl⟩, hle⟩
  · rcases hother with ⟨-, rfl⟩ | ⟨⟨post, hpost, -⟩, -⟩
    · rfl
    · cases hpost
  · rcases hother with ⟨rfl, -⟩ | ⟨⟨last, hlast, rfl⟩, hbound⟩
    · cases hpost
    · exact Instant.le_antisymm (hbound post hpost) (hle last hlast)

end IsNewest

namespace PostList

/-- The list names the posts wanted, and no other. -/
structure ListsExactly (list : PostList) (wanted : Post → Prop) : Prop where
  values : ∀ post, post ∈ list.posts.values ↔ wanted post
  order : ∀ id, id ∈ list.order ↔ ∃ post, wanted post ∧ post.id = id

/-- If no post is wanted, there is only one such list. -/
theorem ListsExactly.eq_empty {list : PostList} {wanted : Post → Prop} (hlists : list.ListsExactly wanted)
    (hnone : ∀ post, ¬ wanted post) : list = {} := by
  obtain ⟨order, entries, hnodup⟩ := list
  have horder : order = [] := by
    refine List.eq_nil_iff_forall_not_mem.2 fun id hid => ?_
    obtain ⟨post, hwanted, -⟩ := (hlists.order id).1 hid
    exact hnone post hwanted
  have hentries : entries = [] := by
    refine List.eq_nil_iff_forall_not_mem.2 fun entry hentry => ?_
    exact hnone entry.2 ((hlists.values entry.2).1 (List.mem_map_of_mem hentry))
  subst horder hentries
  rfl

private theorem foldl_latest (posts : List Post) (first : Instant) :
    ∃ time, posts.foldl (fun latest post =>
        some ((latest.map fun latest => latest.latest post.updateAt).getD post.updateAt)) (some first) = some time ∧
      (time = first ∨ ∃ post ∈ posts, post.updateAt = time) ∧ first ≤ time ∧
      ∀ post ∈ posts, post.updateAt ≤ time := by
  induction posts generalizing first with
  | nil => exact ⟨first, rfl, .inl rfl, Instant.le_refl first, nofun⟩
  | cons post rest ih =>
    obtain ⟨time, hfold, htime, hfirst, hrest⟩ := ih (first.latest post.updateAt)
    refine ⟨time, hfold, ?_, Instant.le_trans (Instant.le_latest_left ..) hfirst,
      List.forall_mem_cons.2 ⟨Instant.le_trans (Instant.le_latest_right ..) hfirst, hrest⟩⟩
    rcases htime with rfl | ⟨last, hlast, htime⟩
    · rcases Instant.latest_eq_or_eq first post.updateAt with heq | heq
      · exact .inl heq
      · exact .inr ⟨post, List.mem_cons_self, heq.symm⟩
    · exact .inr ⟨last, List.mem_cons_of_mem _ hlast, htime⟩

theorem latestUpdate?_eq_none {list : PostList} (hempty : list.posts.values = []) : list.latestUpdate? = none := by
  unfold latestUpdate?
  rw [hempty]
  rfl

/-- The latest update that a list tells of is that of one of its posts, and no post has a later one. -/
theorem exists_latestUpdate? {list : PostList} (hposts : list.posts.values ≠ []) :
    ∃ time, list.latestUpdate? = some time ∧ IsNewest list.posts.values time := by
  unfold latestUpdate?
  cases hvalues : list.posts.values with
  | nil => exact absurd hvalues hposts
  | cons first rest =>
    obtain ⟨time, hfold, htime, hfirst, hrest⟩ := foldl_latest rest first.updateAt
    refine ⟨time, hfold, .inr ⟨?_, List.forall_mem_cons.2 ⟨hfirst, hrest⟩⟩⟩
    rcases htime with rfl | ⟨last, hlast, htime⟩
    · exact ⟨first, List.mem_cons_self, rfl⟩
    · exact ⟨last, List.mem_cons_of_mem _ hlast, htime⟩

end PostList

end ChatNotify
