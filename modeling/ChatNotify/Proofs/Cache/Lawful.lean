import ChatNotify.Cache.Layer
import ChatNotify.Proofs.Cache.Invalidation
import ChatNotify.Proofs.Chat.PostList

namespace ChatNotify.Cache

/-- The keys whose values are put on shelves: of the posts only the pages of certain sizes. -/
def Namespace.IsCacheable : (space : Namespace) → space.Key → Prop
  | .posts, key => key.2 ∈ pageSizes
  | _, _ => True

/-- What a request looks up whose reply can be cached. -/
inductive Request.LooksUp : Request → Lookup → Bool → Prop
  | lastPostTime (channel : Id) (fromCache : Bool) :
    LooksUp (.lastPostTime channel fromCache) ⟨.lastPostTime, channel⟩ fromCache
  | etag (channel : Id) (fromCache : Bool) : LooksUp (.etag channel fromCache) ⟨.lastPostTime, channel⟩ fromCache
  | postsPage (channel : Id) (size : Nat) (fromCache : Bool) (hsize : size ∈ pageSizes) :
    LooksUp (.postsPage channel 0 size fromCache) ⟨.posts, (channel, size)⟩ fromCache
  | files (post : Id) (withDeleted fromCache : Bool) :
    LooksUp (.files post withDeleted fromCache) ⟨.fileInfos, (post, withDeleted)⟩ fromCache
  | memberCount (channel : Id) (fromCache : Bool) :
    LooksUp (.memberCount channel fromCache) ⟨.memberCounts, channel⟩ fromCache

section

variable {request : Request} {lookup : Lookup} {fromCache : Bool}

theorem Request.looksUp_of_lookup? (hlookup : request.lookup? = some (lookup, fromCache)) :
    request.LooksUp lookup fromCache := by
  cases request with
  | postsPage channel page size fromCache =>
    obtain ⟨hpage, hsome⟩ := Option.ite_none_right_eq_some.1 hlookup
    simp only [isCacheablePage, Bool.and_eq_true, decide_eq_true_eq] at hpage
    obtain ⟨rfl, hsize⟩ := hpage
    cases hsome
    exact .postsPage channel size fromCache hsize
  | lastPostTime | etag | files | memberCount =>
    cases hlookup
    constructor
  | savePost | postsSince | saveFile | deleteFiles | members | membersOfUser | updateMember => cases hlookup

theorem Request.isCacheable_of_lookup? (hlookup : request.lookup? = some (lookup, fromCache)) :
    lookup.space.IsCacheable lookup.key := by
  cases looksUp_of_lookup? hlookup with
  | postsPage _ _ _ hsize => exact hsize
  | lastPostTime | etag | files | memberCount => trivial

end

namespace Backing

variable {σ : Type}

/-- The stores while they are out of order: every question comes to the error. -/
def during (backing : Backing σ) : Option StoreError → Backing σ
  | none => backing
  | some error =>
    { savePost := fun _ _ => .error error
      lastPostTime := fun _ _ => .error error
      postsSince := fun _ _ _ => .error error
      page := fun _ _ _ _ => .error error
      saveFile := fun _ _ => .error error
      files := fun _ _ _ => .error error
      deleteFiles := fun _ _ => .error error
      memberCount := fun _ _ => .error error
      members := fun _ _ => .error error
      membersOfUser := fun _ _ _ => .error error
      updateMember := fun _ _ => .error error }

section

variable (backing : Backing σ) (posts : σ → Id → List Post) (before after : σ)

/-- The posts of the channel are the same before and after. -/
def SamePosts (channel : Id) : Prop :=
  posts after channel = posts before channel ∧
    ∀ page size, backing.page channel page size after = backing.page channel page size before

/-- The files of the post are the same before and after. -/
def SameFiles (post : Id) : Prop :=
  ∀ withDeleted, backing.files post withDeleted after = backing.files post withDeleted before

/-- The number of members of the channel is the same before and after. -/
def SameCount (channel : Id) : Prop :=
  backing.memberCount channel after = backing.memberCount channel before

end

/-- The stores keep posts, and tell of them what is true. A write changes only what belongs to the
channel or the post of the record that it returns. -/
structure Lawful (backing : Backing σ) (posts : σ → Id → List Post) : Prop where
  lastPostTime : ∀ channel store, ∃ time, backing.lastPostTime channel store = .ok time ∧
    IsNewest (posts store channel) time
  postsSince : ∀ channel since store, ∃ list, backing.postsSince channel since store = .ok list ∧
    list.ListsExactly fun post => post ∈ posts store channel ∧ since < post.updateAt
  savePost : ∀ post store saved after, backing.savePost post store = .ok (saved, after) →
    (∀ channel, channel ≠ saved.channel → backing.SamePosts posts store after channel) ∧
      (∀ post, backing.SameFiles store after post) ∧ ∀ channel, backing.SameCount store after channel
  saveFile : ∀ file store saved after, backing.saveFile file store = .ok (saved, after) →
    (∀ channel, backing.SamePosts posts store after channel) ∧
      (∀ post, saved.post ≠ some post → backing.SameFiles store after post) ∧
      ∀ channel, backing.SameCount store after channel
  deleteFiles : ∀ post store after, backing.deleteFiles post store = .ok after →
    (∀ channel, backing.SamePosts posts store after channel) ∧
      (∀ other, other ≠ post → backing.SameFiles store after other) ∧
      ∀ channel, backing.SameCount store after channel
  updateMember : ∀ member store updated after, backing.updateMember member store = .ok (updated, after) →
    (∀ channel, backing.SamePosts posts store after channel) ∧
      (∀ post, backing.SameFiles store after post) ∧
      ∀ channel, channel ≠ updated.channel → backing.SameCount store after channel

theorem fetch_during (backing : Backing σ) (outage : Option StoreError) (store : σ) (space : Namespace)
    (key : space.Key) :
    (backing.during outage).fetch store space key =
      outage.elim (backing.fetch store space key) Except.error := by
  cases outage with
  | none => rfl
  | some error => cases space <;> rfl

theorem serve_during (backing : Backing σ) (outage : Option StoreError) (store : σ) (request : Request) :
    (backing.during outage).serve store request = outage.elim (backing.serve store request) Except.error := by
  cases outage with
  | none => rfl
  | some error => cases request <;> rfl

/-- A request whose reply can be cached is answered with the value that would be fetched, and changes
nothing. -/
theorem serve_of_lookup? (backing : Backing σ) (store : σ) {request : Request} {lookup : Lookup} {fromCache : Bool}
    (hlookup : request.lookup? = some (lookup, fromCache)) :
    backing.serve store request =
      (backing.fetch store lookup.space lookup.key).map fun value => (request.reply lookup.space value, store) := by
  cases Request.looksUp_of_lookup? hlookup <;> rfl

theorem map_fst_serve_of_lookup? (backing : Backing σ) (store : σ) {request : Request} {lookup : Lookup}
    {fromCache : Bool} (hlookup : request.lookup? = some (lookup, fromCache)) :
    (backing.serve store request).map Prod.fst =
      (backing.fetch store lookup.space lookup.key).map (request.reply lookup.space) := by
  rw [backing.serve_of_lookup? store hlookup]
  cases backing.fetch store lookup.space lookup.key <;> rfl

private theorem map_eq_ok {ε α β : Type} {f : α → β} {outcome : Except ε α} {result : β}
    (hmap : outcome.map f = .ok result) : ∃ value, outcome = .ok value ∧ f value = result := by
  cases outcome with
  | error _ => cases hmap
  | ok value =>
    cases hmap
    exact ⟨value, rfl, rfl⟩

namespace Lawful

variable {backing : Backing σ} {posts : σ → Id → List Post}

/-- What a request changes is announced: all else is the same afterwards. -/
theorem same_of_serve (hlawful : backing.Lawful posts) {store after : σ} {request : Request} {reply : Reply}
    (hserve : backing.serve store request = .ok (reply, after)) :
    (∀ channel, (∀ id, reply.event? ≠ some (.postCreated channel id)) →
      backing.SamePosts posts store after channel) ∧
    (∀ post, reply.event? ≠ some (.fileInfosChanged post) → backing.SameFiles store after post) ∧
    ∀ channel, reply.event? ≠ some (.channelMembersChanged channel) → backing.SameCount store after channel := by
  cases request with
  | savePost post =>
    obtain ⟨⟨saved, state⟩, hsave, hreply⟩ := map_eq_ok hserve
    cases hreply
    obtain ⟨hposts, hfiles, hcounts⟩ := hlawful.savePost post store saved after hsave
    refine ⟨fun channel hother => hposts channel ?_, fun post _ => hfiles post, fun channel _ => hcounts channel⟩
    rintro rfl
    exact hother saved.id rfl
  | saveFile file =>
    obtain ⟨⟨saved, state⟩, hsave, hreply⟩ := map_eq_ok hserve
    cases hreply
    obtain ⟨hposts, hfiles, hcounts⟩ := hlawful.saveFile file store saved after hsave
    refine ⟨fun channel _ => hposts channel, fun post hother => hfiles post ?_, fun channel _ => hcounts channel⟩
    intro hpost
    exact hother (by simp [Reply.event?, hpost])
  | deleteFiles post =>
    obtain ⟨state, hdelete, hreply⟩ := map_eq_ok hserve
    cases hreply
    obtain ⟨hposts, hfiles, hcounts⟩ := hlawful.deleteFiles post store after hdelete
    refine ⟨fun channel _ => hposts channel, fun other hother => hfiles other ?_, fun channel _ => hcounts channel⟩
    rintro rfl
    exact hother rfl
  | updateMember member =>
    obtain ⟨⟨updated, state⟩, hupdate, hreply⟩ := map_eq_ok hserve
    cases hreply
    obtain ⟨hposts, hfiles, hcounts⟩ := hlawful.updateMember member store updated after hupdate
    refine ⟨fun channel _ => hposts channel, fun post _ => hfiles post, fun channel hother => hcounts channel ?_⟩
    rintro rfl
    exact hother rfl
  | lastPostTime | etag | postsSince | postsPage | files | memberCount | members | membersOfUser =>
    obtain ⟨value, -, hreply⟩ := map_eq_ok hserve
    cases hreply
    exact ⟨fun _ _ => ⟨rfl, fun _ _ => rfl⟩, fun _ _ _ => rfl, fun _ _ => rfl⟩

/-- The posts of a channel are the same after a request if its event does not make the time of its latest
change out of date. -/
theorem posts_of_serve (hlawful : backing.Lawful posts) {store after : σ} {request : Request} {reply : Reply}
    (hserve : backing.serve store request = .ok (reply, after)) {channel : Id}
    (hkept : ∀ event, reply.event? = some event → ∀ target ∈ Hooks.standardTargets event,
      ¬ target.Covers .lastPostTime channel) : posts after channel = posts store channel := by
  refine ((hlawful.same_of_serve hserve).1 channel fun id hevent => ?_).1
  exact hkept _ hevent (.lastPostTime channel) List.mem_cons_self rfl

/-- A value that can be cached is the same after a request whose event does not make it out of date. -/
theorem fetch_of_serve (hlawful : backing.Lawful posts) {store after : σ} {request : Request} {reply : Reply}
    (hserve : backing.serve store request = .ok (reply, after)) {space : Namespace} {key : space.Key}
    (hcacheable : space.IsCacheable key)
    (hkept : ∀ event, reply.event? = some event → ∀ target ∈ Hooks.standardTargets event,
      ¬ target.Covers space key) : backing.fetch after space key = backing.fetch store space key := by
  obtain ⟨hposts, hfiles, hcounts⟩ := hlawful.same_of_serve hserve
  cases space with
  | lastPostTime =>
    -- The posts are the same, and there is only one time that is the newest of them.
    obtain ⟨before, hbefore, hnewest⟩ := hlawful.lastPostTime key store
    obtain ⟨time, htime, hnewest'⟩ := hlawful.lastPostTime key after
    rw [hlawful.posts_of_serve hserve hkept] at hnewest'
    rw [fetch, fetch, hbefore, htime, hnewest'.unique hnewest]
  | posts =>
    refine (hposts key.1 fun id hevent => ?_).2 0 key.2
    exact hkept _ hevent (.posts key.1) (List.mem_cons_of_mem _ List.mem_cons_self) ⟨rfl, hcacheable⟩
  | fileInfos =>
    refine hfiles key.1 (fun hevent => ?_) key.2
    refine hkept _ hevent (.fileInfos key.1 key.2) ?_ rfl
    cases key.2 <;> simp [Hooks.standardTargets, Target.fileInfosOf]
  | memberCounts =>
    refine hcounts key fun hevent => ?_
    exact hkept _ hevent (.memberCount key) List.mem_cons_self rfl

end Lawful

end Backing

namespace Layer

variable {list : PostList} {posts : List Post} {since : Instant}

/-- The time noted is that of the latest change, if there are changes since the instant, and else the
instant itself. -/
theorem latestOf_cases (hlists : list.ListsExactly fun post => post ∈ posts ∧ since < post.updateAt) :
    (∀ post ∈ posts, post.updateAt ≤ since) ∧ latestOf list since = since ∨
      (∃ post ∈ posts, since < post.updateAt) ∧ IsNewest posts (latestOf list since) := by
  by_cases hempty : list.posts.values = []
  · refine .inl ⟨fun post hpost => Instant.not_lt.1 fun hlt => ?_, ?_⟩
    · have hmem := (hlists.values post).2 ⟨hpost, hlt⟩
      rw [hempty] at hmem
      cases hmem
    · rw [latestOf, PostList.latestUpdate?_eq_none hempty]
      rfl
  · -- The list holds all posts that have changed since, so its latest change is the latest of all.
    obtain ⟨time, hlatest, hnewest⟩ := PostList.exists_latestUpdate? hempty
    obtain ⟨⟨post, hpost, rfl⟩, hle⟩ := hnewest.resolve_left fun hnone => hempty hnone.1
    obtain ⟨hmem, hlt⟩ := (hlists.values post).1 hpost
    have htime : latestOf list since = post.updateAt := by
      rw [latestOf, hlatest, Option.map_some, Option.getD_some]
      rcases Instant.latest_eq_or_eq post.updateAt since with heq | heq
      · exact heq
      · exact absurd hlt (Instant.not_lt.2 (heq ▸ Instant.le_latest_left ..))
    refine .inr ⟨⟨post, hmem, hlt⟩, htime ▸ .inr ⟨⟨post, hmem, rfl⟩, fun other hother => ?_⟩⟩
    by_cases hnewer : since < other.updateAt
    · exact hle other ((hlists.values other).2 ⟨hother, hnewer⟩)
    · exact Instant.le_trans (Instant.not_lt.1 hnewer) (Instant.le_of_lt hlt)

/-- No post has changed after the time noted. -/
theorem le_latestOf (hlists : list.ListsExactly fun post => post ∈ posts ∧ since < post.updateAt) {post : Post}
    (hpost : post ∈ posts) : post.updateAt ≤ latestOf list since := by
  rcases latestOf_cases hlists with ⟨hle, htime⟩ | ⟨-, hnewest⟩
  · rw [htime]
    exact hle post hpost
  · exact hnewest.le hpost

end Layer

end ChatNotify.Cache
