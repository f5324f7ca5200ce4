import ChatNotify.Proofs.Cache.Transparency

namespace ChatNotify.Cache

/-- What the shelves tell of the stores if all values on them are those of the stores. -/
def Backing.Exact {σ : Type} (backing : Backing σ) : Truth σ :=
  fun store space key value => backing.fetch store space key = .ok value

theorem Backing.Lawful.respects_exact {σ : Type} {backing : Backing σ} {posts : σ → Id → List Post}
    (hlawful : backing.Lawful posts) : backing.Respects backing.Exact where
  of_fetch hfetch := hfetch
  of_serve hserve hcacheable hkept htrue := (hlawful.fetch_of_serve hserve hcacheable hkept).trans htrue

namespace Layer

variable {σ : Type} {backing : Backing σ} {posts : σ → Id → List Post} {layer : Layer σ}

/-- The call asks the stores for the changes since an instant after which there are none, and which is not
the time of the latest change. -/
def Misdates (layer : Layer σ) (posts : σ → Id → List Post) (call : Call σ) : Prop :=
  ∃ channel since fromCache, call.command = .request (.postsSince channel since fromCache) ∧
    call.outage = none ∧ layer.cache.settings.enabled = true ∧
    layer.AsksSince channel since fromCache call.now ∧
    (∀ post ∈ posts layer.store channel, post.updateAt ≤ since) ∧ ¬ IsNewest (posts layer.store channel) since

/-- A call that does not misdate notes the time of the latest change, if it notes one. -/
theorem notesTruly_exact (hlawful : backing.Lawful posts) {call : Call σ} (hdates : ¬ layer.Misdates posts call)
    {request : Request} (hcommand : call.command = .request request) :
    layer.NotesTruly backing.Exact (backing.during call.outage) request call.now := by
  rintro channel since fromCache list rfl henabled hasks hlist
  cases houtage : call.outage with
  | some error =>
    rw [houtage] at hlist
    cases hlist
  | none =>
    rw [houtage] at hlist
    obtain ⟨other, hother, hlists⟩ := hlawful.postsSince channel since layer.store
    cases hother.symm.trans hlist
    obtain ⟨time, htime, hnewest⟩ := hlawful.lastPostTime channel layer.store
    have hlatest : IsNewest (posts layer.store channel) (latestOf list since) := by
      rcases latestOf_cases hlists with ⟨hle, heq⟩ | ⟨-, hlatest⟩
      · rw [heq]
        refine Classical.byContradiction fun hother => ?_
        exact hdates ⟨channel, since, fromCache, hcommand, houtage, henabled, hasks, hle, hother⟩
      · exact hlatest
    exact htime.trans (congrArg Except.ok (hnewest.unique hlatest))

/-- A layer whose shelves are exact answers all requests that tell a time as the stores do. -/
theorem Coherent.answersAs_of_tellsTime (hlawful : backing.Lawful posts) (hcoherent : layer.Coherent backing.Exact)
    {request : Request} (htells : request.TellsTime) : layer.AnswersAs backing request := by
  intro now later outage
  have hnotes : layer.NotesTruly backing.Exact (backing.during outage) request now := by
    rintro channel since fromCache list rfl
    exact htells.elim
  obtain ⟨answer, hanswer, hanswers⟩ :=
    (hcoherent.request_spec (hlawful.respects_exact.during outage) request now later hnotes).2
  refine ⟨answer, hanswer, ?_⟩
  cases hanswers with
  | asked => exact Answers.asked_cases outage request
  | @found lookup fromCache value hlookup htrue =>
    left
    rw [backing.map_fst_serve_of_lookup? layer.store hlookup, htrue]
    rfl
  | unchanged hrequest =>
    subst hrequest
    exact htells.elim

/-- A request for changes that asks the stores puts the time that it notes on the shelf. -/
theorem request_of_asksSince (henabled : layer.cache.settings.enabled = true) {channel : Id} {since : Instant}
    {fromCache : Bool} {now : Instant} (hasks : layer.AsksSince channel since fromCache now) {list : PostList}
    (hlist : backing.postsSince channel since layer.store = .ok list) (later : Instant) :
    ∃ shelf, (shelf = layer.cache.shelves.lastPostTime ∨ shelf = (layer.cache.shelves.lastPostTime.get channel now).1) ∧
      (layer.request backing (.postsSince channel since fromCache) now later).1 =
        (layer.note (.postsSince channel since fromCache)
          (backing.serve layer.store (.postsSince channel since fromCache))).replace .lastPostTime
          (shelf.put channel (latestOf list since) later) := by
  obtain ⟨shelf, hshelf, hbegin⟩ := begin_postsSince henabled 0 channel since fromCache now
  obtain ⟨-, hbegin⟩ := hbegin.resolve_left fun hother => hother.1 hasks
  have hserve : backing.serve layer.store (.postsSince channel since fromCache) = .ok (.posts list, layer.store) := by
    simp [Backing.serve, hlist, Except.map]
  have hput : (shelf.putIfCurrent channel (latestOf list since) shelf.epoch later).1 =
      shelf.put channel (latestOf list since) later := by
    rw [Shelf.putIfCurrent, if_pos rfl]
  refine ⟨shelf, hshelf, ?_⟩
  unfold request
  simp only [hbegin, finish, store_replace, hserve]
  exact congrArg (replace _ .lastPostTime) hput

/-- A time that has just been noted is told. -/
theorem request_lastPostTime_of_put (layer : Layer σ) (henabled : layer.cache.settings.enabled = true)
    {shelf : Shelf Id Instant} {channel : Id} {time stored : Instant}
    (hshelf : layer.cache.shelves.lastPostTime = shelf.put channel time stored) (httl : shelf.ttl = none)
    (now later : Instant) :
    (layer.request backing (.lastPostTime channel true) now later).2 = some (.ok (.value .lastPostTime time)) := by
  have hread : ((layer.cache.shelves.shelf .lastPostTime).beginRead 0 channel true now).2 = .found time := by
    change (layer.cache.shelves.lastPostTime.beginRead 0 channel true now).2 = _
    rw [hshelf]
    exact Shelf.beginRead_put httl channel time stored 0 now
  unfold request
  rw [begin_of_lookup? henabled rfl, hread]
  rfl

/-- After a call that misdates the layer does not tell the time of the latest change. -/
theorem not_answersAs_of_misdates (hlawful : backing.Lawful posts) {truth : Truth σ}
    (hcoherent : layer.Coherent truth) {call : Call σ} (hmisdates : layer.Misdates posts call) :
    ∃ channel, ¬ (layer.after backing [call]).AnswersAs backing (.lastPostTime channel true) := by
  obtain ⟨channel, since, fromCache, hcommand, houtage, henabled, hasks, hle, hother⟩ := hmisdates
  refine ⟨channel, fun hanswers => hother ?_⟩
  obtain ⟨list, hlist, hlists⟩ := hlawful.postsSince channel since layer.store
  obtain ⟨shelf, hshelf, hafter⟩ := request_of_asksSince henabled hasks hlist call.later
  have hnoted : latestOf list since = since := by
    rcases latestOf_cases hlists with ⟨-, heq⟩ | ⟨⟨post, hpost, hlt⟩, -⟩
    · exact heq
    · exact absurd hlt (Instant.not_lt.2 (hle post hpost))
  have httl : shelf.ttl = none := by
    rcases hshelf with rfl | rfl
    · exact (hcoherent.rest .lastPostTime).ttl_eq
    · exact ((hcoherent.rest .lastPostTime).get_preserves_atRest channel call.now).ttl_eq
  have hrun : layer.after backing [call] = (layer.request backing (.postsSince channel since fromCache) call.now
      call.later).1 := by
    change (layer.run (backing.during call.outage) call.now call.command call.later).1 = _
    rw [houtage, hcommand]
    rfl
  let noted : Layer σ := (layer.note (.postsSince channel since fromCache)
    (backing.serve layer.store (.postsSince channel since fromCache))).replace .lastPostTime
    (shelf.put channel since call.later)
  have hafter : layer.after backing [call] = noted := by rw [hrun, hafter, hnoted]
  rw [hafter] at hanswers
  obtain ⟨answer, hanswer, hserve⟩ := hanswers call.now call.later none
  cases (request_lastPostTime_of_put noted henabled rfl httl call.now call.later).symm.trans hanswer
  obtain ⟨time, htime, hnewest⟩ := hlawful.lastPostTime channel layer.store
  rcases hserve with hserve | ⟨error, herror, -⟩
  · simp only [noted, store_replace, note, Backing.serve, htime, Except.map, Except.ok.injEq, Reply.value.injEq,
      heq_eq_eq, true_and] at hserve
    exact hserve ▸ hnewest
  · cases herror

/-- The times are told exactly as long as no call misdates. An instant that such a call notes is told as long as the
note stands, although no post has changed at it. -/
theorem answersAs_iff_not_misdates (hlawful : backing.Lawful posts) (settings : Settings) (rules : List Hook)
    (store : σ) (calls : List (Call σ)) (hcalls : ∀ call ∈ calls, call.command.LeavesStores) :
    let layer : Layer σ := { cache := .create settings ⟨Hooks.standard.rules ++ rules⟩, store := store }
    (∀ earlier, earlier <+: calls → ∀ request : Request, request.TellsTime →
      (layer.after backing earlier).AnswersAs backing request) ↔
    ∀ earlier call, earlier ++ [call] <+: calls → ¬ (layer.after backing earlier).Misdates posts call := by
  intro layer
  have hcreated (truth : Truth σ) : layer.Coherent truth :=
    coherent_create settings _ store fun event target htarget => Hooks.mem_targets_standard rules htarget
  constructor
  · intro hanswers earlier call hearlier hmisdates
    -- Times noted before may be wrong too; that they are bounds is all that is needed of them.
    have hcoherent := (hcreated (backing.Bounds posts)).after_preserves_coherent hlawful.respects_bounds earlier
      (fun call hcall => hcalls call ((List.prefix_append _ _).trans hearlier |>.subset hcall))
      fun earlier call _ request _ => notesTruly_bounds hlawful _ call.outage request call.now
    obtain ⟨channel, hwrong⟩ := not_answersAs_of_misdates hlawful hcoherent hmisdates
    refine hwrong ?_
    have hafter : layer.after backing (earlier ++ [call]) = (layer.after backing earlier).after backing [call] :=
      List.foldl_append
    exact hafter ▸ hanswers (earlier ++ [call]) hearlier (.lastPostTime channel true) trivial
  · intro hdates earlier hearlier request htells
    have hcoherent := (hcreated backing.Exact).after_preserves_coherent hlawful.respects_exact earlier
      (fun call hcall => hcalls call (hearlier.subset hcall))
      fun before call hbefore request hcommand =>
        notesTruly_exact hlawful (hdates before call (hbefore.trans hearlier)) hcommand
    exact hcoherent.answersAs_of_tellsTime hlawful htells

/-- A single request for the changes since a later instant makes a layer tell a wrong time. -/
theorem not_answersAs_after_later_since :
    let post : Post := { id := ⟨1⟩, channel := ⟨7⟩, user := ⟨3⟩, updateAt := ⟨10⟩ }
    let store : Archive := { posts := Archive.set (fun _ => ∅) ⟨7⟩ ((∅ : Table Id Post).insert ⟨1⟩ post) }
    let call : Call Archive := { command := .request (.postsSince ⟨7⟩ ⟨50⟩ true), now := .epoch, later := .epoch }
    let layer : Layer Archive := { cache := .create {} ⟨Hooks.standard.rules ++ []⟩, store := store }
    Archive.backing.Lawful (fun archive channel => (archive.posts channel).values) ∧
      (∀ other ∈ [call], other.command.LeavesStores) ∧
      ¬ ∀ earlier, earlier <+: [call] → ∀ request : Request, request.TellsTime →
        (layer.after Archive.backing earlier).AnswersAs Archive.backing request := by
  intro post store call layer
  have hcalls : ∀ other ∈ [call], other.command.LeavesStores := by simp [call, Command.LeavesStores]
  have hposts : (store.posts ⟨7⟩).values = [post] := rfl
  have hother : ¬ IsNewest [post] ⟨50⟩ := by
    intro hnewest
    rcases hnewest with hnone | ⟨⟨other, hmem, htime⟩, -⟩
    · cases hnone.1
    · cases List.mem_singleton.1 hmem
      cases htime
  have hasks : layer.AsksSince ⟨7⟩ ⟨50⟩ true .epoch := by
    refine .inr fun last hlast => ?_
    cases hlast
  refine ⟨Archive.backing_lawful, hcalls, fun hanswers => ?_⟩
  refine (answersAs_iff_not_misdates Archive.backing_lawful {} [] store [call] hcalls).1 hanswers [] call
    (List.prefix_refl _) ⟨⟨7⟩, ⟨50⟩, true, rfl, rfl, rfl, hasks, ?_, hother⟩
  intro other hmem
  cases List.mem_singleton.1 hmem
  decide

end Layer

end ChatNotify.Cache
