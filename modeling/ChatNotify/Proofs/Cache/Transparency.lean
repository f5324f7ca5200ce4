import ChatNotify.Proofs.Cache.Archive
import ChatNotify.Proofs.Cache.Coherence

namespace ChatNotify.Cache

/-- Holds of the requests whose answer is the time of the latest change, or is made of it. -/
def Request.TellsTime : Request → Prop
  | .lastPostTime .. | .etag .. => True
  | _ => False

theorem Request.tellsTime_of_lookup? {request : Request} {lookup : Lookup} {fromCache : Bool}
    (hlookup : request.lookup? = some (lookup, fromCache)) (hspace : lookup.space = .lastPostTime) :
    request.TellsTime := by
  cases looksUp_of_lookup? hlookup with
  | lastPostTime | etag => trivial
  | postsPage | files | memberCount => cases hspace

/-- The state in which a request leaves the stores when there is no cache in front of them. One that fails changes
nothing. -/
def Backing.storeAfter {σ : Type} (backing : Backing σ) (store : σ) (request : Request) : σ :=
  match backing.serve store request with
  | .ok (_, after) => after
  | .error _ => store

/-- The state in which a call leaves the stores when there is no cache in front of them. -/
def Layer.Call.storeAfter {σ : Type} (call : Call σ) (backing : Backing σ) (store : σ) : σ :=
  match call.command with
  | .request request => (backing.during call.outage).storeAfter store request
  | .changeStore change => change store
  | .publish _ | .invalidate _ | .clearAll | .register _ _ | .look _ => store

/-- A request whose reply can be cached changes nothing. -/
theorem Backing.storeAfter_of_lookup? {σ : Type} (backing : Backing σ) (store : σ) {request : Request}
    {lookup : Lookup} {fromCache : Bool} (hlookup : request.lookup? = some (lookup, fromCache)) :
    backing.storeAfter store request = store := by
  rw [storeAfter, backing.serve_of_lookup? store hlookup]
  cases backing.fetch store lookup.space lookup.key <;> rfl

theorem Backing.storeAfter_postsSince {σ : Type} (backing : Backing σ) (store : σ) (channel : Id) (since : Instant)
    (fromCache : Bool) : backing.storeAfter store (.postsSince channel since fromCache) = store := by
  rw [storeAfter, serve]
  cases backing.postsSince channel since store <;> rfl

/-- What the shelves tell of the stores: the values themselves, but of the time of the latest change only
that it is no later. -/
def Backing.Bounds {σ : Type} (backing : Backing σ) (posts : σ → Id → List Post) : Truth σ
  | store, .lastPostTime, channel, time => ∀ post ∈ posts store channel, post.updateAt ≤ time
  | store, space, key, value => backing.fetch store space key = .ok value

/-- All values but the times are those of the stores. -/
theorem Backing.fetch_of_bounds {σ : Type} (backing : Backing σ) {posts : σ → Id → List Post} {store : σ}
    {space : Namespace} {key : space.Key} {value : space.Value} (hspace : space ≠ .lastPostTime)
    (htrue : backing.Bounds posts store space key value) : backing.fetch store space key = .ok value := by
  cases space with
  | lastPostTime => exact absurd rfl hspace
  | posts | fileInfos | memberCounts => exact htrue

namespace Backing.Lawful

variable {σ : Type} {backing : Backing σ} {posts : σ → Id → List Post}

theorem respects_bounds (hlawful : backing.Lawful posts) : backing.Respects (backing.Bounds posts) where
  of_fetch := by
    intro store space key value hfetch
    cases space with
    | lastPostTime =>
      obtain ⟨time, htime, hnewest⟩ := hlawful.lastPostTime key store
      cases htime.symm.trans hfetch
      exact fun post hpost => hnewest.le hpost
    | posts | fileInfos | memberCounts => exact hfetch
  of_serve := by
    intro store after request reply space key value hserve hcacheable hkept htrue
    cases space with
    | lastPostTime =>
      have hsame := hlawful.posts_of_serve hserve hkept
      exact fun post hpost => htrue post (hsame ▸ hpost)
    | posts | fileInfos | memberCounts => exact (hlawful.fetch_of_serve hserve hcacheable hkept).trans htrue

end Backing.Lawful

namespace Layer

variable {σ : Type} {backing : Backing σ} {posts : σ → Id → List Post}

@[simp] theorem store_finishSince (layer : Layer σ) (request : Request) (epoch : Nat) (reply : Reply)
    (now : Instant) : (layer.finishSince request epoch reply now).store = layer.store := by
  unfold finishSince
  split <;> rfl

theorem store_finish_listsSince (layer : Layer σ) (backing : Backing σ) (ticket : Ticket) (request : Request)
    (epoch : Nat) (now : Instant) :
    (layer.finish backing ticket request (.listsSince epoch) now).1.store =
      backing.storeAfter layer.store request := by
  unfold finish Backing.storeAfter
  cases backing.serve layer.store request with
  | error error => rfl
  | ok served => exact store_finishSince ..

theorem store_finish_passes (layer : Layer σ) (backing : Backing σ) (ticket : Ticket) (request : Request)
    (now : Instant) :
    (layer.finish backing ticket request .passes now).1.store = backing.storeAfter layer.store request := by
  unfold finish Backing.storeAfter
  cases backing.serve layer.store request <;> rfl

/-- A request leaves the stores as it would leave them without a cache. -/
theorem store_request (layer : Layer σ) (backing : Backing σ) (request : Request) (now later : Instant) :
    (layer.request backing request now later).1.store = backing.storeAfter layer.store request := by
  unfold Layer.request
  rcases layer.begin_cases 0 request now with
    ⟨lookup, fromCache, hlookup, hbegin⟩ | ⟨shelf, channel, step, ⟨since, fromCache, rfl⟩, -, hstep, hbegin⟩ | hbegin
  · rw [hbegin, backing.storeAfter_of_lookup? layer.store hlookup]
    cases ((layer.cache.shelves.shelf lookup.space).beginRead 0 lookup.key fromCache now).2 <;> rfl
  · rw [hbegin]
    rcases hstep with rfl | rfl
    · exact (backing.storeAfter_postsSince layer.store channel since fromCache).symm
    · exact store_finish_listsSince ..
  · rw [hbegin]
    exact store_finish_passes ..

theorem store_run (layer : Layer σ) (backing : Backing σ) (call : Call σ) :
    (layer.run (backing.during call.outage) call.now call.command call.later).1.store =
      call.storeAfter backing layer.store := by
  unfold Call.storeAfter
  cases call.command with
  | request request => exact layer.store_request (backing.during call.outage) request call.now call.later
  | publish | invalidate | clearAll | register | look | changeStore => rfl

/-- Calls leave the stores as they would leave them without a cache. -/
theorem store_after (layer : Layer σ) (backing : Backing σ) (calls : List (Call σ)) :
    (layer.after backing calls).store = calls.foldl (fun store call => call.storeAfter backing store) layer.store := by
  induction calls generalizing layer with
  | nil => rfl
  | cons call rest ih =>
    refine (ih _).trans ?_
    rw [store_run]
    rfl

/-- The request, whenever it is made, is answered as the stores would answer it, but perhaps with their
error if they are out of order. -/
def AnswersAs (layer : Layer σ) (backing : Backing σ) (request : Request) : Prop :=
  ∀ now later outage, ∃ answer, (layer.request (backing.during outage) request now later).2 = some answer ∧
    (answer = (backing.serve layer.store request).map Prod.fst ∨
      ∃ error, outage = some error ∧ answer = .error error)

/-- Whatever time is noted, no post has changed after it. -/
theorem notesTruly_bounds (hlawful : backing.Lawful posts) (layer : Layer σ) (outage : Option StoreError)
    (request : Request) (now : Instant) :
    layer.NotesTruly (backing.Bounds posts) (backing.during outage) request now := by
  rintro channel since fromCache list - - - hlist
  cases outage with
  | some error => cases hlist
  | none =>
    obtain ⟨other, hother, hlists⟩ := hlawful.postsSince channel since layer.store
    cases hother.symm.trans hlist
    exact fun post hpost => le_latestOf hlists hpost

/-- If the stores have been asked, their answer is passed on. -/
theorem Answers.asked_cases {layer : Layer σ} (outage : Option StoreError) (request : Request) :
    ((backing.during outage).serve layer.store request).map Prod.fst =
        (backing.serve layer.store request).map Prod.fst ∨
      ∃ error, outage = some error ∧
        ((backing.during outage).serve layer.store request).map Prod.fst = .error error := by
  rw [Backing.serve_during]
  cases outage with
  | none => exact .inl rfl
  | some error => exact .inr ⟨error, rfl, rfl⟩

/-- What may be answered is what the stores answer, if the request does not tell a time. -/
theorem Answers.eq_serve (hlawful : backing.Lawful posts) {layer : Layer σ} {outage : Option StoreError}
    {request : Request} (htells : ¬ request.TellsTime) {answer : Except StoreError Reply}
    (hanswers : layer.Answers (backing.during outage) (backing.Bounds posts) request answer) :
    answer = (backing.serve layer.store request).map Prod.fst ∨
      ∃ error, outage = some error ∧ answer = .error error := by
  cases hanswers with
  | asked => exact asked_cases outage request
  | @found lookup fromCache value hlookup htrue =>
    have hspace : lookup.space ≠ .lastPostTime := fun hspace =>
      htells (Request.tellsTime_of_lookup? hlookup hspace)
    left
    rw [backing.map_fst_serve_of_lookup? layer.store hlookup, backing.fetch_of_bounds hspace htrue]
    rfl
  | @unchanged channel since last fromCache hrequest htrue hle =>
    subst hrequest
    obtain ⟨list, hlist, hlists⟩ := hlawful.postsSince channel since layer.store
    have hempty : list = {} := by
      refine hlists.eq_empty fun post hpost => ?_
      exact Instant.not_lt.2 (Instant.le_trans (htrue post hpost.1) hle) hpost.2
    left
    simp only [Backing.serve, hlist, hempty, Except.map]

/-- The layer is transparent. Any calls, made one after the other and through the layer, leave the stores as they
would leave them without it, and afterwards it answers every request that does not tell a time as the stores would
answer it in that state. Neither the settings nor further rules matter, nor whether the stores have been out of
order. -/
theorem answersAs_after (hlawful : backing.Lawful posts) (settings : Settings) (rules : List Hook) (store : σ)
    (calls : List (Call σ)) (hcalls : ∀ call ∈ calls, call.command.LeavesStores) (request : Request)
    (hrequest : ¬ request.TellsTime) :
    let layer : Layer σ := { cache := .create settings ⟨Hooks.standard.rules ++ rules⟩, store := store }
    (layer.after backing calls).store = calls.foldl (fun store call => call.storeAfter backing store) store ∧
      (layer.after backing calls).AnswersAs backing request := by
  intro layer
  refine ⟨layer.store_after backing calls, fun now later outage => ?_⟩
  have hrespects := hlawful.respects_bounds
  have hcreated : layer.Coherent (backing.Bounds posts) :=
    coherent_create settings _ store fun event target htarget => Hooks.mem_targets_standard rules htarget
  have hcoherent := hcreated.after_preserves_coherent hrespects calls hcalls fun earlier call _ request _ =>
    notesTruly_bounds hlawful (layer.after backing earlier) call.outage request call.now
  obtain ⟨answer, hanswer, hanswers⟩ := (hcoherent.request_spec (hrespects.during outage) request now later
    (notesTruly_bounds hlawful _ outage request now)).2
  exact ⟨answer, hanswer, hanswers.eq_serve hlawful hrequest⟩

/-- The changes of a channel are told after a later instant was noted for it, as a save drops the note. -/
theorem answersAs_after_two_saves :
    let first : Post := { id := ⟨1⟩, channel := ⟨7⟩, user := ⟨3⟩, updateAt := ⟨10⟩ }
    let second : Post := { id := ⟨2⟩, channel := ⟨7⟩, user := ⟨3⟩, updateAt := ⟨20⟩ }
    let call (request : Request) : Call Archive :=
      { command := .request request, now := .epoch, later := .epoch }
    let calls := [call (.savePost first), call (.postsSince ⟨7⟩ ⟨50⟩ true), call (.savePost second)]
    let layer : Layer Archive := { cache := .create {} ⟨Hooks.standard.rules ++ []⟩, store := {} }
    Archive.backing.Lawful (fun archive channel => (archive.posts channel).values) ∧
      (∀ call ∈ calls, call.command.LeavesStores) ∧ ¬ (Request.postsSince ⟨7⟩ ⟨15⟩ true).TellsTime ∧
      (layer.after Archive.backing calls).store =
        calls.foldl (fun store call => call.storeAfter Archive.backing store) {} ∧
      (layer.after Archive.backing calls).AnswersAs Archive.backing (.postsSince ⟨7⟩ ⟨15⟩ true) := by
  intro first second call calls layer
  have hcalls : ∀ call ∈ calls, call.command.LeavesStores := by simp [calls, call, Command.LeavesStores]
  exact ⟨Archive.backing_lawful, hcalls, id,
    answersAs_after Archive.backing_lawful {} [] {} calls hcalls (.postsSince ⟨7⟩ ⟨15⟩ true) id⟩

end Layer

end ChatNotify.Cache
