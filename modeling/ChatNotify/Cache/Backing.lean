import ChatNotify.Cache.Event
import ChatNotify.Cache.Key
import ChatNotify.Chat.Channel
import ChatNotify.Failure
import ChatNotify.Journal

namespace ChatNotify.Cache

/-- A request to the stores. Where a reply may come from the cache, `fromCache` says whether it may
this time. -/
inductive Request where
  | savePost (post : Post)
  | lastPostTime (channel : Id) (fromCache : Bool)
  | etag (channel : Id) (fromCache : Bool)
  | postsSince (channel : Id) (since : Instant) (fromCache : Bool)
  | postsPage (channel : Id) (page size : Nat) (fromCache : Bool)
  | saveFile (file : File)
  | files (post : Id) (withDeleted fromCache : Bool)
  | deleteFiles (post : Id)
  | memberCount (channel : Id) (fromCache : Bool)
  | members (channel : Id)
  | membersOfUser (team : String) (user : Id)
  | updateMember (member : Member)

/-- A reply of the stores. -/
inductive Reply where
  /-- A value that can be cached. -/
  | value (space : Namespace) (value : space.Value)
  | etag (text : String)
  | posts (list : PostList)
  | savedPost (post : Post)
  | savedFile (file : File)
  | deletedFiles (post : Id)
  | members (members : List Member)
  | updatedMember (member : Member)

/-- The tag that tells versions of a channel apart. -/
def etagOf (lastPostTime : Instant) : String :=
  "5.0." ++ toString lastPostTime.unixMillis

/-- What can be looked up on the shelves. -/
structure Lookup where
  space : Namespace
  key : space.Key

namespace Request

/-- The question that the request puts to the stores. -/
def question : Request → Question
  | .savePost _ => .savePost
  | .lastPostTime .. | .etag .. => .lastPostTime
  | .postsSince .. => .postsSince
  | .postsPage .. => .posts
  | .saveFile _ => .saveFile
  | .files .. => .files
  | .deleteFiles _ => .deleteFiles
  | .memberCount .. => .memberCount
  | .members _ => .members
  | .membersOfUser .. => .membersOfUser
  | .updateMember _ => .updateMember

/-- What the request looks up, if its reply can be cached, and whether it may come from the cache. -/
def lookup? : Request → Option (Lookup × Bool)
  | .lastPostTime channel fromCache | .etag channel fromCache =>
    some (⟨.lastPostTime, channel⟩, fromCache)
  | .postsPage channel page size fromCache =>
    if isCacheablePage page size then some (⟨.posts, (channel, size)⟩, fromCache) else none
  | .files post withDeleted fromCache => some (⟨.fileInfos, (post, withDeleted)⟩, fromCache)
  | .memberCount channel fromCache => some (⟨.memberCounts, channel⟩, fromCache)
  | _ => none

/-- The reply that a looked-up value makes. -/
def reply (request : Request) : (space : Namespace) → space.Value → Reply
  | .lastPostTime, time =>
    match request with
    | .etag .. => .etag (etagOf time)
    | _ => .value .lastPostTime time
  | space, value => .value space value

end Request

/-- What has changed when a request has been answered. -/
def Reply.event? : Reply → Option Event
  | .savedPost post => some (.postCreated post.channel post.id)
  | .savedFile file => file.post.map Event.fileInfosChanged
  | .deletedFiles post => some (.fileInfosChanged post)
  | .updatedMember member => some (.channelMembersChanged member.channel)
  | _ => none

/-- The stores. What is read depends on their state, and what fails leaves their state as it was. -/
structure Backing (σ : Type) where
  savePost : Post → σ → Except StoreError (Post × σ)
  lastPostTime : Id → σ → Except StoreError Instant
  /-- The posts of a channel that have changed after an instant. -/
  postsSince : Id → Instant → σ → Except StoreError PostList
  /-- A page of the posts of a channel, latest first. -/
  page : Id → Nat → Nat → σ → Except StoreError PostList
  saveFile : File → σ → Except StoreError (File × σ)
  files : Id → Bool → σ → Except StoreError (List File)
  deleteFiles : Id → σ → Except StoreError σ
  memberCount : Id → σ → Except StoreError Nat
  members : Id → σ → Except StoreError (List Member)
  membersOfUser : String → Id → σ → Except StoreError (List Member)
  updateMember : Member → σ → Except StoreError (Member × σ)

namespace Backing

variable {σ : Type}

/-- The value that the stores hold for a key. -/
def fetch (backing : Backing σ) (state : σ) :
    (space : Namespace) → space.Key → Except StoreError space.Value
  | .lastPostTime, channel => backing.lastPostTime channel state
  | .posts, (channel, size) => backing.page channel 0 size state
  | .fileInfos, (post, withDeleted) => backing.files post withDeleted state
  | .memberCounts, channel => backing.memberCount channel state

/-- Answers a request from the stores, as it is answered without a cache. -/
def serve (backing : Backing σ) (state : σ) : Request → Except StoreError (Reply × σ)
  | .savePost post => (backing.savePost post state).map fun (saved, state) => (.savedPost saved, state)
  | .lastPostTime channel _ =>
    (backing.lastPostTime channel state).map fun time => (.value .lastPostTime time, state)
  | .etag channel _ =>
    (backing.lastPostTime channel state).map fun time => (.etag (etagOf time), state)
  | .postsSince channel since _ =>
    (backing.postsSince channel since state).map fun list => (.posts list, state)
  | .postsPage channel page size _ =>
    (backing.page channel page size state).map fun list => (.value .posts list, state)
  | .saveFile file => (backing.saveFile file state).map fun (saved, state) => (.savedFile saved, state)
  | .files post withDeleted _ =>
    (backing.files post withDeleted state).map fun files => (.value .fileInfos files, state)
  | .deleteFiles post => (backing.deleteFiles post state).map fun state => (.deletedFiles post, state)
  | .memberCount channel _ =>
    (backing.memberCount channel state).map fun count => (.value .memberCounts count, state)
  | .members channel => (backing.members channel state).map fun members => (.members members, state)
  | .membersOfUser team user =>
    (backing.membersOfUser team user state).map fun members => (.members members, state)
  | .updateMember member =>
    (backing.updateMember member state).map fun (updated, state) => (.updatedMember updated, state)

end Backing

end ChatNotify.Cache
