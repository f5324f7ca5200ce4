import ChatNotify.Cache.Backing
import ChatNotify.Digest.Verdict
import ChatNotify.Notification.Service

namespace ChatNotify

/-- A chat in memory. -/
structure Memory where
  posts : List Post := []
  files : List File := []
  members : List Member := []
  /-- The channels of the teams. -/
  teams : Table String (List Id) := ∅
  users : List User := []
  /-- Who belongs to the channel at hand. -/
  roster : List Id := []
  presence : Table Id Presence := ∅
  /-- Who belongs to the groups that the channel at hand is reserved for. -/
  groupMembers : List Id := []
  /-- Whether authors may mention whole channels. -/
  mayMentionChannel : Bool := true
  /-- The number of members to tell instead of the true one. -/
  memberCount : Option Nat := none
  /-- The intervals that users want between digests. -/
  intervals : Table Id String := ∅
  /-- The questions that fail. -/
  failures : Table Question StoreError := ∅
  /-- How many milliseconds every question takes. -/
  delay : Nat := 0

namespace Memory

/-- The answer to a question, unless it is one of those that fail. -/
def answer {α : Type} (memory : Memory) (question : Question) (value : α) : Except StoreError α :=
  match memory.failures.get? question with
  | some error => .error error
  | none => .ok value

/-- Puts a value in the place of the first one of which `p` holds, or else at the end. -/
def replaceFirst {α : Type} (p : α → Bool) (value : α) : List α → List α
  | [] => [value]
  | first :: rest => if p first then value :: rest else first :: replaceFirst p value rest

/-- The posts of a channel. -/
def postsOf (memory : Memory) (channel : Id) : List Post :=
  memory.posts.filter (·.channel = channel)

/-- The members of a channel. -/
def membersOf (memory : Memory) (channel : Id) : List Member :=
  memory.members.filter (·.channel = channel)

/-- The time of the latest change in a channel. -/
def lastPostTime (memory : Memory) (channel : Id) : Instant :=
  match (memory.postsOf channel).map (·.updateAt) with
  | [] => .epoch
  | first :: rest => rest.foldl Instant.latest first

/-- A page of the posts of a channel, those written last first. -/
def page (memory : Memory) (channel : Id) (page size : Nat) : PostList :=
  let posts := (memory.postsOf channel).mergeSort fun a b => b.createAt ≤ a.createAt
  .ofList ((posts.drop (page * size)).take size)

/-- The files of a post. -/
def filesOf (memory : Memory) (post : Id) (withDeleted : Bool) : List File :=
  memory.files.filter fun file => file.post = some post && (withDeleted || file.deletedAt.isNone)

/-- Marks the files of a post as deleted. -/
def deleteFiles (memory : Memory) (post : Id) : Memory :=
  { memory with
    files := memory.files.map fun file =>
      if file.post = some post then { file with deletedAt := some .epoch } else file }

/-- A user's memberships in the channels of a team. -/
def membersOfUser (memory : Memory) (team : String) (user : Id) : List Member :=
  let channels := (memory.teams.get? team).getD []
  memory.members.filter fun member => member.user = user && member.channel ∈ channels

/-- The memory with a member in the place of the one of the same channel and user. -/
def updateMember (memory : Memory) (member : Member) : Memory :=
  { memory with
    members := replaceFirst (fun other => other.channel = member.channel && other.user = member.user)
      member memory.members }

/-- The users of those names, by name in lower case. -/
def resolve (memory : Memory) (names : List String) : Table String User :=
  let names := names.map Text.lowercase
  .ofList ((memory.users.map fun user => (Text.lowercase user.username, user)).filter fun entry =>
    entry.1 ∈ names)

/-- The users who belong to the channel at hand. -/
def profiles (memory : Memory) : Table Id User :=
  .ofList ((memory.users.filter fun user => user.id ∈ memory.roster).map fun user => (user.id, user))

/-- The memory as the stores behind a cache. -/
def backing : Cache.Backing Memory where
  savePost post memory :=
    memory.answer .savePost (post, { memory with
      posts := replaceFirst (·.id = post.id) post memory.posts })
  lastPostTime channel memory := memory.answer .lastPostTime (memory.lastPostTime channel)
  postsSince channel since memory :=
    memory.answer .postsSince (.ofList ((memory.postsOf channel).filter (since < ·.updateAt)))
  page channel page size memory := memory.answer .posts (memory.page channel page size)
  saveFile file memory := memory.answer .saveFile (file, { memory with files := memory.files ++ [file] })
  files post withDeleted memory := memory.answer .files (memory.filesOf post withDeleted)
  deleteFiles post memory := memory.answer .deleteFiles (memory.deleteFiles post)
  memberCount channel memory :=
    memory.answer .memberCount (memory.memberCount.getD (memory.membersOf channel).length)
  members channel memory := memory.answer .members (memory.membersOf channel)
  membersOfUser team user memory := memory.answer .membersOfUser (memory.membersOfUser team user)
  updateMember member memory := memory.answer .updateMember (member, memory.updateMember member)

/-- The memory as the directories of users and groups. -/
def directory (memory : Memory) : Directory where
  resolve names := memory.answer .resolveNames (memory.resolve names)
  groupMembers _ := memory.answer .groupMembers memory.groupMembers

/-- The memory as what notification has to know. -/
def notifier (memory : Memory) (policy : Policy) : Notifier where
  policy := policy
  directory := memory.directory
  memberCount channel := backing.memberCount channel memory
  profiles _ := memory.answer .profiles memory.profiles
  members channel := backing.members channel memory
  presence user := memory.answer .presence ((memory.presence.get? user).getD .offline)
  mayMentionChannel _ _ := memory.answer .permission memory.mayMentionChannel

/-- The memory as what digests have to know. -/
def sources (memory : Memory) (defaultInterval : Span) : Digest.Sources where
  memberships team user := backing.membersOfUser team user memory
  interval user := memory.answer .emailInterval (memory.intervals.get? user)
  defaultInterval := defaultInterval

end Memory

end ChatNotify
