import ChatNotify.Chat.Post

namespace ChatNotify.Cache

/-- The kinds of cached values. -/
inductive Namespace where
  /-- When a channel last changed. -/
  | lastPostTime
  /-- The first pages of channels. -/
  | posts
  /-- The files of posts. -/
  | fileInfos
  /-- How many members channels have. -/
  | memberCounts
  deriving Repr, DecidableEq

namespace Namespace

/-- All namespaces, in the order in which they are cleared. -/
def all : List Namespace := [.lastPostTime, .posts, .fileInfos, .memberCounts]

/-- The name of the namespace. -/
def text : Namespace → String
  | .lastPostTime => "last_post_time"
  | .posts => "posts"
  | .fileInfos => "file_infos"
  | .memberCounts => "member_counts"

/-- The namespace of that name. -/
def ofText? (text : String) : Option Namespace :=
  all.find? (·.text = text)

/-- What the values of a namespace are found by: a channel, a channel and a page size, a post and
whether deleted files are wanted, or a channel. -/
@[reducible] def Key : Namespace → Type
  | .lastPostTime => Id
  | .posts => Id × Nat
  | .fileInfos => Id × Bool
  | .memberCounts => Id

/-- The values of a namespace. -/
@[reducible] def Value : Namespace → Type
  | .lastPostTime => Instant
  | .posts => PostList
  | .fileInfos => List File
  | .memberCounts => Nat

instance : (space : Namespace) → DecidableEq space.Key
  | .lastPostTime => inferInstanceAs (DecidableEq Id)
  | .posts => inferInstanceAs (DecidableEq (Id × Nat))
  | .fileInfos => inferInstanceAs (DecidableEq (Id × Bool))
  | .memberCounts => inferInstanceAs (DecidableEq Id)

end Namespace

/-- The sizes of pages that are cached. -/
def pageSizes : List Nat := [30, 60]

/-- Only first pages of certain sizes are cached. -/
def isCacheablePage (page size : Nat) : Bool :=
  page = 0 && size ∈ pageSizes

/-- What can be dropped from the cache. -/
inductive Target where
  | lastPostTime (channel : Id)
  /-- The first pages of a channel, of every size. -/
  | posts (channel : Id)
  | fileInfos (post : Id) (withDeleted : Bool)
  | memberCount (channel : Id)
  /-- The whole namespace. -/
  | all (space : Namespace)
  deriving Repr, DecidableEq

namespace Target

/-- The namespace in which the target lies. -/
def space : Target → Namespace
  | .lastPostTime _ => .lastPostTime
  | .posts _ => .posts
  | .fileInfos .. => .fileInfos
  | .memberCount _ => .memberCounts
  | .all space => space

/-- The lists of files of a post, with and without those deleted. -/
def fileInfosOf (post : Id) : List Target :=
  [.fileInfos post false, .fileInfos post true]

/-- The text that stands for a target. -/
def text : Target → String
  | .lastPostTime channel => "last_post_time:" ++ channel.text
  | .posts channel => "posts:" ++ channel.text
  | .fileInfos post withDeleted =>
    "file_infos:" ++ post.text ++ ":" ++ (if withDeleted then "true" else "false")
  | .memberCount channel => "member_counts:" ++ channel.text
  | .all space => space.text ++ ":*"

end Target

end ChatNotify.Cache
