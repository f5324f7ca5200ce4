import ChatNotify.Chat.Post
import ChatNotify.Failure
import ChatNotify.Journal
import ChatNotify.Notification.Plan

namespace ChatNotify

/-- The directories of users and groups. -/
structure Directory where
  /-- The users of those names, by name. -/
  resolve : List String → Except StoreError (Table String User)
  /-- The members of the groups that a channel is reserved for. -/
  groupMembers : Id → Except StoreError (List Id)

/-- Keeps the first of the users with one identifier. -/
def distinctUsers : List User → List User
  | [] => []
  | user :: rest => user :: (distinctUsers rest).filter (·.id ≠ user.id)

namespace Suggestions

/-- The users behind the names who could join the channel: active ones, no bots, no members. -/
def candidates (snapshot : Snapshot) (names : List String) (resolved : Table String User) : List User :=
  distinctUsers ((names.filterMap resolved.get?).filter fun user =>
    user.isActive && !user.isBot && !snapshot.isMember user.id)

/-- Holds if names in the post may lead to suggestions: not in conversations, whose members are fixed,
and not in the posts of the system. -/
def areSought (snapshot : Snapshot) (post : Post) : Bool :=
  !snapshot.channel.kind.isConversation && !post.kind.isSystem

/-- The users whom the names suggest. -/
def find (directory : Directory) (snapshot : Snapshot) (post : Post) (names : List String) :
    Logged Suggestions := do
  if names.isEmpty || !areSought snapshot post then
    return {}
  match ← Logged.ask .resolveNames (directory.resolve names) with
  | .error _ =>
    Logged.warn .namesNotResolved
    return {}
  | .ok resolved =>
    let candidates := candidates snapshot names resolved
    if !snapshot.channel.groupConstrained then
      return { outOfChannel := candidates }
    match ← Logged.ask .groupMembers (directory.groupMembers snapshot.channel.id) with
    | .error _ =>
      Logged.warn .groupsNotLoaded
      return {}
    | .ok members =>
      return {
        outOfChannel := candidates.filter fun user => user.id ∈ members
        outOfGroup := candidates.filter fun user => user.id ∉ members }

end Suggestions

end ChatNotify
