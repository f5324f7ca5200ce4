import ChatNotify.Digest.Queue
import ChatNotify.Mention.Scan
import ChatNotify.Notification.Policy

namespace ChatNotify

/-- What notification has to know, as its collaborators answer. -/
structure Notifier where
  policy : Policy := {}
  directory : Directory
  memberCount : Id → Except StoreError Nat
  profiles : Id → Except StoreError (Table Id User)
  members : Id → Except StoreError (List Member)
  presence : Id → Except StoreError Presence
  /-- Whether the user may mention the whole channel. -/
  mayMentionChannel : Id → Id → Except StoreError Bool

namespace Notifier

/-- Asks a question whose failure ends the work. -/
def demand {α : Type} (question : Question) (answer : Except StoreError α) :
    ExceptT ServiceError Logged α := do
  match ← (Logged.ask question answer : Logged _) with
  | .ok value => return value
  | .error error => throw (.store error)

/-- The presence of a user; one that is not known counts as offline. -/
def presenceOf (notifier : Notifier) (user : Id) : Logged Presence := do
  match ← Logged.ask .presence (notifier.presence user) with
  | .ok presence => return presence
  | .error _ =>
    Logged.warn .presenceUnknown
    return .offline

/-- The state of a channel. -/
def snapshot (notifier : Notifier) (channel : Channel) : ExceptT ServiceError Logged Snapshot := do
  let memberCount ← demand .memberCount (notifier.memberCount channel.id)
  let profiles ← demand .profiles (notifier.profiles channel.id)
  let members ← demand .members (notifier.members channel.id)
  let presence ← profiles.keys.mapM fun user => do
    return (user, ← (notifier.presenceOf user : Logged _))
  return {
    channel := channel
    profiles := profiles
    preferences := Table.ofList (members.map fun member => (member.user, member.preferences))
    presence := Table.ofList presence
    memberCount := memberCount }

/-- The report on a post that is brought to the wrong channel. -/
def misplacedMessage (post : Post) (channel : Channel) : String :=
  "post " ++ post.id.text ++ " does not belong to channel " ++ channel.id.text

/-- The plan for a post. -/
def plan (notifier : Notifier) (post : Post) (channel : Channel) (thread : Option Thread) :
    ExceptT ServiceError Logged Plan := do
  if post.channel ≠ channel.id then
    throw (.validation (misplacedMessage post channel))
  let snapshot ← notifier.snapshot channel
  let permitted ← demand .permission (notifier.mayMentionChannel post.user channel.id)
  let allowed := notifier.policy.allowsChannelMentions post.kind snapshot.memberCount permitted
  let keywords := KeywordIndex.build snapshot.profiles allowed snapshot.preferences snapshot.presence
  let mentions := Mention.inPost keywords post
  (Plan.make notifier.directory snapshot post thread keywords allowed mentions : Logged Plan)

/-- Queues the emails of a plan. -/
def queueEmails (queues : Digest.Queues) (plan : Plan) (post : Post) (team : String) : Digest.Queues :=
  (plan.recipients.filter (·.email)).foldl
    (fun queues recipient => queues.add recipient.user { post := post, team := team }) queues

/-- Plans the notifications of a post and queues its emails. -/
def notify (notifier : Notifier) (queues : Digest.Queues) (post : Post) (channel : Channel)
    (team : String) (thread : Option Thread) :
    Logged (Except ServiceError Plan × Digest.Queues) := do
  match ← (notifier.plan post channel thread).run with
  | .ok plan => return (.ok plan, queueEmails queues plan post team)
  | .error error => return (.error error, queues)

end Notifier

end ChatNotify
