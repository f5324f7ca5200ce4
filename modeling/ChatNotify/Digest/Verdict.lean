import ChatNotify.Chat.Channel
import ChatNotify.Digest.Queue
import ChatNotify.Failure
import ChatNotify.Journal
import ChatNotify.Text.Blank
import ChatNotify.Text.Digits
import ChatNotify.Word

namespace ChatNotify.Digest

/-- What becomes of the entries that wait for a user. -/
inductive Verdict where
  | keep
  | drop
  | deliver
  deriving Repr, DecidableEq

/-- What a digest has to know, as its collaborators answer. -/
structure Sources where
  /-- The memberships of a user in the channels of a team. -/
  memberships : String → Id → Except StoreError (List Member)
  /-- The interval that a user has set, as it was written. -/
  interval : Id → Except StoreError (Option String)
  defaultInterval : Span

/-- Reads a number of seconds that fits into 64 bits, which may have a plus sign in front and white space
around it. -/
def readInterval? (text : String) : Option Span :=
  ((Text.count? (Text.trimBy Char.isBlank text.toList)).filter (· < wordCount)).map Span.ofSeconds

/-- The interval of users who have not set one, when the settings do not say. -/
def standardInterval : Span := .ofSeconds 900

/-- The teams of the entries, in alphabetical order. -/
def teams (batch : List Entry) : List String :=
  ((batch.map (·.team)).mergeSort fun a b => a ≤ b).eraseDups

/-- The verdict that the teams bring about: the first team in which the user has looked since the
start drops the entries, and the first whose memberships cannot be loaded keeps them. -/
def verdictOfTeams (sources : Sources) (user : Id) (start : Instant) :
    List String → Logged (Option Verdict)
  | [] => return none
  | team :: rest => do
    match ← Logged.ask .membersOfUser (sources.memberships team user) with
    | .error _ =>
      Logged.warn .membershipsNotLoaded
      return some .keep
    | .ok members =>
      if members.any (start ≤ ·.lastViewedAt) then return some .drop
      else verdictOfTeams sources user start rest

/-- The interval of a user; the default stands for one that is missing or cannot be read. -/
def intervalOf (sources : Sources) (user : Id) : Logged Span := do
  match ← Logged.ask .emailInterval (sources.interval user) with
  | .error _ =>
    Logged.warn .intervalNotRead
    return sources.defaultInterval
  | .ok text => return (text.bind readInterval?).getD sources.defaultInterval

/-- What becomes of the entries that wait for a user. -/
def verdict (sources : Sources) (now : Instant) (user : Id) (batch : List Entry) : Logged Verdict := do
  match batch with
  | [] => return .keep
  | first :: _ =>
    let start := first.post.createAt
    match ← verdictOfTeams sources user start (teams batch) with
    | some verdict => return verdict
    | none =>
      let interval ← intervalOf sources user
      return if start.after interval < now then .deliver else .keep

end ChatNotify.Digest
