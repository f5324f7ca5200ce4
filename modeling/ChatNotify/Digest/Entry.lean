import ChatNotify.Chat.Channel
import ChatNotify.Digest.Queue
import ChatNotify.Time.Calendar

namespace ChatNotify.Digest

/-- How much of a post a digest tells. -/
inductive Content where
  | full
  /-- All but the message. -/
  | generic
  deriving Repr, DecidableEq

/-- The name of the setting. -/
def Content.text : Content → String
  | .full => "full"
  | .generic => "generic"

/-- The setting of that name. -/
def Content.ofText? : String → Option Content
  | "full" => some .full
  | "generic" => some .generic
  | _ => none

/-- The short names of the months. -/
def monthNames : List String :=
  ["Jan", "Feb", "Mar", "Apr", "May", "Jun", "Jul", "Aug", "Sep", "Oct", "Nov", "Dec"]

/-- A time as digests show it: day and time of day, UTC. -/
def timeText (instant : Instant) : String :=
  let date := instant.date
  let clock := instant.timeOfDay
  monthNames.getD (date.month - 1) "" ++ " " ++ Text.padded 2 date.day ++ ", "
    ++ Text.padded 2 clock.hour ++ ":" ++ Text.padded 2 clock.minute ++ " UTC"

/-- The address of a post. -/
def link (site : String) (entry : Entry) : String :=
  String.ofList (Text.trimEndBy (· = '/') site.toList) ++ "/" ++ entry.team ++ "/pl/" ++ entry.post.id.text

/-- The text of an entry. -/
def Entry.render (entry : Entry) (channel : Channel) (sender site : String) (content : Content) :
    String :=
  let time := timeText entry.post.createAt
  match content with
  | .full =>
    sender ++ " in " ++ channel.displayName ++ ", " ++ time ++ "\n" ++ entry.post.message ++ "\n"
      ++ link site entry
  | .generic =>
    sender ++ " sent you a message in " ++ channel.displayName ++ ", " ++ time ++ "\n"
      ++ link site entry

end ChatNotify.Digest
