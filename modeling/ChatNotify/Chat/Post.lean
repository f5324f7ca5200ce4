import ChatNotify.Id
import ChatNotify.Json.Record
import ChatNotify.Table
import ChatNotify.Time.Instant

namespace ChatNotify

/-- The kinds of posts. A kind that is not known keeps its name. -/
inductive PostKind where
  | regular
  | headerChange
  | purposeChange
  | displayNameChange
  | addRemove
  | autoResponder
  | other (name : String)
  deriving Repr, DecidableEq, Inhabited

namespace PostKind

/-- The written form. -/
def text : PostKind → String
  | .regular => ""
  | .headerChange => "system_header_change"
  | .purposeChange => "system_purpose_change"
  | .displayNameChange => "system_displayname_change"
  | .addRemove => "system_add_remove"
  | .autoResponder => "system_auto_responder"
  | .other name => name

/-- The kind with that written form. -/
def ofText : String → PostKind
  | "" => .regular
  | "system_header_change" => .headerChange
  | "system_purpose_change" => .purposeChange
  | "system_displayname_change" => .displayNameChange
  | "system_add_remove" => .addRemove
  | "system_auto_responder" => .autoResponder
  | name => .other name

/-- Holds of posts that the system writes. -/
def isSystem (kind : PostKind) : Bool :=
  "system_".toList.isPrefixOf kind.text.toList

end PostKind

/-- Text attached to a post. -/
structure Attachment where
  pretext : String := ""
  text : String := ""
  fallback : String := ""
  deriving Repr

/-- Further properties of a post. -/
structure PostProperties where
  attachments : List Attachment := []
  overrideUsername : Option String := none
  fromWebhook : Bool := false
  deriving Repr

/-- Reads an attachment, whose fields may all be missing. -/
def Attachment.ofJson? (json : Json) : Option Attachment := do
  let fields ← json.record? ["pretext", "text", "fallback"]
  some
    { pretext := ← Json.defaulted fields "pretext" "" Json.text?
      text := ← Json.defaulted fields "text" "" Json.text?
      fallback := ← Json.defaulted fields "fallback" "" Json.text? }

/-- Reads a mark: a truth value, null, which does not count, or a text, which counts if it is
`true`. -/
def readMark? : Json → Option Bool
  | .bool value => some value
  | .string text => some (text = "true")
  | .null => some false
  | _ => none

/-- Reads the properties of a post, which may all be missing. -/
def PostProperties.ofJson? (json : Json) : Option PostProperties := do
  let fields ← json.record? ["attachments", "override_username", "from_webhook"]
  some
    { attachments :=
        ← Json.defaulted fields "attachments" [] (Json.list? Attachment.ofJson?)
      overrideUsername :=
        ← Json.defaulted fields "override_username" none (Json.optional? Json.text?)
      fromWebhook := ← Json.defaulted fields "from_webhook" false readMark? }

/-- A post. -/
structure Post where
  id : Id
  channel : Id
  user : Id
  root : Option Id := none
  message : String := ""
  kind : PostKind := .regular
  properties : PostProperties := {}
  createAt : Instant := .epoch
  updateAt : Instant := .epoch
  deriving Repr

namespace Post

/-- The texts of a post in which users may be mentioned: the message, then the pretext and the text of
every attachment, as far as they are not empty. -/
def mentionFields (post : Post) : List String :=
  (post.message :: post.properties.attachments.flatMap fun attachment =>
    [attachment.pretext, attachment.text]).filter (· ≠ "")

end Post

/-- Posts in an order, which may name a post more than once. -/
structure PostList where
  order : List Id := []
  posts : Table Id Post := ∅

namespace PostList

/-- Adds a post at the end. -/
def push (list : PostList) (post : Post) : PostList :=
  { order := list.order ++ [post.id], posts := list.posts.insert post.id post }

/-- The posts in the order of the list. -/
def ofList (posts : List Post) : PostList :=
  posts.foldl push {}

/-- The number of places in the order. -/
def size (list : PostList) : Nat :=
  list.order.length

/-- Holds when there is no post. -/
def isEmpty (list : PostList) : Bool :=
  list.order.isEmpty

/-- The time of the latest change to one of the posts. -/
def latestUpdate? (list : PostList) : Option Instant :=
  list.posts.values.foldl (fun latest post =>
    some ((latest.map fun latest => latest.latest post.updateAt).getD post.updateAt)) none

end PostList

/-- A file that may belong to a post. -/
structure File where
  id : Id
  post : Option Id := none
  name : String := ""
  size : Nat := 0
  deletedAt : Option Instant := none
  deriving Repr

end ChatNotify
