import ChatNotify.Chat.Post
import ChatNotify.Markup.Document
import ChatNotify.Mention.Keyword
import ChatNotify.Mention.Mentions
import ChatNotify.Text.Alphanumeric
import ChatNotify.Text.Lowercase
import ChatNotify.Text.Search

namespace ChatNotify.Mention

/-- Holds of the characters that words consist of. -/
def isWordChar (c : Char) : Bool :=
  c.isAlphanumeric || c = ':' || c = '.' || c = '-' || c = '_' || c = '@'

/-- Holds of the punctuation that may stand at the ends of a word without belonging to it. -/
def isEdge (c : Char) : Bool :=
  c = ':' || c = '.' || c = '-' || c = '_'

/-- Holds of the punctuation between the pieces of a word. -/
def isJoint (c : Char) : Bool :=
  c = '.' || c = '-' || c = ':'

/-- Holds of the names of emoji, which stand between colons. -/
def isEmoji (word : List Char) : Bool :=
  1 < word.length && word.head? = some ':' && word.getLast? = some ':'

/-- The words of a fragment: its maximal runs of word characters, without emoji, and without
punctuation in front. -/
def words (fragment : List Char) : List (List Char) :=
  (((fragment.splitOnP fun c => !isWordChar c).filter fun word =>
    !word.isEmpty && !isEmoji word).map fun word => word.dropWhile isEdge).filter fun word =>
      !word.isEmpty

/-- The forms of a word: the word itself, and then with one more character of punctuation taken off
its end each time; the last one is not empty unless the word is. -/
def forms (word : List Char) : List (List Char) :=
  word ::
    if 1 < word.length && word.getLast?.any isEdge then forms word.dropLast else []
termination_by word.length
decreasing_by simp_all; omega

/-- The pieces of a word between joints, if it has any. -/
def pieces (word : List Char) : List (List Char) :=
  if word.any isJoint then (word.splitOnP isJoint).filter fun piece => !piece.isEmpty else []

/-- What a word, or a part of it, turns out to be. -/
inductive Finding where
  | here
  | channel (users : List Id)
  | all (users : List Id)
  /-- A keyword, with its users; `token` is the text in lower case without at signs in front. -/
  | keyword (users : List Id) (token : String)
  /-- A keyword beyond ASCII that occurs inside the word. -/
  | inside (users : List Id)
  /-- A name behind an at sign that belongs to nobody known. -/
  | unknown (name : String)
  deriving Repr, DecidableEq

/-- What a form is bound to: a reserved word in any case, else the keyword that its lower case is,
else the keyword that it is itself. -/
def bound? (index : KeywordIndex) (form : List Char) : Option Finding :=
  let lower := Text.lowercaseChars form
  let keyword := String.ofList lower
  if keyword = Reserved.here then some .here
  else if keyword = Reserved.channel then some (.channel ((index.get? Reserved.channel).getD []))
  else if keyword = Reserved.all then some (.all ((index.get? Reserved.all).getD []))
  else
    ((index.get? keyword).or (index.get? (String.ofList form))).map fun users =>
      .keyword users (String.ofList (lower.dropWhile (· = '@')))

/-- The name in a word: without punctuation at the end and at signs in front, in lower case. -/
def nameOf (word : List Char) : String :=
  String.ofList (Text.lowercaseChars ((Text.trimEndBy isEdge word).dropWhile (· = '@')))

/-- At signs in front of a word and punctuation at its end do not count for its name. -/
theorem nameOf_append {signs core edges : List Char} (hsigns : ∀ c ∈ signs, c = '@') (hhead : core.head? ≠ some '@')
    (hlast : ∀ c ∈ core.getLast?, isEdge c = false) (hedges : ∀ c ∈ edges, isEdge c = true) :
    nameOf (signs ++ core ++ edges) = String.ofList (Text.lowercaseChars core) := by
  have hend : ∀ c ∈ (signs ++ core).getLast?, isEdge c = false := by
    intro c hc
    rw [List.getLast?_append, Option.mem_def, Option.or_eq_some_iff] at hc
    rcases hc with hc | ⟨-, hc⟩
    · exact hlast c hc
    · obtain rfl := hsigns c (List.mem_of_getLast? hc)
      rfl
  have hcore : (signs ++ core).dropWhile (· = '@') = core := by
    rw [List.dropWhile_append_of_pos (by simpa using hsigns)]
    cases core with
    | nil => rfl
    | cons c rest => exact List.dropWhile_cons_of_neg (by simpa using hhead)
  rw [nameOf, Text.trimEndBy_append hedges, Text.trimEndBy_of_getLast? hend, hcore]

/-- The findings of a piece of a word. -/
def pieceFindings (index : KeywordIndex) (piece : List Char) : List Finding :=
  match bound? index piece with
  | some finding => [finding]
  | none =>
    if piece.head? = some '@' && !isReserved piece then [.unknown (nameOf piece)] else []

/-- The findings of a word as a whole or in pieces: the longest form that is bound, or else the name
that it is, or else what its pieces are. -/
def wholeFindings (index : KeywordIndex) (word : List Char) : List Finding :=
  match (forms word).findSome? (bound? index) with
  | some finding => [finding]
  | none =>
    if word.head? = some '@' && !isReserved (Text.trimEndBy isEdge word) then
      [.unknown (nameOf word)]
    else (pieces word).flatMap (pieceFindings index)

/-- The keywords beyond ASCII that occur in a word, as far as they belong to someone. -/
def insideFindings (index : KeywordIndex) (word : List Char) : List Finding :=
  index.entries.filterMap fun (keyword, users) =>
    if !users.isEmpty && keyword.toList.any (128 ≤ ·.val) && Text.occursIn keyword.toList word then
      some (.inside users)
    else none

/-- The findings of a word. -/
def wordFindings (index : KeywordIndex) (word : List Char) : List Finding :=
  wholeFindings index word ++ insideFindings index word

/-- The findings of a fragment of plain text. -/
def fragmentFindings (index : KeywordIndex) (fragment : String) : List Finding :=
  (words fragment.toList).flatMap (wordFindings index)

/-- The findings of a field, which is marked-up text. -/
def fieldFindings (index : KeywordIndex) (field : String) : List Finding :=
  if field = "" then [] else (Markup.textFragments field).flatMap (fragmentFindings index)

/-- Takes a finding into account. A name counts once, and only if something is left of it. -/
def record (mentions : Mentions) : Finding → Mentions
  | .here => { mentions with here := true }
  | .channel users => { mentions with channel := true }.addAll users .channel
  | .all users => { mentions with all := true }.addAll users .channel
  | .keyword users _ | .inside users => mentions.addAll users .keyword
  | .unknown name =>
    if name = "" || name ∈ mentions.potential then mentions
    else { mentions with potential := mentions.potential ++ [name] }

/-- The tokens of the keywords found. -/
def tokens (findings : List Finding) : List String :=
  findings.filterMap fun
    | .keyword _ token => some token
    | _ => none

/-- Holds when the name and a dot stand at the head of a token. -/
def isDottedPrefix (name token : String) : Bool :=
  (name.toList ++ ['.']).isPrefixOf token.toList

/-- The mentions that findings amount to. A name is left out if it is the part in front of a dot of a
keyword found anywhere. -/
def account (findings : List Finding) : Mentions :=
  let mentions := findings.foldl record {}
  { mentions with
    potential := mentions.potential.filter fun name =>
      !(tokens findings).any (isDottedPrefix name) }

/-- The mentions in fragments of plain text. -/
def inFragments (index : KeywordIndex) (fragments : List String) : Mentions :=
  account (fragments.flatMap (fragmentFindings index))

/-- The mentions in marked-up texts. -/
def inFields (index : KeywordIndex) (fields : List String) : Mentions :=
  account (fields.flatMap (fieldFindings index))

/-- The mentions in a post. -/
def inPost (index : KeywordIndex) (post : Post) : Mentions :=
  inFields index post.mentionFields

end ChatNotify.Mention
