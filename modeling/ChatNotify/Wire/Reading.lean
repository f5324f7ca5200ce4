import ChatNotify.Id
import ChatNotify.Json.Record
import ChatNotify.Time.Instant

namespace ChatNotify.Wire

/-- Why a document was not read. -/
inductive Refusal where
  /-- The document has not the shape that is asked for. -/
  | malformed
  /-- A value is none of its kind, which has that name. -/
  | rejected (kind : String)
  deriving Repr, DecidableEq

/-- What is read, or why it was not. -/
abbrev Reading (α : Type) := Except Refusal α

/-- How to read a value. -/
abbrev Reader (α : Type) := Json → Reading α

variable {α β : Type}

/-- A value that should be there. -/
def expect : Option α → Reading α
  | some value => .ok value
  | none => .error .malformed

/-- A value of a kind that has a name. -/
def accept (kind : String) : Option α → Reading α
  | some value => .ok value
  | none => .error (.rejected kind)

/-- A field that is there and not null. -/
def field? (json : Json) (name : String) : Option Json :=
  match json.get? name with
  | some .null => none
  | other => other

/-- A field that may be missing. -/
def optional (json : Json) (name : String) (read : Reader α) : Reading (Option α) :=
  match field? json name with
  | some value => some <$> read value
  | none => .ok none

/-- A field that has a default. -/
def defaulted (json : Json) (name : String) (default : α) (read : Reader α) : Reading α :=
  return (← optional json name read).getD default

/-- A field that has to be there. -/
def required (json : Json) (name : String) (read : Reader α) : Reading α := do
  read (← expect (field? json name))

/-- A text. -/
def text : Reader String := fun json => expect json.text?

/-- A truth value. -/
def bool : Reader Bool := fun json => expect json.bool?

/-- A number that fits into 64 bits. -/
def nat : Reader Nat := fun json => expect (json.nat?)

/-- An identifier. -/
def id : Reader Id := fun json => do expect (Id.ofText? (← text json))

/-- An instant: the nanoseconds since 1970 as a text. -/
def instant : Reader Instant := fun json => do
  let chars := (← text json).toList
  match chars with
  | '-' :: digits => return ⟨-(← expect (Text.ofDigits? 10 digits) : Nat)⟩
  | digits => return ⟨(← expect (Text.ofDigits? 10 digits) : Nat)⟩

/-- A span of time: seconds and nanoseconds. -/
def span : Reader Span := fun json => do
  let seconds ← defaulted json "secs" 0 nat
  let nanos ← defaulted json "nanos" 0 nat
  return ⟨seconds * nanosPerSecond + nanos⟩

/-- A list. -/
def list (read : Reader α) : Reader (List α)
  | .array elements => elements.mapM read
  | _ => .error .malformed

/-- A list of two. -/
def pair (first : Reader α) (second : Reader β) : Reader (α × β)
  | .array [a, b] => return (← first a, ← second b)
  | _ => .error .malformed

/-- Values by names. -/
def byName (read : Reader α) : Reader (List (String × α))
  | .object members => members.mapM fun member => return (member.1, ← read member.2)
  | _ => .error .malformed

/-- Values by identifiers. -/
def byId (read : Reader α) : Reader (Table Id α) := fun json => do
  let entries ← byName read json
  .ofList <$> entries.mapM fun entry => return (← expect (Id.ofText? entry.1), entry.2)

end ChatNotify.Wire
