import ChatNotify.Text.Digits
import ChatNotify.Text.Lowercase
import ChatNotify.Text.Shortest
import ChatNotify.Word

namespace ChatNotify.Settings

/-- A value. A key occurs at most once in a table that is built by `put`. -/
inductive Value where
  | null
  | bool (value : Bool)
  | integer (value : Int)
  | real (value : Float)
  | text (value : String)
  | list (elements : List Value)
  | table (members : List (String × Value))
  deriving Repr, Inhabited

namespace Value

/-- The members of a table; no other value has any. -/
def members : Value → List (String × Value)
  | .table members => members
  | _ => []

/-- The elements of a list; no other value has any. -/
def elements : Value → List Value
  | .list elements => elements
  | _ => []

/-- Changes the value of a key, which is null if it was not there. -/
def alter (key : String) (change : Value → Value) :
    List (String × Value) → List (String × Value)
  | [] => [(key, change .null)]
  | (name, value) :: rest =>
    if name = key then (name, change value) :: rest else (name, value) :: alter key change rest

/-- Gives a key a value. -/
def put (key : String) (value : Value) (members : List (String × Value)) : List (String × Value) :=
  alter key (fun _ => value) members

mutual

/-- Puts a value on another one. A table without keys takes the place of nothing but null. -/
def overlay (value base : Value) : Value :=
  match value with
  | .table [] =>
    match base with
    | .null => .table []
    | base => base
  | .table (member :: members) => .table (overlayAll (member :: members) base.members)
  | value => value

/-- Puts the members of a table on those of another one. -/
def overlayAll (members base : List (String × Value)) : List (String × Value) :=
  match members with
  | [] => base
  | (key, value) :: members => overlayAll members (alter key (overlay value) base)

end

/-- The truth value that a word stands for. -/
def ofSwitch? (word : String) : Option Bool :=
  if word ∈ ["true", "on", "yes"] then some true
  else if word ∈ ["false", "off", "no"] then some false
  else none

/-- A truth value. -/
def bool? : Value → Option Bool
  | .bool value => some value
  | .integer value => some (value ≠ 0)
  | .real value => some (value != 0)
  | .text word =>
    let word := Text.lowercase word
    if word = "1" then some true else if word = "0" then some false else ofSwitch? word
  | .null | .list _ | .table _ => none

/-- A number that fits into 64 bits. Fractions are rounded, a half away from zero, and cut to the range. -/
def count? : Value → Option Nat
  | .bool value => some value.toNat
  | .integer value => if 0 ≤ value then some value.toNat else none
  | .real value => some value.round.toUInt64.toNat
  | .text word =>
    match ofSwitch? (Text.lowercase word) with
    | some value => some value.toNat
    | none => (Text.count? word.toList).filter (· < wordCount)
  | .null | .list _ | .table _ => none

/-- A text. -/
def text? : Value → Option String
  | .bool value => some (if value then "true" else "false")
  | .integer value =>
    let sign := if value < 0 then "-" else ""
    some (sign ++ Text.padded 1 value.natAbs)
  | .real value => some (Text.ofDouble value)
  | .text word => some word
  | .null | .list _ | .table _ => none

/-- A setting that may be null. -/
def optional? {α : Type} (read : Value → Option α) : Value → Option (Option α)
  | .null => some none
  | value => (read value).map some

/-- The fields of a record, which may be given as a list of values in their order. -/
def record? (names : List String) : Value → Option (List (String × Value))
  | .table members => some members
  | .list elements => some (names.zip elements)
  | _ => none

/-- A field that has a default. -/
def defaulted {α : Type} (fields : List (String × Value)) (name : String) (default : α)
    (read : Value → Option α) : Option α :=
  match fields.lookup name with
  | some value => read value
  | none => some default

end Value

end ChatNotify.Settings
