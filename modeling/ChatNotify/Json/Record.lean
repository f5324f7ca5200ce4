import ChatNotify.Json.Basic
import ChatNotify.Table
import ChatNotify.Word

namespace ChatNotify.Json

/-- The fields of a record that are there, by name. A record is an object, whose other members do
not matter and in which no field occurs twice, or an array that holds the fields in their order and
may end early. -/
def record? (names : List String) : Json → Option (Table String Json)
  | .object members =>
    let fields := members.filter fun member => member.1 ∈ names
    if (fields.map Prod.fst).Nodup then some (Table.ofList fields) else none
  | .array elements =>
    if elements.length ≤ names.length then some (Table.ofList (names.zip elements)) else none
  | _ => none

/-- A field that has to be there. -/
def required {α : Type} (fields : Table String Json) (name : String) (read : Json → Option α) :
    Option α :=
  (fields.get? name).bind read

/-- A field that has a default. -/
def defaulted {α : Type} (fields : Table String Json) (name : String) (default : α)
    (read : Json → Option α) : Option α :=
  match fields.get? name with
  | some value => read value
  | none => some default

/-- A text. -/
def text? : Json → Option String
  | .string text => some text
  | _ => none

/-- A truth value. -/
def bool? : Json → Option Bool
  | .bool value => some value
  | _ => none

/-- An integer without a sign that fits into 64 bits. -/
def nat? : Json → Option Nat
  | .integer value => if isWord value then some value.toNat else none
  | _ => none

/-- An integer with a sign that fits into 64 bits. -/
def int? : Json → Option Int
  | .integer value => if isSignedWord value then some value else none
  | _ => none

/-- A value that may be null. -/
def optional? {α : Type} (read : Json → Option α) : Json → Option (Option α)
  | .null => some none
  | value => (read value).map some

/-- The elements of an array. -/
def list? {α : Type} (read : Json → Option α) : Json → Option (List α)
  | .array elements => elements.mapM read
  | _ => none

/-- A name out of a fixed set, alone or as an object with this one name and null. -/
def name? {α : Type} (ofText? : String → Option α) : Json → Option α
  | .string text => ofText? text
  | .object [(text, .null)] => ofText? text
  | _ => none

/-- A table of texts; of two members with one name the later one counts. -/
def texts? : Json → Option (Table String String)
  | .object members =>
    (members.mapM fun member => (text? member.2).map (member.1, ·)).map Table.ofList
  | _ => none

end ChatNotify.Json
