namespace ChatNotify

/-- A JSON value. The members of an object keep their order, and a name may occur more than once. A
number without fraction and exponent is an integer; every other number keeps its digits. -/
inductive Json where
  | null
  | bool (value : Bool)
  | integer (value : Int)
  /-- The number `±digits · 10^exponent`. -/
  | decimal (negative : Bool) (digits : Nat) (exponent : Int)
  | string (text : String)
  | array (elements : List Json)
  | object (members : List (String × Json))
  /-- A string, or an object with a name, that has half a surrogate pair in it and so is no text. -/
  | illFormed
  deriving Repr, Inhabited

namespace Json

/-- The value of the first member of that name; a value that is no object has none. -/
def get? (json : Json) (name : String) : Option Json :=
  match json with
  | .object members => members.lookup name
  | _ => none

end Json

end ChatNotify
