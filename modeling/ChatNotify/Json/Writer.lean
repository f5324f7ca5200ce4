import ChatNotify.Json.Basic

namespace ChatNotify.Json

/-- The digits of a code unit in an escape. -/
def unitDigits (code : Nat) : List Char :=
  let digits := Nat.toDigits 16 code
  List.replicate (4 - digits.length) '0' ++ digits

/-- A character as it stands in a string: quotes, backslashes and control characters are escaped. -/
def writeChar (c : Char) : List Char :=
  match c with
  | '"' => ['\\', '"']
  | '\\' => ['\\', '\\']
  | '\n' => ['\\', 'n']
  | '\r' => ['\\', 'r']
  | '\t' => ['\\', 't']
  | '\x08' => ['\\', 'b']
  | '\x0c' => ['\\', 'f']
  | c => if c.val < 0x20 then '\\' :: 'u' :: unitDigits c.toNat else [c]

/-- A string with its quotes. -/
def writeString (text : String) : String :=
  "\"" ++ String.ofList (text.toList.flatMap writeChar) ++ "\""

mutual

/-- The text of a value. -/
def render : Json → String
  | .null | .illFormed => "null"
  | .bool value => if value then "true" else "false"
  | .integer value => toString value
  | .decimal negative digits exponent =>
    (if negative then "-" else "") ++ toString digits ++ "e" ++ toString exponent
  | .string text => writeString text
  | .array elements => "[" ++ ",".intercalate (renderAll elements) ++ "]"
  | .object members => "\x7b" ++ ",".intercalate (renderMembers members) ++ "\x7d"

/-- The texts of several values. -/
def renderAll : List Json → List String
  | [] => []
  | value :: rest => value.render :: renderAll rest

/-- The texts of the members of an object. -/
def renderMembers : List (String × Json) → List String
  | [] => []
  | (name, value) :: rest => (writeString name ++ ":" ++ value.render) :: renderMembers rest

end

end ChatNotify.Json
