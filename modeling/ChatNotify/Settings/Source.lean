import ChatNotify.Settings.Path
import ChatNotify.Toml.Reader

namespace ChatNotify.Settings

/-- The power of ten with that exponent, as a double. -/
def powerOfTen (exponent : Nat) : Float :=
  Float.ofScientific 1 false exponent

/-- The largest exponent of a power of ten that is a double. -/
def largestPower : Nat := 308

/-- The leading digits of a number as far as they fit into 64 bits, and the exponent that makes up for
the others. -/
def leadingDigits (fuel : Nat) (digits : Nat) (exponent : Int) : Nat × Int :=
  match fuel with
  | 0 => (digits, exponent)
  | fuel + 1 =>
    if digits < wordCount then (digits, exponent)
    else leadingDigits fuel (digits / 10) (exponent + 1)

/-- The double that `digits · 10 ^ exponent` is read as, if it is finite. The leading digits are
rounded to a double, and then the product with a power of ten is. -/
def scaled? (digits : Nat) (exponent : Int) : Option Float :=
  let (digits, exponent) := leadingDigits (Nat.toDigits 10 digits).length digits exponent
  let size := Float.ofNat digits
  if digits = 0 || exponent < -2 * largestPower then some 0
  else if exponent < -largestPower then
    some (size / powerOfTen largestPower / powerOfTen (exponent.natAbs - largestPower))
  else if exponent < 0 then some (size / powerOfTen exponent.natAbs)
  else if exponent ≤ largestPower then
    let value := size * powerOfTen exponent.natAbs
    if value.isFinite then some value else none
  else none

/-- The value of a number with a sign. -/
def signed (negative : Bool) (size : Float) : Float :=
  if negative then -size else size

/-- The value that a JSON value stands for. Integers of more than 64 bits count as fractions, and the
last member of a name is the one that counts. There is none for a value that is nested too deeply. -/
def Value.ofJson? (levels : Nat) (json : Json) : Option Value :=
  match json with
  | .null => some .null
  | .bool value => some (.bool value)
  | .integer value =>
    if isSignedWord value then some (.integer value)
    else (scaled? value.natAbs 0).map fun size => .real (signed (value < 0) size)
  | .decimal negative digits exponent =>
    (scaled? digits exponent).map fun size => .real (signed negative size)
  | .string word => some (.text word)
  | .array elements =>
    match levels with
    | 0 => none
    | levels + 1 => (elements.mapM (ofJson? levels)).map .list
  | .object members =>
    match levels with
    | 0 => none
    | levels + 1 => do
      let members ← members.mapM fun member => do
        some (member.1, ← ofJson? levels member.2)
      some (.table (members.foldl (fun table member => put member.1 member.2 table) []))
  | .illFormed => none

/-- How many arrays and objects may stand in each other. -/
def deepest : Nat := 127

/-- How a document is written. -/
inductive Format where
  | json
  | toml
  deriving Repr, DecidableEq

/-- A document with settings. -/
structure Document where
  format : Format
  text : String
  deriving Repr

/-- The outermost table of a document. A byte order mark at its start does not matter. -/
def Document.read? (document : Document) : Option (List (String × Value)) :=
  let text :=
    match document.text.toList with
    | '\ufeff' :: rest => String.ofList rest
    | _ => document.text
  match document.format with
  | .toml => Toml.parse? text
  | .json => do
    match ← (Json.parse? text).bind (Value.ofJson? deepest) with
    | .table members => some members
    | _ => none

/-- What the names of the variables begin with, in either case. -/
def variablePrefix : String := "herald__"

/-- Replaces what separates the parts of a name by dots. -/
def separateParts : List Char → List Char
  | '_' :: '_' :: rest => '.' :: separateParts rest
  | c :: rest => c :: separateParts rest
  | [] => []

/-- The setting that a variable stands for, if it stands for one. -/
def ofVariable? (assigned : String × String) : Option (String × Value) :=
  let name := (Text.lowercase assigned.1).toList
  let start := variablePrefix.toList
  if start.isPrefixOf name then
    some (String.ofList (separateParts (name.drop start.length)), .text assigned.2)
  else none

/-- Puts settings, whose keys are places, on others. -/
def addLayer (settings : Value) (layer : List (String × Value)) : Value :=
  layer.foldl (fun settings member => (Path.ofText member.1).alter (Value.overlay member.2) settings)
    settings

/-- The file that is asked for. -/
inductive Requested where
  | nothing
  | missing
  | document (document : Document)
  deriving Repr

/-- All that settings come from. -/
structure Sources where
  defaults : Option Document := none
  localFile : Option Document := none
  requested : Requested := .nothing
  /-- The variables and their values. -/
  environment : List (String × String) := []
  deriving Repr

namespace Sources

/-- The table of a document that may be missing. -/
def readOptional? : Option Document → Option (List (String × Value))
  | some document => document.read?
  | none => some []

/-- The layers, from the lowest one on. -/
def layers? (sources : Sources) : Option (List (List (String × Value))) := do
  let defaults ← readOptional? sources.defaults
  let localFile ← readOptional? sources.localFile
  let requested ←
    match sources.requested with
    | .nothing => some []
    | .missing => none
    | .document document => document.read?
  some [defaults, localFile, requested, sources.environment.filterMap ofVariable?]

/-- The settings as all layers together have them. -/
def read? (sources : Sources) : Option Value :=
  sources.layers?.map (List.foldl addLayer (.table []))

end Sources

end ChatNotify.Settings
