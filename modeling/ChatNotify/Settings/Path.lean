import ChatNotify.Settings.Value

namespace ChatNotify.Settings

/-- A step from a value to a value in it. -/
inductive Step where
  | key (name : String)
  /-- The position in a list; below zero it counts from the end. -/
  | position (place : Int)
  deriving Repr, DecidableEq

/-- The steps from the outermost table to a value. -/
abbrev Path := List Step

/-- Changes the element at a position, and makes room for it with nulls. -/
def Value.alterAt (place : Int) (change : Value → Value) (elements : List Value) : List Value :=
  if 0 ≤ place then
    (elements ++ List.replicate (place.toNat + 1 - elements.length) Value.null).modify place.toNat change
  else
    (List.replicate (place.natAbs - elements.length) Value.null ++ elements).modify
      (elements.length - place.natAbs) change

/-- Changes what a step leads to. A value in which there is no such step makes room for it. -/
def Step.alter (step : Step) (change : Value → Value) (value : Value) : Value :=
  match step with
  | .key name => .table (Value.alter name change value.members)
  | .position place => .list (Value.alterAt place change value.elements)

namespace Path

/-- Changes the value at a place. -/
def alter (path : Path) (change : Value → Value) : Value → Value :=
  path.foldr Step.alter change

/-- Holds of the characters of a key in a place. -/
def isKeyChar (c : Char) : Bool :=
  c.isAlphanum || c = '_' || c = '-'

/-- Reads a position up to its closing bracket. -/
def position? (text : List Char) : Option Step := do
  guard (text.getLast? = some ']')
  let isPadding := fun c => c = ' ' || c = '\t'
  let digits := (text.dropLast.dropWhile isPadding).reverse.dropWhile isPadding |>.reverse
  let place : Int ←
    match digits with
    | '-' :: digits => (Text.ofDigits? 10 digits).map fun value => -(value : Int)
    | digits => (Text.ofDigits? 10 digits).map fun value => (value : Int)
  guard (isSignedWord place)
  some (.position place)

/-- Reads a key and the positions behind it. -/
def part? (text : List Char) : Option Path :=
  match text.splitOn '[' with
  | [] => none
  | name :: positions =>
    if name.isEmpty || !name.all isKeyChar then none
    else (positions.mapM position?).map (.key (String.ofList name) :: ·)

/-- Reads a place, which is written as keys with dots between them and may have positions in
brackets: `a.b[0]`. A key that is not written in this way stands for itself. -/
def ofText (text : String) : Path :=
  match (text.toList.splitOn '.').mapM part? with
  | some parts => parts.flatten
  | none => [.key text]

end Path

end ChatNotify.Settings
