import ChatNotify.Text.Digits

namespace ChatNotify

/-- An identifier of a user, a team, a channel, a post or a file. -/
structure Id where
  value : Nat
  deriving Repr, DecidableEq, Inhabited, Hashable

namespace Id

instance : LT Id := ⟨fun a b => a.value < b.value⟩

instance : LE Id := ⟨fun a b => a.value ≤ b.value⟩

instance (a b : Id) : Decidable (a < b) := Nat.decLt _ _

instance (a b : Id) : Decidable (a ≤ b) := Nat.decLe _ _

theorem le_trans {a b c : Id} (hab : a ≤ b) (hbc : b ≤ c) : a ≤ c :=
  Nat.le_trans hab hbc

theorem le_total (a b : Id) : a ≤ b ∨ b ≤ a :=
  Nat.le_total a.value b.value

theorem lt_of_le_of_ne {a b : Id} (hle : a ≤ b) (hne : a ≠ b) : a < b :=
  Nat.lt_of_le_of_ne hle fun h => hne (congrArg Id.mk h)

/-- The identifier that stands for nothing. -/
def nil : Id := ⟨0⟩

/-- The lengths of the groups. -/
def groups : List Nat := [8, 4, 4, 4, 12]

/-- Cuts the digits into groups. -/
def cut (digits : List Char) : List Nat → List (List Char)
  | [] => []
  | length :: rest => digits.take length :: cut (digits.drop length) rest

/-- The written form, in lower case. -/
def text (id : Id) : String :=
  let digits := Nat.toDigits 16 id.value
  let digits := List.replicate (32 - digits.length) '0' ++ digits
  "-".intercalate ((cut digits groups).map String.ofList)

/-- The identifier with that written form, in either case. -/
def ofText? (text : String) : Option Id :=
  let parts := text.toList.splitOn '-'
  if parts.map List.length = groups then (Text.ofDigits? 16 parts.flatten).map Id.mk else none

end Id

end ChatNotify
