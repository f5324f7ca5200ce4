namespace ChatNotify.Text

/-- The value of a digit of the base. -/
def digit? (base : Nat) (c : Char) : Option Nat :=
  let value :=
    if '0' ≤ c && c ≤ '9' then some (c.toNat - 48)
    else if 'a' ≤ c && c ≤ 'f' then some (c.toNat - 87)
    else if 'A' ≤ c && c ≤ 'F' then some (c.toNat - 55)
    else none
  value.filter (· < base)

/-- The number that a non-empty run of digits stands for; `none` if the run is empty or holds
anything else. -/
def ofDigits? (base : Nat) (digits : List Char) : Option Nat :=
  if digits.isEmpty then none
  else digits.foldlM (fun value c => (digit? base c).map (value * base + ·)) 0

/-- The number that decimal digits stand for, which may have a plus sign in front. -/
def count? (text : List Char) : Option Nat :=
  match text with
  | '+' :: digits => ofDigits? 10 digits
  | digits => ofDigits? 10 digits

/-- The decimal digits of a number, with zeros in front up to the width. -/
def padded (width value : Nat) : String :=
  let digits := Nat.toDigits 10 value
  String.ofList (List.replicate (width - digits.length) '0' ++ digits)

end ChatNotify.Text
