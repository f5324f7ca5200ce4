namespace ChatNotify.Text

/-- A closed range of code points, first and last. -/
abbrev CodeRange := Nat × Nat

/-- Every `step`-th code point from `first` to `last` is moved by `distance`. -/
structure CodeShift where
  first : Nat
  last : Nat
  step : Nat
  distance : Int

/-- The last position in `[low, high)` whose start is not above `code`, if there is one, for starts
that increase. -/
def lastStart (start : Nat → Nat) (code low high : Nat) : Option Nat :=
  if h : low < high then
    let middle := (low + high) / 2
    if start middle ≤ code then
      (lastStart start code (middle + 1) high).or (some middle)
    else lastStart start code low middle
  else none
termination_by high - low

namespace CodeRange

/-- Holds when `code` lies in one of the ranges, which increase. -/
def anyContains (ranges : Array CodeRange) (code : Nat) : Bool :=
  match lastStart (fun i => (ranges.getD i (0, 0)).1) code 0 ranges.size with
  | none => false
  | some i => code ≤ (ranges.getD i (0, 0)).2

end CodeRange

namespace CodeShift

/-- Moves `c` by the distance of the range that holds it; a character of no range stays. -/
def apply (shifts : Array CodeShift) (c : Char) : Char :=
  let at' (i : Nat) := shifts.getD i ⟨0, 0, 1, 0⟩
  match lastStart (fun i => (at' i).first) c.toNat 0 shifts.size with
  | none => c
  | some i =>
    let shift := at' i
    if c.toNat ≤ shift.last && (c.toNat - shift.first) % shift.step = 0 then
      Char.ofNat (c.toNat + shift.distance).toNat
    else c

end CodeShift

end ChatNotify.Text
