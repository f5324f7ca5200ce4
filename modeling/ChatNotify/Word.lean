namespace ChatNotify

/-- The number of values that 64 bits can take. -/
def wordCount : Nat := 18446744073709551616

/-- Holds of the integers without a sign that fit. -/
def isWord (value : Int) : Bool :=
  0 ≤ value && value < wordCount

/-- Holds of the integers with a sign that fit: half of the values are below zero. -/
def isSignedWord (value : Int) : Bool :=
  isWord (value + wordCount / 2)

theorem isWord_ofNat (value : Nat) : isWord value = decide (value < wordCount) := by
  simp [isWord]

end ChatNotify
