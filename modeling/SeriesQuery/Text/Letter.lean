set_option autoImplicit false

/-!
# Letter case

Tokens of the query grammar, flag values and media types are compared without regard to the case of
ASCII letters. Letters outside ASCII are compared as they are.
-/

namespace SeriesQuery.Text

/-- The lower-case form of an ASCII letter; every other character stands for itself. -/
def lowerLetter (c : Char) : Char :=
  if 'A' ≤ c ∧ c ≤ 'Z' then Char.ofNat (c.toNat + 32) else c

/-- Two texts with the same characters up to the case of ASCII letters. -/
def sameLetters (left right : String) : Bool :=
  left.toList.map lowerLetter == right.toList.map lowerLetter

theorem sameLetters_comm (left right : String) :
    sameLetters left right = sameLetters right left := by
  rw [sameLetters, sameLetters, Bool.eq_iff_iff, beq_iff_eq, beq_iff_eq]
  exact eq_comm

end SeriesQuery.Text
