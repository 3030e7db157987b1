/-!
# Powers and machine words

The powers by which numbers are scaled, and the bound of the signed numbers that
fit into a machine word.

    -wordBound ≤ n ∧ n < wordBound
-/

namespace CestExport.Number

/-- The power of two with an exponent. -/
def twoTo (k : Nat) : Nat := Nat.pow 2 k

/-- The power of ten with an exponent. -/
def tenTo (k : Nat) : Nat := Nat.pow 10 k

/-- The least number too large for a signed word of 64 bits. -/
def wordBound : Int := 9223372036854775808

/-! ## Lemmas -/

theorem twoTo_pos (k : Nat) : 0 < twoTo k := Nat.pow_pos (by decide)

theorem tenTo_pos (k : Nat) : 0 < tenTo k := Nat.pow_pos (by decide)

theorem tenTo_mono {i j : Nat} (h : i ≤ j) : tenTo i ≤ tenTo j :=
  Nat.pow_le_pow_right (by decide) h

end CestExport.Number
