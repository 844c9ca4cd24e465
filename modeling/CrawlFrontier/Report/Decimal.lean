/-!
# Decimal text of fractions

A fraction of double precision is a whole number times a power of two. It is written with a fixed
number of decimal places, rounded to nearest, and a tie goes to the even neighbour.
-/

namespace CrawlFrontier.Report

/-- The whole number nearest to a quotient; a tie goes to the even neighbour. -/
def roundQuotient (n d : Nat) : Nat :=
  let q := n / d
  let twice := 2 * (n % d)
  if twice < d ∨ (twice = d ∧ q % 2 = 0) then q else q + 1

/-- Rounding is right to within half a unit. -/
theorem roundQuotient_near {n d : Nat} (h : 0 < d) :
    2 * n ≤ 2 * (roundQuotient n d * d) + d ∧ 2 * (roundQuotient n d * d) ≤ 2 * n + d := by
  have parts : d * (n / d) + n % d = n := Nat.div_add_mod n d
  have small : n % d < d := Nat.mod_lt n h
  unfold roundQuotient
  dsimp only
  split
  · rw [Nat.mul_comm (n / d) d]
    omega
  · rw [Nat.add_mul, Nat.mul_comm (n / d) d]
    omega

/-- The digits of a whole number with the point in front of the last ones. -/
def placePoint (places n : Nat) : String :=
  let digits := Nat.toDigits 10 n
  let filled := List.replicate (places + 1 - digits.length) '0' ++ digits
  let whole := filled.take (filled.length - places)
  String.ofList (if places = 0 then whole else whole ++ '.' :: filled.drop whole.length)

/-- The whole number and the power of two of which a fraction that is not negative is the
product. -/
def decompose (x : Float) : Nat × Int :=
  let bits := x.toBits.toNat
  let low := bits % 0x10000000000000
  let exponent : Nat := bits / 0x10000000000000 % 0x800
  if exponent = 0 then (low, -1074) else (low + 0x10000000000000, (exponent : Int) - 1075)

/-- Writes a finite fraction that is not negative with a fixed number of places. -/
def fixed (places : Nat) (x : Float) : String :=
  let (m, e) := decompose x
  let scaled := m * Nat.pow 10 places
  placePoint places
    (if 0 ≤ e then scaled * Nat.pow 2 e.toNat else roundQuotient scaled (Nat.pow 2 (-e).toNat))

end CrawlFrontier.Report
