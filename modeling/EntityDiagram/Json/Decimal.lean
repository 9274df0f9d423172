/-!
# Decimal numbers, and the integers they are read as

A number in a document is written in decimal, and kept here exactly as written. Readers of such
documents hold numbers in binary with 53 significant bits, so a number very close to an integer *is*
that integer to them. Whether it is, and which, is the one thing this library asks of a number with
a fraction or an exponent, and `Decimal.integer?` answers it by exact arithmetic: it finds the
multiple of the right power of two that lies nearest, an even one when two are equally near.
-/

namespace EntityDiagram
namespace Json

/-- The number `digits * 10 ^ exponent`, negative if so marked. -/
structure Decimal where
  negative : Bool
  digits : Nat
  exponent : Int
  deriving DecidableEq, Repr

/-- The number `significand * 2 ^ exponent`. -/
structure Binary where
  significand : Nat
  exponent : Int
  deriving DecidableEq, Repr

namespace Binary

/-- The quotient rounded to the nearest natural number, to the even one of two. -/
def roundedQuotient (num den : Nat) : Nat :=
  let q := num / den
  let twice := 2 * (num % den)
  if twice > den || (twice == den && q % 2 == 1) then q + 1 else q

/-- The fraction divided by a power of two, as numerator and denominator. -/
def scaledDown (num den : Nat) : Int → Nat × Nat
  | .ofNat e => (num, den * Nat.pow 2 e)
  | .negSucc e => (num * Nat.pow 2 (e + 1), den)

/-- The binary number with 53 significant bits that lies nearest to a positive fraction. Below
    `2 ^ -1022` there are fewer bits, since no exponent is below `-1074`. -/
def nearest (num den : Nat) : Binary :=
  let guess : Int := Int.ofNat num.log2 - Int.ofNat den.log2
  let (n, d) := scaledDown num den guess
  let magnitude := if d ≤ n then guess else guess - 1
  let exponent := max (magnitude - 52) (-1074)
  let (n, d) := scaledDown num den exponent
  ⟨roundedQuotient n d, exponent⟩

/-- The integer that a binary number is, if it is one. -/
def integer? (b : Binary) : Option Nat :=
  match b.exponent with
  | .ofNat e => some (b.significand * Nat.pow 2 e)
  | .negSucc e =>
    let unit := Nat.pow 2 (e + 1)
    if b.significand % unit == 0 then some (b.significand / unit) else none

end Binary

namespace Decimal

/-- How many digits a number has in decimal; none for zero. -/
def digitCount (n : Nat) : Nat := if n == 0 then 0 else (Nat.toDigits 10 n).length

/-- The integer that the number is read as, if it is read as one. Numbers too large to be read at
    all are not, and numbers too small to be told from zero are zero. -/
def integer? (d : Decimal) : Option Int :=
  let size := Int.ofNat (digitCount d.digits) + d.exponent
  let magnitude : Option Nat :=
    if d.digits == 0 || size < -400 then some 0
    else if size > 400 then none
    else
      let (num, den) := match d.exponent with
        | .ofNat e => (d.digits * Nat.pow 10 e, 1)
        | .negSucc e => (d.digits, Nat.pow 10 (e + 1))
      match (Binary.nearest num den).integer? with
      | some n => if n < Nat.pow 2 1024 then some n else none
      | none => none
  magnitude.map fun n => if d.negative then -Int.ofNat n else Int.ofNat n

end Decimal
end Json
end EntityDiagram
