import RecordFilter.Numeric.Binary

set_option autoImplicit false

/-!
The shortest decimal text that reads back as a given float. Grids of one, two, three and more
significant digits are tried in turn; on each only the two neighbours of the value can lie
among the reals that round to it. The first grid with such a neighbour wins, of two the nearer,
and of two equally near the larger.

A float has a plain text, without an exponent, and a dump, which always shows that it is no
integer and uses an exponent for very large and very small values.
-/

namespace RecordFilter

/-- Ten to an integer power. -/
def tenPow (e : Int) : Rat :=
  if 0 ≤ e then Nat.pow 10 e.toNat else 1 / Nat.pow 10 (-e).toNat

/-- The number of decimal digits before the point of a positive rational, negative when
zeros follow the point. -/
def decimalOrder (q : Rat) : Int :=
  let estimate : Int := (Nat.toDigits 10 q.num.toNat).length - (Nat.toDigits 10 q.den).length
  if tenPow estimate ≤ q then estimate + 1 else estimate

/-- A decimal number as an integer and the exponent of its last digit. -/
structure Digits where
  value : Nat
  exponent : Int
  deriving DecidableEq, Repr

namespace Binary

variable {t : FloatType}

/-- Whether a rational rounds to the float: whether it lies between the midpoints to the two
neighbouring floats. The midpoints count when the float is the even one. -/
def isReadFrom (x : Binary t) (q : Rat) : Bool :=
  let half := twoPow x.unit / 2
  let below := if x.exponentField > 1 && x.significand == t.exponentBit then half / 2 else half
  let lower := x.absRat - below
  let upper := x.absRat + half
  if x.significand % 2 = 0 then lower ≤ q && q ≤ upper else lower < q && q < upper

/-- The neighbour of a float on a decimal grid that reads back, the nearer one of two. -/
def onGrid? (x : Binary t) (exponent : Int) : Option Nat :=
  let grid := tenPow exponent
  let low := (x.absRat / grid).floor.toNat
  let lowReads := x.isReadFrom (low * grid)
  let highReads := x.isReadFrom ((low + 1 : Nat) * grid)
  if highReads && (!lowReads || (low + 1 : Nat) * grid - x.absRat ≤ x.absRat - low * grid) then
    some (low + 1)
  else if lowReads then some low
  else none

/-- Seventeen significant digits tell all floats apart, so the search ends by then. -/
def shortestFrom (x : Binary t) (order : Int) : Nat → Digits
  | 0 => ⟨roundHalfEven (x.absRat / tenPow (order - 17)), order - 17⟩
  | left + 1 =>
    let exponent := order - (17 - left : Nat)
    match x.onGrid? exponent with
    | some value => if value = Nat.pow 10 (17 - left) then ⟨1, order⟩ else ⟨value, exponent⟩
    | none => shortestFrom x order left

/-- The shortest digits of a finite float other than zero. -/
def shortest (x : Binary t) : Digits := x.shortestFrom (decimalOrder x.absRat) 17

end Binary

namespace Digits

/-- Text without an exponent. -/
def positional (d : Digits) : String :=
  let digits := (toString d.value).toList
  let point : Int := digits.length + d.exponent
  String.ofList <|
    if 0 ≤ d.exponent then digits ++ List.replicate d.exponent.toNat '0'
    else if 0 < point then digits.take point.toNat ++ '.' :: digits.drop point.toNat
    else '0' :: '.' :: List.replicate (-point).toNat '0' ++ digits

/-- Text with one digit before the point and an exponent. -/
def scientific (d : Digits) : String :=
  let digits := (toString d.value).toList
  let rest := digits.drop 1
  let exponent : Int := digits.length + d.exponent - 1
  String.ofList (digits.take 1 ++ (if rest.isEmpty then [] else '.' :: rest)) ++
    "e" ++ toString exponent

end Digits

namespace Binary

variable {t : FloatType}

def withSign (x : Binary t) (digits : String) : String :=
  if x.isNaN then "NaN"
  else (if x.negative then "-" else "") ++ (if x.isFinite then digits else "inf")

/-- Plain text: shortest digits, never an exponent. -/
def text (x : Binary t) : String :=
  x.withSign (if x.magnitude = 0 then "0" else x.shortest.positional)

/-- Dumps switch to an exponent below a ten-thousandth and from ten thousand million million
on, both limits rounded to the float's own type. -/
def dumpsExponent (x : Binary t) : Bool :=
  x.magnitude ≠ 0 &&
    (x.magnitude < (nearest t false (1 / 10000)).magnitude ||
      (nearest t false (Nat.pow 10 16)).magnitude ≤ x.magnitude)

def dump (x : Binary t) : String :=
  x.withSign <|
    if x.magnitude = 0 then "0.0"
    else if x.dumpsExponent then x.shortest.scientific
    else if 0 ≤ x.shortest.exponent then x.shortest.positional ++ ".0"
    else x.shortest.positional

end Binary

end RecordFilter
