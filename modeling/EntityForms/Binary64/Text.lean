import EntityForms.Binary64.Shortest
import EntityForms.Text.Integer

/-!
# Doubles in text

A double is written from its shortest decimal. What remains to choose is the layout: which values
are written with the point in place and which with an exponent, and whether a whole number keeps
its `.0`. Each format states its choice as a `Layout`.

Text spells a double as digits with at most one point and an optional exponent, or as `inf`,
`infinity` or `nan` in any case; each may carry a sign. Any number of digits is read exactly and
rounded once.
-/

namespace EntityForms

/-- The choices a format makes when it writes a double. -/
structure Layout where
  /-- Whether a value with so many digits before the point is written without an exponent. -/
  positional : Int → Bool
  /-- Whether a whole number is written with `.0`. -/
  keepsPoint : Bool
  /-- Which of two equally near shortest decimals is written. -/
  tie : Tie

namespace Decimal

/-- Digits with the point in place; `whole` follows the digits of a whole number. -/
def positional (whole : String) (d : Decimal) : String :=
  let ds := d.digits
  let p := d.point
  if p ≤ 0 then "0." ++ String.ofList (List.replicate (-p).toNat '0' ++ ds)
  else if (ds.length : Int) ≤ p then
    String.ofList (ds ++ List.replicate (p.toNat - ds.length) '0') ++ whole
  else String.ofList (ds.take p.toNat) ++ "." ++ String.ofList (ds.drop p.toNat)

/-- One digit, the others after a point, and the exponent with its sign. -/
def scientific (d : Decimal) : String :=
  let e := d.point - 1
  let mantissa := match d.digits with
    | [] => ""
    | [c] => String.singleton c
    | c :: rest => String.ofList (c :: '.' :: rest)
  mantissa ++ (if e < 0 then "e-" else "e+") ++ Text.writeNat e.natAbs

end Decimal

namespace Binary64

/-- A double in the given layout. -/
def text (layout : Layout) : Binary64 → String
  | .nan => "NaN"
  | .infinite negative => if negative then "-inf" else "inf"
  | .finite negative significand scale _ =>
    let whole := if layout.keepsPoint then ".0" else ""
    let d := shortest layout.tie significand scale
    let body :=
      if significand = 0 then "0" ++ whole
      else if layout.positional d.point then d.positional whole
      else d.scientific
    if negative then "-" ++ body else body

/-- The value of an exponent part, zero where there is none. -/
def readExponent? : List Char → Option Int
  | [] => some 0
  | c :: cs => if c = 'e' ∨ c = 'E' then Text.readInt? cs else none

/-- A number without its sign. -/
def readMagnitude? (negative : Bool) (cs : List Char) : Option Binary64 :=
  let whole := cs.takeWhile Char.isDigit
  let (fraction, rest) := match cs.dropWhile Char.isDigit with
    | '.' :: rest => (rest.takeWhile Char.isDigit, rest.dropWhile Char.isDigit)
    | rest => ([], rest)
  if whole.isEmpty && fraction.isEmpty then none
  else (readExponent? rest).map fun e ↦
    ofDecimal negative (Text.digitsValue (whole ++ fraction)) (e - fraction.length)

/-- The double that the characters spell. -/
def read? (cs : List Char) : Option Binary64 :=
  let (negative, body) := Text.takeSign cs
  let word := String.ofList (body.map Char.toLower)
  if word = "inf" ∨ word = "infinity" then some (.infinite negative)
  else if word = "nan" then some .nan
  else readMagnitude? negative body

end Binary64

end EntityForms
