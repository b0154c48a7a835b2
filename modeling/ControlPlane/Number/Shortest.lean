import ControlPlane.Number.Binary64

/-!
# The shortest decimal text of a binary number

Of the decimal numbers that are rounded to a given magnitude those with the fewest digits are
sought, and of these the nearest one. For each count of digits it suffices to try the two
neighbours of the magnitude on the grid of decimals with that many digits.
-/

namespace ControlPlane.Number

/-- The place of the decimal point: the least `k` for which the magnitude is below `10 ^ k`. -/
def decimalPoint (units : Nat) : Int :=
  let shift : Nat := 350
  let power := (List.range 700).find? fun j =>
    units * Nat.pow 10 shift < Nat.pow 10 j * Binary64.unitsPerOne
  ((power.getD 0 : Nat) : Int) - shift

/-- The multiple of `10 ^ exponent` nearest to the magnitude among those that are rounded to it. -/
def nearestOnGrid? (units : Nat) (exponent : Int) : Option Nat :=
  let finer := Nat.pow 10 (-exponent).toNat
  let coarser := Nat.pow 10 exponent.toNat
  let step := Binary64.step units
  let isLowest := units = Nat.pow 2 52 * step ∧ 1 < step
  let above := 2 * step * finer
  let below := if isLowest then step * finer else above
  let closed := units / step % 2 = 0
  let scaled := 4 * units * finer
  let grid := 4 * Binary64.unitsPerOne * coarser
  let low := scaled / grid
  let overLow := scaled % grid
  let underHigh := grid - overLow
  let lowFits := overLow < below ∨ (closed ∧ overLow = below)
  let highFits := underHigh < above ∨ (closed ∧ underHigh = above)
  if lowFits ∧ highFits then
    if overLow < underHigh then some low
    else if underHigh < overLow then some (low + 1)
    else if low % 2 = 0 then some low else some (low + 1)
  else if lowFits then some low
  else if highFits then some (low + 1)
  else none

/-- The shortest decimal that is rounded to the magnitude; seventeen digits always suffice. -/
def shortest (units : Nat) : Decimal :=
  let point := decimalPoint units
  let found := (List.range 17).findSome? fun (i : Nat) =>
    let exponent := point - (i + 1 : Nat)
    (nearestOnGrid? units exponent).map fun d => { significand := d, exponent : Decimal }
  found.getD { significand := 0, exponent := 0 }

/-- The digits of a decimal without zeros at their end, and the place of its point: the number is
`0.digits * 10 ^ point`. -/
def Decimal.layout (d : Decimal) : List Char × Int :=
  let digits := Nat.toDigits 10 d.significand
  let point := d.exponent + digits.length
  ((digits.reverse.dropWhile (· == '0')).reverse, point)

/-- Positional notation is used for numbers of at most sixteen digits before the point and at most
four zeros behind it, and always shows a digit on both sides; else the exponent follows an `e`,
with its sign. -/
def Decimal.render (d : Decimal) : String :=
  if d.significand = 0 then "0.0"
  else
    let (digits, point) := d.layout
    let count := (digits.length : Int)
    let text :=
      if count ≤ point ∧ point ≤ 16 then
        digits ++ List.replicate (point - count).toNat '0' ++ ['.', '0']
      else if 0 < point ∧ point ≤ 16 then
        digits.take point.toNat ++ ['.'] ++ digits.drop point.toNat
      else if -5 < point ∧ point ≤ 0 then
        ['0', '.'] ++ List.replicate (-point).toNat '0' ++ digits
      else
        let sign := if 0 < point then ['+'] else []
        let power := sign ++ (toString (point - 1)).toList
        match digits with
        | [] => ['0']
        | [d] => d :: 'e' :: power
        | d :: fraction => d :: '.' :: fraction ++ 'e' :: power
    String.ofList text

/-- The text of a finite number: the shortest one that reads back. -/
def Binary64.render (x : Binary64) : String :=
  (if x.negative then "-" else "") ++ (shortest x.units).render

end ControlPlane.Number
