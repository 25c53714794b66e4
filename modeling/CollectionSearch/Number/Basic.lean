import CollectionSearch.Text.Basic

/-!
Numbers as records and filters carry them: unbounded whole numbers, and double-precision numbers as exact values.
Every finite one of these is a whole number of quanta, the quantum being the least positive value, so sums and
quotients are computed on whole numbers and rounded once, to 53 significant bits and half to even. Comparison is
exact, and a value that is no number compares with nothing.

The shortest decimal text has the fewest digits that read back as the same value, and of those the nearest; the
general one has six significant digits and drops closing zeros. A layout says between which powers of ten digits are
written positionally.
-/
namespace CollectionSearch

def twoTo (n : Nat) : Nat := Nat.pow 2 n

def tenTo (n : Nat) : Nat := Nat.pow 10 n

theorem twoToPos (n : Nat) : 0 < twoTo n := Nat.pow_pos (by decide)

inductive Binary64 where
  | nan
  | infinite (negative : Bool)
  | finite (negative : Bool) (quanta : Nat)
  deriving DecidableEq, Repr

namespace Binary64

def depth : Nat := 1074

def unit : Nat := twoTo depth

theorem unitPos : 0 < unit := twoToPos depth

def bound : Nat := twoTo 2098

def nearest (numerator denominator : Nat) : Nat :=
  let whole := numerator / denominator
  let rest := numerator % denominator
  if 2 * rest < denominator then whole
  else if denominator < 2 * rest then whole + 1
  else whole + whole % 2

def spacing (quanta : Nat) : Nat := twoTo (quanta.log2 - 52)

def rounded (negative : Bool) (numerator denominator : Nat) : Binary64 :=
  let step := spacing (numerator / denominator)
  let quanta := nearest numerator (denominator * step) * step
  if quanta < bound then .finite negative quanta else .infinite negative

def zero : Binary64 := .finite false 0

def isFinite : Binary64 → Bool
  | .finite _ _ => true
  | _ => false

def finite? : Binary64 → Option Binary64
  | .finite negative quanta => some (.finite negative quanta)
  | _ => none

def signed (negative : Bool) (quanta : Nat) : Int := if negative then -quanta else quanta

def ofInt? (n : Int) : Option Binary64 := (rounded (n < 0) (n.natAbs * unit) 1).finite?

def halfOfInt? (n : Int) : Option Binary64 := (rounded (n < 0) (n.natAbs * unit) 2).finite?

def add : Binary64 → Binary64 → Binary64
  | .nan, _ => .nan
  | _, .nan => .nan
  | .infinite a, .infinite b => if a = b then .infinite a else .nan
  | .infinite a, .finite _ _ => .infinite a
  | .finite _ _, .infinite b => .infinite b
  | .finite a m, .finite b n =>
    let sum := signed a m + signed b n
    rounded (if sum = 0 then a && b else sum < 0) sum.natAbs 1

def half : Binary64 → Binary64
  | .finite negative quanta => rounded negative quanta 2
  | x => x

/-- The value nearest to `coefficient * 10 ^ exponent`. An exponent that outweighs every digit of the
coefficient decides alone, so no power is computed that the result cannot show. -/
def ofDecimal (negative : Bool) (coefficient : Nat) (exponent : Int) : Binary64 :=
  if coefficient = 0 then .finite negative 0
  else match exponent with
    | .ofNat e => if 400 < e then .infinite negative else rounded negative (coefficient * tenTo e * unit) 1
    | .negSucc e =>
      if coefficient.log2 + 400 < e + 1 then .finite negative 0
      else rounded negative (coefficient * unit) (tenTo (e + 1))

end Binary64

inductive Number where
  | whole (n : Int)
  | real (x : Binary64)
  deriving DecidableEq, Repr

inductive Extent where
  | bottom
  | quanta (n : Int)
  | top
  deriving DecidableEq, Repr

namespace Extent

def compare : Extent → Extent → Ordering
  | .bottom, .bottom => .eq
  | .bottom, _ => .lt
  | .quanta _, .bottom => .gt
  | .quanta m, .quanta n => Ord.compare m n
  | .quanta _, .top => .lt
  | .top, .top => .eq
  | .top, _ => .gt

end Extent

namespace Binary64

def extent? : Binary64 → Option Extent
  | .nan => none
  | .infinite negative => some (if negative then .bottom else .top)
  | .finite negative quanta => some (.quanta (signed negative quanta))

end Binary64

namespace Number

def extent? : Number → Option Extent
  | .whole n => some (.quanta (n * Binary64.unit))
  | .real x => x.extent?

def compare? (a b : Number) : Option Ordering := do
  return Extent.compare (← a.extent?) (← b.extent?)

theorem compareScaled {u : Int} (m n : Int) (pos : 0 < u) : compare (m * u) (n * u) = compare m n := by
  have lt : m * u < n * u ↔ m < n := Int.mul_lt_mul_right pos
  have eq : m * u = n * u ↔ m = n :=
    ⟨Int.eq_of_mul_eq_mul_right (Int.ne_of_gt pos), fun h => by rw [h]⟩
  show compareOfLessAndEq _ _ = compareOfLessAndEq _ _
  unfold compareOfLessAndEq
  by_cases less : m < n
  · rw [if_pos less, if_pos (lt.mpr less)]
  · rw [if_neg less, if_neg (mt lt.mp less)]
    by_cases same : m = n
    · rw [if_pos same, if_pos (eq.mpr same)]
    · rw [if_neg same, if_neg (mt eq.mp same)]

theorem compareWhole (m n : Int) : compare? (.whole m) (.whole n) = some (compare m n) :=
  congrArg some (compareScaled m n (Int.natCast_pos.mpr Binary64.unitPos))

end Number

structure Decimal where
  significand : Nat
  exponent : Int
  deriving DecidableEq, Repr

namespace Decimal

def reaches (quanta : Nat) : Int → Bool
  | .ofNat e => tenTo e * Binary64.unit ≤ quanta
  | .negSucc e => Binary64.unit ≤ quanta * tenTo (e + 1)

/-- The power of ten that leads the value: an estimate from the binary length, at most one off. -/
def leading (quanta : Nat) : Int :=
  let guess := ((quanta.log2 : Int) - Binary64.depth) * 30103 / 100000
  if reaches quanta (guess + 1) then guess + 1
  else if reaches quanta guess then guess
  else guess - 1

def scaled (quanta places : Nat) (lead : Int) : Nat × Nat :=
  match (places : Int) - 1 - lead with
  | .ofNat shift => (quanta * tenTo shift, Binary64.unit)
  | .negSucc shift => (quanta, Binary64.unit * tenTo (shift + 1))

def reads (quanta significand : Nat) (last : Int) : Bool :=
  Binary64.ofDecimal false significand last == .finite false quanta

def fitting? (quanta : Nat) (lead : Int) (places : Nat) : Option Nat :=
  let (numerator, denominator) := scaled quanta places lead
  let below := numerator / denominator
  let last := lead - (places - 1)
  match reads quanta below last, reads quanta (below + 1) last with
  | true, true => some (Binary64.nearest numerator denominator)
  | true, false => some below
  | false, true => some (below + 1)
  | false, false => none

def ofPlaces (lead : Int) (places significand : Nat) : Decimal :=
  if significand = tenTo places then ⟨1, lead + 1⟩ else ⟨significand, lead⟩

def toPlaces (places quanta : Nat) : Decimal :=
  let lead := leading quanta
  let (numerator, denominator) := scaled quanta places lead
  ofPlaces lead places (Binary64.nearest numerator denominator)

/-- The shortest decimal of a positive value. Seventeen places always suffice. -/
def shortest (quanta : Nat) : Decimal :=
  let lead := leading quanta
  match (List.range' 1 17).findSome? (fun places => (fitting? quanta lead places).map (places, ·)) with
  | some (places, significand) => ofPlaces lead places significand
  | none => toPlaces 17 quanta

def digits (d : Decimal) : Text :=
  match ((Text.ofNat d.significand).reverse.dropWhile (· == .char '0')).reverse with
  | [] => [.char '0']
  | ds => ds

end Decimal

structure Layout where
  lowest : Int
  ceiling : Int
  pointed : Bool
  deriving DecidableEq, Repr

namespace Layout

def plain : Layout := ⟨-4, 16, true⟩

def general : Layout := ⟨-4, 6, false⟩

def exponentText (e : Int) : Text :=
  let size := Text.ofNat e.natAbs
  .char 'e' :: (if e < 0 then .char '-' else .char '+') :: (if size.length < 2 then .char '0' :: size else size)

def positional (pointed : Bool) (digits : Text) : Int → Text
  | .negSucc e => .char '0' :: .char '.' :: List.replicate e (.char '0') ++ digits
  | .ofNat e =>
    let whole := digits.take (e + 1)
    let fraction := digits.drop (e + 1)
    whole ++ List.replicate (e + 1 - whole.length) (.char '0') ++
      (if fraction.isEmpty then (if pointed then ".0".toText else []) else .char '.' :: fraction)

def scientific (digits : Text) (e : Int) : Text :=
  let fraction := digits.drop 1
  digits.take 1 ++ (if fraction.isEmpty then [] else .char '.' :: fraction) ++ exponentText e

def write (layout : Layout) (d : Decimal) : Text :=
  if layout.lowest ≤ d.exponent && d.exponent < layout.ceiling then
    positional layout.pointed d.digits d.exponent
  else scientific d.digits d.exponent

end Layout

namespace Binary64

def textWith (layout : Layout) (cut : Nat → Decimal) : Binary64 → Text
  | .nan => "nan".toText
  | .infinite negative => if negative then "-inf".toText else "inf".toText
  | .finite negative quanta =>
    (if negative then [.char '-'] else []) ++ layout.write (if quanta = 0 then ⟨0, 0⟩ else cut quanta)

def text (x : Binary64) : Text := x.textWith .plain Decimal.shortest

def generalText (x : Binary64) : Text := x.textWith .general (Decimal.toPlaces 6)

example : (ofDecimal false 1 (-1)).text = "0.1".toText := by decide +kernel

example : (finite false 1).text = "5e-324".toText := by decide +kernel

example : (ofDecimal true 1 16).text = "-1e+16".toText := by decide +kernel

example : (ofDecimal false 123456789 (-2)).generalText = "1.23457e+06".toText := by decide +kernel

end Binary64
end CollectionSearch
