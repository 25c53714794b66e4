import CollectionSearch.Fault
import CollectionSearch.Text.Basic

/-!
Numbers read from text. A decimal digit, of any script, stands in a run of ten and has a value; a digit in the wider
sense, such as a superscript, need not have one. A whole number has at most as many digits as the limit allows; a real
number may have a point, an exponent and underscores between digits, or be a word for infinity or for no number at
all. The mean of two numbers is always real: two whole numbers are added exactly, otherwise both are made real first,
and as the sum starts from zero no mean is a negative zero.
-/
namespace CollectionSearch.Text

def zeros : List Nat := [
  0x30, 0x660, 0x6F0, 0x7C0, 0x966, 0x9E6, 0xA66, 0xAE6, 0xB66, 0xBE6, 0xC66, 0xCE6, 0xD66, 0xDE6,
  0xE50, 0xED0, 0xF20, 0x1040, 0x1090, 0x17E0, 0x1810, 0x1946, 0x19D0, 0x1A80, 0x1A90, 0x1B50, 0x1BB0,
  0x1C40, 0x1C50, 0xA620, 0xA8D0, 0xA900, 0xA9D0, 0xA9F0, 0xAA50, 0xABF0, 0xFF10, 0x104A0, 0x10D30,
  0x11066, 0x110F0, 0x11136, 0x111D0, 0x112F0, 0x11450, 0x114D0, 0x11650, 0x116C0, 0x11730, 0x118E0,
  0x11950, 0x11C50, 0x11D50, 0x11DA0, 0x16A60, 0x16AC0, 0x16B50, 0x1D7CE, 0x1D7D8, 0x1D7E2, 0x1D7EC,
  0x1D7F6, 0x1E140, 0x1E2F0, 0x1E950, 0x1FBF0]

def otherDigitSpans : List Span := [
  ⟨0xB2,0xB3⟩, ⟨0xB9,0xB9⟩, ⟨0x1369,0x1371⟩, ⟨0x19DA,0x19DA⟩, ⟨0x2070,0x2070⟩, ⟨0x2074,0x2079⟩,
  ⟨0x2080,0x2089⟩, ⟨0x2460,0x2468⟩, ⟨0x2474,0x247C⟩, ⟨0x2488,0x2490⟩, ⟨0x24EA,0x24EA⟩, ⟨0x24F5,0x24FD⟩,
  ⟨0x24FF,0x24FF⟩, ⟨0x2776,0x277E⟩, ⟨0x2780,0x2788⟩, ⟨0x278A,0x2792⟩, ⟨0x10A40,0x10A43⟩,
  ⟨0x10E60,0x10E68⟩, ⟨0x11052,0x1105A⟩, ⟨0x1F100,0x1F10A⟩]

def digit? (c : CodePoint) : Option Nat :=
  (zeros.find? (fun start => start ≤ c.toNat && c.toNat < start + 10)).map (c.toNat - ·)

theorem digitBound {c : CodePoint} {d : Nat} (h : digit? c = some d) : d < 10 := by
  obtain ⟨start, found, rfl⟩ := Option.map_eq_some_iff.mp h
  have := List.find?_some found
  simp only [Bool.and_eq_true, decide_eq_true_eq] at this
  omega

def isDecimal (c : CodePoint) : Bool := (digit? c).isSome

def isDigit (c : CodePoint) : Bool := isDecimal c || inSpans otherDigitSpans c

def denoted (digits : List Nat) : Nat := digits.foldl (fun n d => 10 * n + d) 0

def plainDigit (c : CodePoint) : CodePoint := ((digit? c).map (fun d => .ofNat (0x30 + d))).getD c

end CollectionSearch.Text

namespace CollectionSearch.Number

/-- A row of digits. The decimal digits in front are counted before anything else is noticed. -/
def wholeOfDigits (s : Text) : Except Fault Int :=
  let front := s.takeWhile Text.isDecimal
  if Fault.digitLimit < front.length then .error (.oversizedNumeral front.length)
  else if front.isEmpty || front.length < s.length then .error (.notWhole s)
  else .ok (Text.denoted (s.filterMap Text.digit?))

def readWhole (s : Text) : Except Fault Int :=
  match s with
  | .char '-' :: digits => (- ·) <$> wholeOfDigits digits
  | .char '+' :: digits => wholeOfDigits digits
  | digits => wholeOfDigits digits

def isWhole (s : Text) : Bool :=
  let digits := match s with
    | .char '-' :: rest => rest
    | .char '+' :: rest => rest
    | rest => rest
  !digits.isEmpty && digits.all Text.isDecimal

def isPlainDigit (c : CodePoint) : Bool := c.between '0' '9'

def denotedPlain (digits : Text) : Nat := Text.denoted (digits.map (fun c => c.toNat - 0x30))

def exponent? : Text → Option Int
  | [] => some 0
  | c :: rest =>
    if c = .char 'e' ∨ c = .char 'E' then
      let (negative, digits) := match rest with
        | .char '-' :: digits => (true, digits)
        | .char '+' :: digits => (false, digits)
        | digits => (false, digits)
      if digits.isEmpty || !digits.all isPlainDigit then none
      else some (if negative then -(denotedPlain digits) else denotedPlain digits)
    else none

def readDecimal? (negative : Bool) (s : Text) : Option Binary64 :=
  let whole := s.takeWhile isPlainDigit
  let (fraction, rest) := match s.dropWhile isPlainDigit with
    | .char '.' :: rest => (rest.takeWhile isPlainDigit, rest.dropWhile isPlainDigit)
    | rest => ([], rest)
  if whole.isEmpty && fraction.isEmpty then none
  else (exponent? rest).map (fun e =>
    Binary64.ofDecimal negative (denotedPlain (whole ++ fraction)) (e - fraction.length))

def readUnsigned? (negative : Bool) (s : Text) : Option Binary64 :=
  let word := s.map (CodePoint.mapChar Char.toLower)
  if word = "inf".toText ∨ word = "infinity".toText then some (.infinite negative)
  else if word = "nan".toText then some .nan
  else readDecimal? negative s

def joined? (afterDigit : Bool) : Text → Option Text
  | [] => some []
  | [.char '_'] => none
  | .char '_' :: c :: rest => if afterDigit && isPlainDigit c then (c :: ·) <$> joined? true rest else none
  | c :: rest => (c :: ·) <$> joined? (isPlainDigit c) rest

/-- Blanks that may stand around a real number; the ASCII separators are not among them. -/
def isMargin (c : CodePoint) : Bool := Text.isBlank c && !(0x1C ≤ c.toNat && c.toNat ≤ 0x1F)

def readReal? (s : Text) : Option Binary64 := do
  let start := s.dropWhile isMargin
  let body := (start.reverse.dropWhile isMargin).reverse
  match ← joined? false (body.map Text.plainDigit) with
  | .char '-' :: rest => readUnsigned? true rest
  | .char '+' :: rest => readUnsigned? false rest
  | rest => readUnsigned? false rest

def readReal (s : Text) : Except Fault Binary64 :=
  match readReal? s with
  | some x => .ok x
  | none => .error (.notReal s)

def toReal : Number → Except Fault Binary64
  | .real x => .ok x
  | .whole n => (Binary64.ofInt? n).elim (.error .wholeTooLarge) .ok

def mean : Number → Number → Except Fault Number
  | .whole m, .whole n => (Binary64.halfOfInt? (m + n)).elim (.error .quotientTooLarge) (.ok ∘ .real)
  | a, b => do
    let x ← a.toReal
    let y ← b.toReal
    return .real (((Binary64.zero.add x).add y).half)

end CollectionSearch.Number
