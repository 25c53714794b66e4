
/-!
Text: code points one after the other. A code point is a character, or a surrogate that stands alone; strings and files
hold characters only, and a surrogate can come from an escape that spells half a character. A code point is blank if it
is whitespace in any script, and a line end if it separates lines of prose.

What characters are and map to stands in compact tables. A stretch sends every step-th character from `first` to `last`
to the character as far from `target` as it is from `first`; a span is a run of characters with a property.
-/
namespace CollectionSearch

inductive CodePoint where
  | char (c : Char)
  | surrogate (index : Fin 0x800)
  deriving DecidableEq, Repr

abbrev Text := List CodePoint

namespace CodePoint

def toNat : CodePoint → Nat
  | .char c => c.toNat
  | .surrogate index => 0xD800 + index.val

def ofNat (n : Nat) : CodePoint :=
  if h : 0xD800 ≤ n ∧ n < 0xE000 then .surrogate ⟨n - 0xD800, by omega⟩ else .char (Char.ofNat n)

theorem ofNatToNat (c : CodePoint) : ofNat c.toNat = c := by
  cases c with
  | char c =>
    have valid := c.valid
    have same : c.val.toNat = c.toNat := rfl
    simp only [UInt32.isValidChar, Nat.isValidChar, same] at valid
    show ofNat c.toNat = .char c
    unfold ofNat
    rw [dif_neg (by omega), Char.ofNat_toNat]
  | surrogate index =>
    have bound := index.isLt
    show ofNat (0xD800 + index.val) = .surrogate index
    unfold ofNat
    rw [dif_pos ⟨by omega, by omega⟩]
    simp only [Nat.add_sub_cancel_left]

def between (first last : Char) (c : CodePoint) : Bool := first.toNat ≤ c.toNat && c.toNat ≤ last.toNat

def mapChar (f : Char → Char) : CodePoint → CodePoint
  | .char c => .char (f c)
  | .surrogate index => .surrogate index

def shown : CodePoint → Char
  | .char c => c
  | .surrogate _ => '\uFFFD'

def byteSize : CodePoint → Nat
  | .char c => c.utf8Size
  | .surrogate _ => 3

end CodePoint

namespace Text

def shown (s : Text) : String := String.ofList (s.map CodePoint.shown)

end Text
end CollectionSearch

def String.toText (s : String) : CollectionSearch.Text := s.toList.map .char

namespace CollectionSearch.Text

def isBlank (c : CodePoint) : Bool :=
  let n := c.toNat
  (0x09 ≤ n && n ≤ 0x0D) || (0x1C ≤ n && n ≤ 0x20) || n == 0x85 || n == 0xA0 || n == 0x1680 ||
    (0x2000 ≤ n && n ≤ 0x200A) || n == 0x2028 || n == 0x2029 || n == 0x202F || n == 0x205F || n == 0x3000

def isLineEnd (c : CodePoint) : Bool :=
  let n := c.toNat
  (0x0A ≤ n && n ≤ 0x0D) || (0x1C ≤ n && n ≤ 0x1E) || n == 0x85 || n == 0x2028 || n == 0x2029

theorem lineEndBlank {c : CodePoint} (h : isLineEnd c = true) : isBlank c = true := by
  simp only [isLineEnd, isBlank, Bool.or_eq_true, Bool.and_eq_true, decide_eq_true_eq, beq_iff_eq] at h ⊢
  omega

def trimStart (s : Text) : Text := s.dropWhile isBlank

def trimEnd (s : Text) : Text := (s.reverse.dropWhile isBlank).reverse

def trim (s : Text) : Text := trimEnd (trimStart s)

def isBlankOnly (s : Text) : Bool := s.all isBlank

theorem trimNilIff (s : Text) : trim s = [] ↔ isBlankOnly s = true := by
  have all (p : CodePoint → Bool) (l : Text) : l.dropWhile p = [] ↔ l.all p = true := by
    induction l with
    | nil => simp
    | cons c r ih => by_cases h : p c <;> simp [h, ih]
  constructor
  · intro h
    have back : ((trimStart s).reverse).dropWhile isBlank = [] := by
      simpa [trim, trimEnd] using h
    have blanks := (all _ _).mp back
    have start : trimStart s = [] := by
      cases hs : trimStart s with
      | nil => rfl
      | cons c r =>
        have head : isBlank c = true := by simp [hs] at blanks; exact blanks.2
        have stop : isBlank c = false := by
          have := List.head?_dropWhile_not isBlank s
          simp only [trimStart] at hs
          simpa [hs] using this
        simp [head] at stop
    exact (all _ _).mp start
  · intro h
    have start : trimStart s = [] := (all _ _).mpr h
    simp [trim, start, trimEnd]

def occursIn (needle : Text) : Text → Bool
  | [] => needle.isEmpty
  | c :: rest => needle.isPrefixOf (c :: rest) || occursIn needle rest

theorem occursInIff (needle s : Text) : occursIn needle s = true ↔ needle <:+: s := by
  induction s with
  | nil => simp [occursIn]
  | cons c rest ih => simp [occursIn, ih, List.infix_cons_iff]

def splitOn (separator : CodePoint) : Text → List Text
  | [] => [[]]
  | c :: rest =>
    match splitOn separator rest with
    | [] => [[c]]
    | part :: parts => if c = separator then [] :: part :: parts else (c :: part) :: parts

theorem splitOnCount (separator : CodePoint) (s : Text) :
    (splitOn separator s).length = s.count separator + 1 := by
  induction s with
  | nil => rfl
  | cons c rest ih =>
    cases h : splitOn separator rest with
    | nil => simp [h] at ih
    | cons part parts =>
      by_cases hc : c = separator <;> simp_all [splitOn]

def joinWith (separator : Text) (parts : List Text) : Text := separator.intercalate parts

def distinct : List Text → List Text
  | [] => []
  | s :: rest => s :: (distinct rest).filter (· ≠ s)

theorem memDistinct {s : Text} {parts : List Text} : s ∈ distinct parts ↔ s ∈ parts := by
  induction parts with
  | nil => simp [distinct]
  | cons head rest ih =>
    by_cases h : s = head <;> simp [distinct, h, ih]

theorem distinctNodup (parts : List Text) : (distinct parts).Nodup := by
  induction parts with
  | nil => simp [distinct]
  | cons head rest ih =>
    simp only [distinct, List.nodup_cons]
    exact ⟨by simp, ih.filter _⟩

def padStart (width : Nat) (s : Text) : Text := List.replicate (width - s.length) (.char ' ') ++ s

def padEnd (width : Nat) (s : Text) : Text := s ++ List.replicate (width - s.length) (.char ' ')

def ofNat (n : Nat) : Text := (Nat.toDigits 10 n).map .char

def ofInt : Int → Text
  | .ofNat n => ofNat n
  | .negSucc n => .char '-' :: ofNat (n + 1)

structure Stretch where
  first : Nat
  last : Nat
  step : Nat
  target : Nat
  deriving DecidableEq, Repr

def Stretch.image? (stretch : Stretch) (n : Nat) : Option Nat :=
  if stretch.first ≤ n ∧ n ≤ stretch.last ∧ (n - stretch.first) % stretch.step = 0 then
    some (stretch.target + (n - stretch.first))
  else none

structure Span where
  first : Nat
  last : Nat
  deriving DecidableEq, Repr

def Span.holds (span : Span) (n : Nat) : Bool := span.first ≤ n && n ≤ span.last

def inSpans (spans : List Span) (c : CodePoint) : Bool := spans.any (·.holds c.toNat)

def image? (stretches : List Stretch) (sequences : List (Nat × List Nat)) (c : CodePoint) : Option Text :=
  match sequences.lookup c.toNat with
  | some codes => some (codes.map CodePoint.ofNat)
  | none => (stretches.findSome? (·.image? c.toNat)).map (fun n => [CodePoint.ofNat n])

end CollectionSearch.Text
