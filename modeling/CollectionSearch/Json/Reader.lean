import CollectionSearch.Number.Reading

/-!
Reading one value of the data format. Lexemes come with the length of the text that they start, up to the first place
where none can be read; a numeral with too many digits is noted with their number. The reader goes through them once;
its place says what may come next, and holds the values read so far of each open array and object.
-/
namespace CollectionSearch.Json

inductive Complaint where
  | mark
  | value
  | name
  | colon
  | comma
  | nothing
  | unterminated
  | control
  | escape
  | code
  deriving DecidableEq, Repr

def Complaint.text : Complaint → Text
  | .mark => "Unexpected UTF-8 BOM (decode using utf-8-sig)".toText
  | .value => "Expecting value".toText
  | .name => "Expecting property name enclosed in double quotes".toText
  | .colon => "Expecting ':' delimiter".toText
  | .comma => "Expecting ',' delimiter".toText
  | .nothing => "Extra data".toText
  | .unterminated => "Unterminated string starting at".toText
  | .control => "Invalid control character at".toText
  | .escape => "Invalid \\escape".toText
  | .code => "Invalid \\uXXXX escape".toText

/-- A complaint about what stands where so much of the text is left. -/
structure Refusal where
  complaint : Complaint
  left : Nat
  deriving DecidableEq, Repr

def Refusal.message (refusal : Refusal) (s : Text) : Text :=
  let before := s.take (s.length - refusal.left)
  let row := before.count (.char '\n') + 1
  let column := (before.reverse.takeWhile (· != .char '\n')).length + 1
  refusal.complaint.text ++ ": line ".toText ++ Text.ofNat row ++ " column ".toText ++ Text.ofNat column ++
    " (char ".toText ++ Text.ofNat before.length ++ ")".toText

inductive Lexeme where
  | openArray
  | closeArray
  | openObject
  | closeObject
  | comma
  | colon
  | scalar (value : Json)
  | text (value : Text)
  | oversized (digits : Nat)
  | broken (refusal : Refusal)
  | unreadable

namespace Lexeme

def isGap (c : CodePoint) : Bool := c = .char ' ' || c = .char '\t' || c = .char '\n' || c = .char '\r'

def hexValue? (c : CodePoint) : Option Nat :=
  if c.between '0' '9' then some (c.toNat - 0x30)
  else if c.between 'a' 'f' then some (c.toNat - 0x57)
  else if c.between 'A' 'F' then some (c.toNat - 0x37)
  else none

def hexCode? (digits : Text) : Option Nat :=
  (digits.mapM hexValue?).map (fun values => values.foldl (fun n d => 16 * n + d) 0)

def escape? (c : CodePoint) : Option CodePoint :=
  if c = .char '\x22' ∨ c = .char '\\' ∨ c = .char '/' then some c
  else if c = .char 'b' then some (.ofNat 0x08)
  else if c = .char 'f' then some (.ofNat 0x0C)
  else if c = .char 'n' then some (.ofNat 0x0A)
  else if c = .char 'r' then some (.ofNat 0x0D)
  else if c = .char 't' then some (.ofNat 0x09)
  else none

inductive Written where
  | plain (c : CodePoint)
  | code (n : Nat)

def followed (first : Written) (rest : Except Refusal (List Written × Text)) : Except Refusal (List Written × Text) :=
  rest.map (fun (items, tail) => (first :: items, tail))

/-- What is written up to the closing quote, and what follows it. A code of 16 bits is read only where more text
follows. -/
def written (start : Nat) : Text → Except Refusal (List Written × Text)
  | [] => .error ⟨.unterminated, start⟩
  | .char '\x22' :: rest => .ok ([], rest)
  | .char '\\' :: .char 'u' :: a :: b :: c :: d :: e :: rest =>
    match hexCode? [a, b, c, d] with
    | some code => followed (.code code) (written start (e :: rest))
    | none => .error ⟨.code, rest.length + 6⟩
  | .char '\\' :: .char 'u' :: rest => .error ⟨.code, rest.length + 1⟩
  | [.char '\\'] => .error ⟨.unterminated, start⟩
  | .char '\\' :: c :: rest =>
    match escape? c with
    | some plain => followed (.plain plain) (written start rest)
    | none => .error ⟨.escape, rest.length + 2⟩
  | c :: rest =>
    if c.toNat < 0x20 then .error ⟨.control, rest.length + 1⟩ else followed (.plain c) (written start rest)

theorem followedTail {first : Written} {rest : Except Refusal (List Written × Text)} {items : List Written}
    {tail : Text} (made : followed first rest = .ok (items, tail)) : ∃ inner, rest = .ok (inner, tail) := by
  cases rest with
  | error refusal => cases made
  | ok read =>
    cases made
    exact ⟨_, rfl⟩

theorem writtenShorter {start : Nat} {s : Text} {items : List Written} {tail : Text}
    (h : written start s = .ok (items, tail)) : tail.length < s.length := by
  fun_induction written start s generalizing items tail with
  | case1 | case4 | case5 | case6 | case8 | case9 => contradiction
  | case2 rest =>
    cases h
    exact Nat.lt_succ_self _
  | case3 a b c d e rest code found ih =>
    obtain ⟨inner, read⟩ := followedTail h
    have := ih read
    simp only [List.length_cons] at this ⊢
    omega
  | case7 c rest _ _ plain found ih =>
    obtain ⟨inner, read⟩ := followedTail h
    have := ih read
    simp only [List.length_cons]
    omega
  | case10 c rest _ _ _ _ _ _ ih =>
    obtain ⟨inner, read⟩ := followedTail h
    have := ih read
    simp only [List.length_cons]
    omega

def ofWritten : List Written → Text
  | [] => []
  | .plain c :: rest => c :: ofWritten rest
  | .code high :: .code low :: rest =>
    if 0xD800 ≤ high ∧ high < 0xDC00 ∧ 0xDC00 ≤ low ∧ low < 0xE000 then
      .ofNat (0x10000 + (high - 0xD800) * 0x400 + (low - 0xDC00)) :: ofWritten rest
    else .ofNat high :: ofWritten (.code low :: rest)
  | .code code :: rest => .ofNat code :: ofWritten rest

def wholeDigits (c : CodePoint) (rest : Text) : Text × Text :=
  if c = .char '0' then ([c], rest)
  else if Number.isPlainDigit c then
    (c :: rest.takeWhile Number.isPlainDigit, rest.dropWhile Number.isPlainDigit)
  else ([], [])

def fractionDigits : Text → Text × Text
  | .char '.' :: c :: rest =>
    if Number.isPlainDigit c then
      (.char '.' :: c :: rest.takeWhile Number.isPlainDigit, rest.dropWhile Number.isPlainDigit)
    else ([], .char '.' :: c :: rest)
  | s => ([], s)

def exponentDigits (s : Text) : Text × Text :=
  match s with
  | [] => ([], [])
  | mark :: rest =>
    if mark = .char 'e' ∨ mark = .char 'E' then
      match rest with
      | [] => ([], s)
      | c :: tail =>
        let sign := if c = .char '-' ∨ c = .char '+' then [c] else []
        let digits := if sign.isEmpty then rest else tail
        match digits.takeWhile Number.isPlainDigit with
        | [] => ([], s)
        | d :: row => (mark :: sign ++ d :: row, digits.dropWhile Number.isPlainDigit)
    else ([], s)

theorem wholeShorter (c : CodePoint) (rest : Text) : (wholeDigits c rest).2.length ≤ rest.length := by
  unfold wholeDigits
  split
  · exact Nat.le_refl _
  · split
    · exact (List.dropWhile_sublist _).length_le
    · exact Nat.zero_le _

theorem fractionShorter (s : Text) : (fractionDigits s).2.length ≤ s.length := by
  unfold fractionDigits
  split
  · rename_i c rest
    split
    · exact Nat.le_succ_of_le (Nat.le_succ_of_le (List.dropWhile_sublist _).length_le)
    · exact Nat.le_refl _
  · exact Nat.le_refl _

theorem exponentShorter (s : Text) : (exponentDigits s).2.length ≤ s.length := by
  unfold exponentDigits
  split
  · exact Nat.le_refl _
  · split
    · split
      · exact Nat.le_refl _
      · rename_i mark _ c tail
        simp only
        split
        · exact Nat.le_refl _
        · refine Nat.le_trans (List.dropWhile_sublist _).length_le ?_
          grind
    · exact Nat.le_refl _

def numeralValue (negative : Bool) (digits fraction exponent : Text) : Lexeme :=
  if fraction.isEmpty && exponent.isEmpty then
    if Fault.digitLimit < digits.length then oversized digits.length
    else
      let size : Int := Number.denotedPlain digits
      scalar (.number (.whole (if negative then -size else size)))
  else match Number.readDecimal? negative (digits ++ fraction ++ exponent) with
    | some x => scalar (.number (.real x))
    | none => unreadable

def numeral (negative : Bool) (c : CodePoint) (rest : Text) : Lexeme × Text :=
  let (digits, afterDigits) := wholeDigits c rest
  let (fraction, afterFraction) := fractionDigits afterDigits
  let (exponent, tail) := exponentDigits afterFraction
  if digits.isEmpty then (unreadable, []) else (numeralValue negative digits fraction exponent, tail)

theorem numeralShorter (negative : Bool) (c : CodePoint) (rest : Text) :
    (numeral negative c rest).2.length ≤ rest.length := by
  unfold numeral
  simp only
  split
  · exact Nat.zero_le _
  · exact Nat.le_trans (exponentShorter _) (Nat.le_trans (fractionShorter _) (wholeShorter c rest))

def words : List (Text × Json) := [
  ("null".toText, .null), ("true".toText, .flag true), ("false".toText, .flag false),
  ("NaN".toText, .number (.real .nan)), ("Infinity".toText, .number (.real (.infinite false))),
  ("-Infinity".toText, .number (.real (.infinite true)))]

def next (c : CodePoint) (rest : Text) : Lexeme × Text :=
  if c = .char '[' then (openArray, rest)
  else if c = .char ']' then (closeArray, rest)
  else if c = .char '\x7b' then (openObject, rest)
  else if c = .char '\x7d' then (closeObject, rest)
  else if c = .char ',' then (comma, rest)
  else if c = .char ':' then (colon, rest)
  else if c = .char '\x22' then
    match written (rest.length + 1) rest with
    | .ok (items, tail) => (text (ofWritten items), tail)
    | .error refusal => (broken refusal, [])
  else match words.find? (fun word => word.1.isPrefixOf (c :: rest)) with
    | some (word, value) => (scalar value, (c :: rest).drop word.length)
    | none =>
      match c, rest with
      | .char '-', d :: rest => numeral true d rest
      | c, rest => numeral false c rest

theorem wordsNotNil : ∀ word ∈ words, word.1 ≠ [] := by decide

theorem nextShorter (c : CodePoint) (rest : Text) : (next c rest).2.length ≤ rest.length := by
  unfold next
  repeat' split
  · exact Nat.le_refl _
  · exact Nat.le_refl _
  · exact Nat.le_refl _
  · exact Nat.le_refl _
  · exact Nat.le_refl _
  · exact Nat.le_refl _
  · rename_i found
    exact Nat.le_of_lt (writtenShorter found)
  · exact Nat.zero_le _
  · rename_i word _ found
    have some := wordsNotNil _ (List.mem_of_find?_eq_some found)
    have : 0 < word.length := List.length_pos_iff.mpr some
    simp only [List.length_drop, List.length_cons]
    omega
  · exact Nat.le_succ_of_le (numeralShorter true _ _)
  · exact numeralShorter false _ _

def isLast : Lexeme → Bool
  | broken _ | unreadable => true
  | _ => false

def scan : Text → List (Nat × Lexeme)
  | [] => []
  | c :: rest =>
    if isGap c then scan rest
    else if (next c rest).1.isLast then [(rest.length + 1, (next c rest).1)]
    else (rest.length + 1, (next c rest).1) :: scan (next c rest).2
termination_by s => s.length
decreasing_by
  · simp
  · have := nextShorter c rest
    simp only [List.length_cons]
    omega

end Lexeme

inductive Flaw where
  | malformed (refusal : Refusal)
  | oversized (digits : Nat)
  | nested (inArray : Bool)
  deriving DecidableEq, Repr

inductive Frame where
  | item (done : List Json)
  | member (done : Members) (key : Text)

inductive Place where
  | value (outer : List Frame)
  | itemOrEnd (outer : List Frame)
  | afterItem (done : List Json) (outer : List Frame)
  | keyOrEnd (outer : List Frame)
  | key (done : Members) (outer : List Frame)
  | afterKey (done : Members) (key : Text) (outer : List Frame)
  | afterMember (done : Members) (outer : List Frame)
  | finished (value : Json)

namespace Place

def expected : Place → Complaint
  | .value _ | .itemOrEnd _ => .value
  | .afterItem _ _ | .afterMember _ _ => .comma
  | .keyOrEnd _ | .key _ _ => .name
  | .afterKey _ _ _ => .colon
  | .finished _ => .nothing

def complete (value : Json) : List Frame → Place
  | [] => .finished value
  | .item done :: outer => .afterItem (done ++ [value]) outer
  | .member done name :: outer => .afterMember (done.put name value) outer

def start (limit : Nat) (outer : List Frame) (left : Nat) : Lexeme → Except Flaw Place
  | .scalar v => .ok (complete v outer)
  | .text v => .ok (complete (.text v) outer)
  | .openArray => if limit ≤ outer.length then .error (.nested true) else .ok (.itemOrEnd outer)
  | .openObject => if limit ≤ outer.length then .error (.nested false) else .ok (.keyOrEnd outer)
  | .oversized digits => .error (.oversized digits)
  | .broken refusal => .error (.malformed refusal)
  | _ => .error (.malformed ⟨.value, left⟩)

def step (limit : Nat) (place : Place) : Nat × Lexeme → Except Flaw Place
  | (left, lexeme) =>
    match place, lexeme with
    | .value outer, lexeme => start limit outer left lexeme
    | .itemOrEnd outer, .closeArray => .ok (complete (.array []) outer)
    | .itemOrEnd outer, lexeme => start limit (.item [] :: outer) left lexeme
    | .afterItem done outer, .comma => .ok (.value (.item done :: outer))
    | .afterItem done outer, .closeArray => .ok (complete (.array done) outer)
    | .keyOrEnd outer, .closeObject => .ok (complete (.object []) outer)
    | .keyOrEnd outer, .text name => .ok (.afterKey [] name outer)
    | .key done outer, .text name => .ok (.afterKey done name outer)
    | .keyOrEnd _, .broken refusal | .key _ _, .broken refusal => .error (.malformed refusal)
    | .afterKey done name outer, .colon => .ok (.value (.member done name :: outer))
    | .afterMember done outer, .comma => .ok (.key done outer)
    | .afterMember done outer, .closeObject => .ok (complete (.object done) outer)
    | place, _ => .error (.malformed ⟨place.expected, left⟩)

end Place

def read (limit : Nat) (s : Text) : Except Flaw Json := do
  if s.head? = some (.char '\uFEFF') then throw (.malformed ⟨.mark, s.length⟩)
  match ← (Lexeme.scan s).foldlM (Place.step limit) (.value []) with
  | .finished value => return value
  | place => throw (.malformed ⟨place.expected, 0⟩)

end CollectionSearch.Json
