import CollectionSearch.Proofs.Number.Numeral
import CollectionSearch.Proofs.Query.Plain

/-! A search line is refused for one thing only: a year in more digits than a numeral may have. Any other word that
looks like a numeric restriction and has no number to offer is a term like every word. -/
namespace CollectionSearch

structure Piece.Undivided (line : Text) : Prop where
  some : line ≠ []
  blankless : ∀ c ∈ line, Text.isBlank c = false
  unquoted : quote ∉ line

theorem Piece.scanUndivided {line : Text} (undivided : Undivided line) : scan line = [.word line] := by
  obtain ⟨some, blankless, unquoted⟩ := undivided
  obtain ⟨c, rest, rfl⟩ := List.exists_cons_of_ne_nil some
  exact scanWord (fun same => unquoted (same ▸ List.mem_cons_self)) blankless

namespace Comparator

@[simp] theorem aboveSymbol : above.symbol = [.char '>'] := rfl

@[simp] theorem belowSymbol : below.symbol = [.char '<'] := rfl

@[simp] theorem atLeastSymbol : atLeast.symbol = [.char '>', .char '='] := rfl

@[simp] theorem atMostSymbol : atMost.symbol = [.char '<', .char '='] := rfl

end Comparator

namespace Token

structure Key (key : Text) : Prop where
  some : key ≠ []
  letters : ∀ c ∈ key, isLetter c = true

structure Comparison (word key : Text) (comparator : Comparator) (value : Text) : Prop where
  written : word = key ++ comparator.symbol ++ value
  isKey : Key key
  ordered : comparator ∈ [.above, .below, .atLeast, .atMost]
  some : value ≠ []
  longest : comparator ∈ [.above, .below] → ∀ c rest, value ≠ .char '=' :: c :: rest

structure Assignment (word key value : Text) : Prop where
  written : word = key ++ .char ':' :: value
  isKey : Key key
  some : value ≠ []

theorem aboveStops : isLetter (.char '>') = false := by decide

theorem belowStops : isLetter (.char '<') = false := by decide

theorem colonStops : isLetter (.char ':') = false := by decide

theorem splitKeyOf {key : Text} (isKey : Key key) {mark : CodePoint} (stops : isLetter mark = false) (rest : Text) :
    splitKey? (key ++ mark :: rest) = some (key, mark :: rest) := by
  have front := Sequence.takeWhileStopped stops key rest
  have behind := Sequence.dropWhileStopped stops key rest
  rw [List.takeWhile_eq_self_iff.mpr isKey.letters] at front
  rw [List.dropWhile_eq_nil_iff.mpr isKey.letters] at behind
  unfold splitKey?
  rw [front, behind]
  split
  · exact absurd rfl isKey.some
  · rfl

theorem splitKeyWritten {word key rest : Text} (found : splitKey? word = some (key, rest)) :
    word = key ++ rest ∧ Key key := by
  unfold splitKey? at found
  split at found
  · contradiction
  · rename_i c letters front
    cases found
    rw [← front, List.takeWhile_append_dropWhile]
    exact ⟨rfl, front ▸ List.cons_ne_nil _ _, fun x member => List.mem_takeWhile_imp member⟩

theorem comparisonIff {word key value : Text} {comparator : Comparator} :
    comparison? word = some (key, comparator, value) ↔ Comparison word key comparator value := by
  constructor
  · intro found
    simp only [comparison?, bind, Option.bind_eq_some_iff] at found
    obtain ⟨⟨letters, rest⟩, front, last⟩ := found
    obtain ⟨written, isKey⟩ := splitKeyWritten front
    dsimp only at last written isKey
    -- the symbol stands in front of the rest; a longer one was tried before a shorter one
    split at last
    · cases last
      exact ⟨by simp [written], isKey, by simp, List.cons_ne_nil _ _, by simp⟩
    · cases last
      exact ⟨by simp [written], isKey, by simp, List.cons_ne_nil _ _, by simp⟩
    · rename_i longer
      cases last
      refine ⟨by simp [written], isKey, by simp, List.cons_ne_nil _ _, ?_⟩
      rintro - c rest same
      cases same
      exact longer _ _ rfl rfl
    · rename_i longer
      cases last
      refine ⟨by simp [written], isKey, by simp, List.cons_ne_nil _ _, ?_⟩
      rintro - c rest same
      cases same
      exact longer _ _ rfl rfl
    · contradiction
  · rintro ⟨rfl, isKey, ordered, some, longest⟩
    obtain ⟨c, rest, rfl⟩ := List.exists_cons_of_ne_nil some
    rw [List.append_assoc]
    simp only [List.mem_cons, List.not_mem_nil, or_false] at ordered
    rcases ordered with rfl | rfl | rfl | rfl
    · have front := splitKeyOf isKey aboveStops (c :: rest)
      have shorter := longest (by simp)
      simp only [comparison?, Comparator.aboveSymbol, List.cons_append, List.nil_append, front, Option.bind_eq_bind,
        Option.bind_some]
      split <;> simp_all
    · have front := splitKeyOf isKey belowStops (c :: rest)
      have shorter := longest (by simp)
      simp only [comparison?, Comparator.belowSymbol, List.cons_append, List.nil_append, front, Option.bind_eq_bind,
        Option.bind_some]
      split <;> simp_all
    · have front := splitKeyOf isKey aboveStops (.char '=' :: c :: rest)
      simp [comparison?, front]
    · have front := splitKeyOf isKey belowStops (.char '=' :: c :: rest)
      simp [comparison?, front]

theorem assignmentIff {word key value : Text} : assignment? word = some (key, value) ↔ Assignment word key value := by
  constructor
  · intro found
    simp only [assignment?, bind, Option.bind_eq_some_iff] at found
    obtain ⟨⟨letters, rest⟩, front, last⟩ := found
    obtain ⟨written, isKey⟩ := splitKeyWritten front
    dsimp only at last written isKey
    split at last
    · cases last
      exact ⟨written, isKey, List.cons_ne_nil _ _⟩
    · contradiction
  · rintro ⟨rfl, isKey, some⟩
    obtain ⟨c, rest, rfl⟩ := List.exists_cons_of_ne_nil some
    simp [assignment?, splitKeyOf isKey colonStops (c :: rest)]

theorem assignmentNotComparison {word key value : Text} (shape : Assignment word key value) :
    comparison? word = none := by
  obtain ⟨rfl, isKey, some⟩ := shape
  simp [comparison?, splitKeyOf isKey colonStops value]

structure Keyed (word : Text) : Prop where
  plain : word ≠ orWord
  included : ∀ rest, word ≠ .char '-' :: rest
  untagged : ∀ rest, word ≠ .char '@' :: rest

theorem keyed {key rest : Text} {mark : CodePoint} (isKey : Key key) (stops : isLetter mark = false) :
    Keyed (key ++ mark :: rest) := by
  obtain ⟨c, letters, rfl⟩ := List.exists_cons_of_ne_nil isKey.some
  have head := isKey.letters c List.mem_cons_self
  refine ⟨fun same => ?_, fun rest same => ?_, fun rest same => ?_⟩
  · have member : mark ∈ orWord := same ▸ List.mem_append_right _ List.mem_cons_self
    have letters : ∀ x ∈ orWord, isLetter x = true := by decide
    simp [letters mark member] at stops
  · cases same
    exact absurd head (by decide)
  · cases same
    exact absurd head (by decide)

theorem comparisonMarked {word key value : Text} {comparator : Comparator}
    (shape : Comparison word key comparator value) :
    ∃ mark rest, word = key ++ mark :: rest ∧ mark ∈ [CodePoint.char '>', .char '<'] ∧ rest ≠ [] := by
  obtain ⟨rfl, _, ordered, some, _⟩ := shape
  simp only [List.mem_cons, List.not_mem_nil, or_false] at ordered
  rcases ordered with rfl | rfl | rfl | rfl
  · exact ⟨_, value, List.append_assoc _ _ _, by decide, some⟩
  · exact ⟨_, value, List.append_assoc _ _ _, by decide, some⟩
  · exact ⟨_, .char '=' :: value, List.append_assoc _ _ _, by decide, List.cons_ne_nil _ _⟩
  · exact ⟨_, .char '=' :: value, List.append_assoc _ _ _, by decide, List.cons_ne_nil _ _⟩

theorem comparisonKeyed {word key value : Text} {comparator : Comparator}
    (shape : Comparison word key comparator value) : Keyed word := by
  obtain ⟨mark, rest, written, isMark, _⟩ := comparisonMarked shape
  have stops : ∀ mark ∈ [CodePoint.char '>', .char '<'], isLetter mark = false := by decide
  exact written ▸ keyed shape.isKey (stops mark isMark)

theorem ofWordComparison {word key value : Text} {comparator : Comparator}
    (shape : Comparison word key comparator value) :
    ofWord word = (numeric? (Text.lower key) comparator value).map (·.getD (.term (Text.lower word))) := by
  obtain ⟨plain, included, untagged⟩ := comparisonKeyed shape
  unfold ofWord
  rw [if_neg plain]
  split
  · exact absurd rfl (included _)
  · exact absurd rfl (untagged _)
  · rw [comparisonIff.mpr shape]

theorem ofWordAssignment {word key value : Text} (shape : Assignment word key value) :
    ofWord word = (assigned? (Text.lower key) value).map (·.getD (.term (Text.lower word))) := by
  obtain ⟨plain, included, untagged⟩ : Keyed word := shape.written ▸ keyed shape.isKey colonStops
  unfold ofWord
  rw [if_neg plain]
  split
  · exact absurd rfl (included _)
  · exact absurd rfl (untagged _)
  · rw [assignmentNotComparison shape, assignmentIff.mpr shape]

inductive Denotes : Text → Text → Prop where
  | year (value digits : Text) (numeral : Number.Numeral value digits) : Denotes "year".toText value
  | rating (value : Text) (x : Binary64) (read : Number.readReal? value = some x) (finite : x.isFinite = true) :
      Denotes "rating".toText value

inductive Refused (word : Text) : Nat → Prop where
  | comparison (key value digits : Text) (comparator : Comparator) (shape : Comparison word key comparator value)
      (year : Text.lower key = "year".toText) (numeral : Number.Numeral value digits)
      (long : Fault.digitLimit < digits.length) : Refused word digits.length
  | assignment (key value digits : Text) (shape : Assignment word key value)
      (year : Text.lower key = "year".toText) (numeral : Number.Numeral value digits)
      (long : Fault.digitLimit < digits.length) : Refused word digits.length

/- The shape of a restriction to numbers without a number in it. -/
inductive Unvalued (word : Text) : Prop where
  | comparison (key value : Text) (comparator : Comparator) (shape : Comparison word key comparator value)
      (none : ¬ Denotes (Text.lower key) value) : Unvalued word
  | assignment (key value : Text) (shape : Assignment word key value)
      (numeric : Text.lower key = "year".toText ∨ Text.lower key = "rating".toText)
      (none : ¬ Denotes (Text.lower key) value) : Unvalued word

theorem finiteDenotes {value : Text} {x : Number} (found : finite? value = some x) : Denotes "rating".toText value := by
  simp only [finite?, bind, Option.bind_eq_some_iff] at found
  obtain ⟨real, read, last⟩ := found
  split at last
  · rename_i finite
    exact .rating value real read finite
  · contradiction

theorem numericUnvalued {key value : Text} (comparator : Comparator) (none : ¬ Denotes key value) :
    numeric? key comparator value = .ok Option.none := by
  unfold numeric?
  split
  · rename_i year
    have notWhole : ¬ Number.isWhole value = true := by
      intro whole
      obtain ⟨digits, numeral⟩ := Number.isWholeIff.mp whole
      exact none (year ▸ .year value digits numeral)
    rw [if_neg notWhole]
    rfl
  · split
    · rename_i rating
      have notFinite : finite? value = Option.none := by
        cases found : finite? value with
        | none => rfl
        | some x => exact absurd (rating ▸ finiteDenotes found) none
      rw [notFinite]
      rfl
    · rfl

theorem numericRefused {key value : Text} {comparator : Comparator} {fault : Fault} :
    numeric? key comparator value = .error fault ↔ key = "year".toText ∧ ∃ digits, Number.Numeral value digits ∧
      Fault.digitLimit < digits.length ∧ fault = .oversizedNumeral digits.length := by
  constructor
  · intro failed
    unfold numeric? at failed
    split at failed
    · rename_i year
      split at failed
      · rename_i whole
        obtain ⟨digits, numeral⟩ := Number.isWholeIff.mp whole
        refine ⟨year, digits, numeral, ?_⟩
        rcases Number.readWholeNumeral numeral with ⟨long, read⟩ | ⟨_, n, read⟩
        · simp only [read, bind, Except.bind, Except.error.injEq] at failed
          exact ⟨long, failed.symm⟩
        · simp [read, bind, Except.bind, pure, Except.pure] at failed
      · cases failed
    · split at failed <;> cases failed
  · rintro ⟨rfl, digits, numeral, long, rfl⟩
    have whole : Number.isWhole value = true := Number.isWholeIff.mpr ⟨digits, numeral⟩
    rcases Number.readWholeNumeral numeral with ⟨_, read⟩ | ⟨short, _⟩
    · simp [numeric?, whole, read, bind, Except.bind]
    · omega

theorem assignedNumeric {key : Text} (numeric : key = "year".toText ∨ key = "rating".toText) (value : Text) :
    assigned? key value = numeric? key .equal value := by
  rcases numeric with rfl | rfl <;> rfl

theorem assignedRefused {key value : Text} {fault : Fault} (failed : assigned? key value = .error fault) :
    numeric? key .equal value = .error fault := by
  unfold assigned? at failed
  dsimp only at failed
  repeat' split at failed
  all_goals first | cases failed | exact failed

theorem ofWordRefused {word : Text} {fault : Fault} :
    ofWord word = .error fault ↔ ∃ digits, Refused word digits ∧ fault = .oversizedNumeral digits := by
  constructor
  · intro failed
    unfold ofWord at failed
    dsimp only at failed
    split at failed
    · cases failed
    split at failed
    · cases failed
    · cases failed
    · split at failed
      · rename_i key comparator value found
        obtain ⟨year, digits, numeral, long, same⟩ := numericRefused.mp (Outcome.mapError.mp failed)
        exact ⟨_, .comparison key value digits comparator (comparisonIff.mp found) year numeral long, same⟩
      split at failed
      · rename_i key value found
        obtain ⟨year, digits, numeral, long, same⟩ := numericRefused.mp (assignedRefused (Outcome.mapError.mp failed))
        exact ⟨_, .assignment key value digits (assignmentIff.mp found) year numeral long, same⟩
      · cases failed
  · rintro ⟨_, refused, rfl⟩
    cases refused with
    | comparison key value digits comparator shape year numeral long =>
      rw [ofWordComparison shape, Outcome.mapError]
      exact numericRefused.mpr ⟨year, digits, numeral, long, rfl⟩
    | assignment key value digits shape year numeral long =>
      rw [ofWordAssignment shape, Outcome.mapError, assignedNumeric (.inl year)]
      exact numericRefused.mpr ⟨year, digits, numeral, long, rfl⟩

theorem ofWordUnvalued {word : Text} (unvalued : Unvalued word) : ofWord word = .ok (.term (Text.lower word)) := by
  cases unvalued with
  | comparison key value comparator shape none =>
    rw [ofWordComparison shape, numericUnvalued comparator none]
    rfl
  | assignment key value shape numeric none =>
    rw [ofWordAssignment shape, assignedNumeric numeric, numericUnvalued .equal none]
    rfl

theorem scanRefused {line : Text} {fault : Fault} (failed : scan line = .error fault) :
    ∃ word, .word word ∈ Segment.ofPieces (Piece.scan line) ∧
      ∃ digits, Refused word digits ∧ fault = .oversizedNumeral digits := by
  obtain ⟨segment, member, cause⟩ := Outcome.eachError failed
  cases segment with
  | phrase text | negated text => cases cause
  | word word => exact ⟨word, member, ofWordRefused.mp cause⟩

end Token

namespace Parsed

theorem parseError {line : Text} {fault : Fault} : parse line = .error fault ↔ Token.scan line = .error fault :=
  Outcome.mapError

theorem parseTerm {line word : Text} {parsed : Parsed} (ok : parse line = .ok parsed)
    (member : .word word ∈ Segment.ofPieces (Piece.scan line))
    (plain : Token.ofWord word = .ok (.term (Text.lower word))) : ∃ group ∈ parsed.groups, Text.lower word ∈ group := by
  obtain ⟨tokens, scanned, rfl⟩ := parseOk.mp ok
  obtain ⟨token, present, read⟩ := Outcome.eachOkOf scanned member
  cases plain.symm.trans read
  have term : Token.term (Text.lower word) ≠ .either := nofun
  exact (Clause.groupsTerms _ _).mpr (Clause.clauseOfToken term present)

theorem parseRefusal (given : Option Text) :
    let line := given.getD []
    let words := fun word : Text => .word word ∈ Segment.ofPieces (Piece.scan line)
    ((∃ parsed, parse line = .ok parsed) ↔ ∀ word, words word → ∀ digits, ¬ Token.Refused word digits) ∧
    (∀ fault, parse line = .error fault →
      ∃ word digits, words word ∧ Token.Refused word digits ∧ fault = .oversizedNumeral digits) ∧
    ∀ parsed, parse line = .ok parsed → ∀ word, words word → Token.Unvalued word →
      ∃ group ∈ parsed.groups, Text.lower word ∈ group := by
  intro line words
  refine ⟨⟨?_, fun accepted => ?_⟩, fun fault failed => ?_, fun parsed ok word member unvalued => ?_⟩
  · rintro ⟨parsed, ok⟩ word member digits refused
    obtain ⟨tokens, scanned, rfl⟩ := parseOk.mp ok
    obtain ⟨token, _, read⟩ := Outcome.eachOkOf scanned member
    have failed := Token.ofWordRefused.mpr ⟨digits, refused, rfl⟩
    cases failed.symm.trans read
  · cases outcome : parse line with
    | ok parsed => exact ⟨parsed, rfl⟩
    | error fault =>
      obtain ⟨word, member, digits, refused, _⟩ := Token.scanRefused (parseError.mp outcome)
      exact absurd refused (accepted word member digits)
  · obtain ⟨word, member, digits, refused, same⟩ := Token.scanRefused (parseError.mp failed)
    exact ⟨word, digits, member, refused, same⟩
  · exact parseTerm ok member (Token.ofWordUnvalued unvalued)

theorem parseUndivided {line : Text} (undivided : Piece.Undivided line) {digits : Nat}
    (refused : Token.Refused line digits) : parse line = .error (.oversizedNumeral digits) := by
  have failed : Token.ofWord line = .error (.oversizedNumeral digits) := Token.ofWordRefused.mpr ⟨digits, refused, rfl⟩
  rw [parseError, Token.scan, Piece.scanUndivided undivided]
  simp [Segment.ofPieces, Token.ofSegment, failed, bind, Except.bind]

theorem parseOnes {n : Nat} (long : Fault.digitLimit < n) :
    parse ("year:".toText ++ List.replicate n (.char '1')) = .error (.oversizedNumeral n) := by
  have ones : ∀ c ∈ List.replicate n (CodePoint.char '1'), c = .char '1' := fun c => List.eq_of_mem_replicate
  have some : List.replicate n (CodePoint.char '1') ≠ [] := by
    simp only [ne_eq, List.replicate_eq_nil_iff]
    omega
  have undivided : Piece.Undivided ("year:".toText ++ List.replicate n (.char '1')) := by
    refine ⟨List.append_ne_nil_of_right_ne_nil _ some, fun c member => ?_, fun member => ?_⟩
    · rcases List.mem_append.mp member with front | behind
      · exact (by decide : ∀ c ∈ "year:".toText, Text.isBlank c = false) c front
      · exact ones c behind ▸ by decide
    · rcases List.mem_append.mp member with front | behind
      · exact absurd front (by decide)
      · exact absurd (ones _ behind) (by decide)
  have numeral : Number.Numeral (List.replicate n (.char '1')) (List.replicate n (.char '1')) :=
    ⟨.inl rfl, some, fun c member => ones c member ▸ by decide +kernel⟩
  have shape : Token.Assignment ("year:".toText ++ List.replicate n (.char '1')) "year".toText
      (List.replicate n (.char '1')) := ⟨rfl, ⟨by decide, by decide⟩, some⟩
  have refused := Token.Refused.assignment _ _ _ shape (by decide +kernel) numeral (by simpa using long)
  rw [List.length_replicate] at refused
  exact parseUndivided undivided refused

theorem parseOnesRefused :
    parse ("year:".toText ++ List.replicate 4301 (.char '1')) = .error (.oversizedNumeral 4301) :=
  parseOnes (by decide)

end Parsed
end CollectionSearch
