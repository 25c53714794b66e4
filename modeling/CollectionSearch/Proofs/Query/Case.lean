import CollectionSearch.Match.Ranking
import CollectionSearch.Proofs.Number.Case
import CollectionSearch.Proofs.Query.Plain
import CollectionSearch.Proofs.Query.Shape
import CollectionSearch.Proofs.Text.Agreement

/-! Lines in any case. The lower case of a line has the lower cases of its pieces, and apart from the words that count
only as they are written, each asks for the same. The one trace left is a sigma at the start of a genre, which may be
lowered either way; folding makes no difference between the two. -/
namespace CollectionSearch
namespace Piece

def lowered : Piece → Piece
  | .phrase text => .phrase (Text.lower text)
  | .word text => .word (Text.lower text)

theorem quoteDivider : Text.Divider quote := Token.markDivider (by decide) (by decide)

theorem spanLowered (s : Text) :
    span? (Text.lower s) = (span? s).map (fun found => (Text.lower found.1, Text.lower found.2)) := by
  have dividers : ∀ c, decide (c ≠ quote) = false → Text.Divider c := by
    intro c same
    rw [show c = quote by simpa using same]
    exact quoteDivider
  obtain ⟨front, behind⟩ := Text.lowerStopped dividers s
  have stop := List.head?_dropWhile_not (· ≠ quote) s
  cases closing : s.dropWhile (· ≠ quote) with
  | nil =>
    rw [closing, Text.lowerNilIff.mpr rfl] at behind
    rw [spanUnclosed closing, spanUnclosed behind]
    rfl
  | cons close rest =>
    rw [closing] at stop behind
    rw [Text.lowerDivider (dividers close (by simpa using stop))] at behind
    unfold span?
    rw [front, behind, closing]
    cases inner : s.takeWhile (· ≠ quote) with
    | nil => rfl
    | cons c more =>
      obtain ⟨d, others, same⟩ := List.exists_cons_of_ne_nil (Text.lowerSome c more)
      simp [same]

theorem nextLowered {c : CodePoint} (filled : Text.isBlank c = false) (rest : Text) :
    ∃ d more, Text.lower (c :: rest) = d :: more ∧ Text.isBlank d = false ∧
      next d more = ((next c rest).1.lowered, Text.lower (next c rest).2) := by
  have dividers : ∀ x, (!Text.isBlank x) = false → Text.Divider x :=
    fun x blank => Text.blankDivider (by simpa using blank)
  obtain ⟨front, behind⟩ := Text.lowerStopped dividers (c :: rest)
  by_cases phrase : c = quote ∧ ∃ found, span? rest = some found
  · obtain ⟨rfl, found, opened⟩ := phrase
    refine ⟨quote, Text.lower rest, Text.lowerDivider quoteDivider rest, quoteNotBlank, ?_⟩
    simp [next, spanLowered, opened, lowered]
  · have unopened : c = quote → span? rest = none :=
      fun same => Option.eq_none_iff_forall_ne_some.mpr (fun found opened => phrase ⟨same, found, opened⟩)
    obtain ⟨d, more, same⟩ := List.exists_cons_of_ne_nil (Text.lowerSome c rest)
    -- a blank or a quote at the head of the lower case stands at the head of the line
    have filledToo : Text.isBlank d = false := by
      by_contra blank
      rw [Bool.not_eq_false] at blank
      obtain ⟨_, _, split, _⟩ := Text.lowerFromHead (Text.blanksUntouched blank) same
      rw [(List.cons.inj split).1, blank] at filled
      contradiction
    have unopenedToo : d = quote → span? more = none := by
      rintro rfl
      obtain ⟨_, _, split, _⟩ := Text.lowerFromHead quoteDivider.untouched same
      have opens : c = quote := (List.cons.inj split).1
      rw [opens, Text.lowerDivider quoteDivider, List.cons.injEq] at same
      rw [← same.2, spanLowered, unopened opens]
      rfl
    refine ⟨d, more, same, filledToo, ?_⟩
    rw [nextUnopened filledToo unopenedToo, nextUnopened filled unopened, ← same, front, behind]
    rfl

theorem scanLowered (line : Text) : scan (Text.lower line) = (scan line).map lowered := by
  fun_induction scan line with
  | case1 => rw [Text.lowerNilIff.mpr rfl, scan, List.map_nil]
  | case2 c rest blank ih => rw [Text.lowerDivider (Text.blankDivider blank), scan, if_pos blank, ih]
  | case3 c rest notBlank ih =>
    obtain ⟨d, more, same, filled, step⟩ := nextLowered (by simpa using notBlank) rest
    rw [same, scan, if_neg (by simp [filled]), step, List.map_cons, ih]

end Piece

namespace Filter

def folded (f : Filter) : Filter :=
  if f.field = .genre then { f with value := .text (Text.fold f.value.display) } else f

theorem fieldFolded (f : Filter) : f.folded.field = f.field := by
  unfold folded
  split <;> rfl

theorem comparatorFolded (f : Filter) : f.folded.comparator = f.comparator := by
  unfold folded
  split <;> rfl

theorem sameSlotFolded (f g : Filter) : sameSlot f.folded g.folded = sameSlot f g := by
  simp only [sameSlot, fieldFolded, comparatorFolded]

theorem latestFolded (filters : List Filter) : latest (filters.map folded) = (latest filters).map folded := by
  induction filters with
  | nil => rfl
  | cons f rest ih =>
    have later : (rest.map folded).any (sameSlot f.folded) = rest.any (sameSlot f) := by
      rw [List.any_map]
      exact congrArg rest.any (funext (sameSlotFolded f))
    rw [List.map_cons, latest, latest, later, ih]
    split
    · rfl
    · rfl

end Filter

namespace Token

def folded : Token → Token
  | .filter f => .filter f.folded
  | token => token

theorem numericCase (key : Text) (comparator : Comparator) (inWord : Bool) (value : Text) :
    numeric? key comparator (Text.lowerFrom inWord value) = numeric? key comparator value := by
  unfold numeric?
  rw [Number.isWholeCase, finite?, Number.readRealCase]
  by_cases whole : Number.isWhole value = true
  · rw [Number.wholeKept (.inl whole)]
    rfl
  · rw [if_neg whole, if_neg whole]
    rfl

theorem lookupCase {α : Type} (table : List (Text × α)) (ascii : ∀ entry ∈ table, ∀ c ∈ entry.1, Text.isAscii c = true)
    (inWord : Bool) (value : Text) : table.lookup (Text.lowerFrom inWord value) = table.lookup (Text.lower value) := by
  induction table with
  | nil => rfl
  | cons entry rest ih =>
    obtain ⟨here, behind⟩ := List.forall_mem_cons.mp ascii
    have same : (Text.lowerFrom inWord value == entry.1) = (Text.lower value == entry.1) := by
      rw [Bool.eq_iff_iff, beq_iff_eq, beq_iff_eq]
      exact Text.lowerFromAscii here inWord
    rw [List.lookup_cons, List.lookup_cons, same, ih behind]

theorem assignedCase {key : Text} (exact : key ≠ "by".toText ∧ key ≠ "from".toText) (inWord : Bool) (value : Text) :
    (assigned? key (Text.lowerFrom inWord value)).map (Option.map folded) =
      (assigned? key value).map (Option.map folded) := by
  have kept := Text.lowerLowerFrom inWord value
  by_cases genre : key = "genre".toText
  · subst genre
    have read (value : Text) : assigned? "genre".toText value =
        .ok (some (.filter ⟨.genre, .equal, .text (Text.lower value)⟩)) := rfl
    have same : Text.fold (Text.lowerFrom inWord value) = Text.fold (Text.lower value) := by
      rw [Text.foldLowerFrom, Text.foldLower]
    rw [read, read, kept]
    simp only [Except.map, Option.map_some, folded, Filter.folded, FilterValue.display, same, if_true]
  · have unread : Text.lowerFrom inWord value = "unread".toText ↔ Text.lower value = "unread".toText :=
      Text.lowerFromAscii (by decide) inWord
    have named : ¬ (key = "by".toText ∨ key = "from".toText) := not_or.mpr exact
    unfold assigned?
    dsimp only
    simp only [kept, lookupCase Alias.kinds (by decide), lookupCase Alias.statuses (by decide),
      lookupCase Alias.flags (by decide), unread, numericCase, if_neg named, if_neg genre]

theorem mapGetD {outcome other : Except Fault (Option Token)} (term : Text)
    (alike : outcome.map (Option.map folded) = other.map (Option.map folded)) :
    (outcome.map (·.getD (.term term))).map folded = (other.map (·.getD (.term term))).map folded := by
  rcases Outcome.alikeCases alike with ⟨fault, rfl, rfl⟩ | ⟨a, b, rfl, rfl, same⟩
  · rfl
  · cases a <;> cases b <;> simp_all [Except.map, folded]

theorem ofWordTagged {text : Text} (some : text ≠ []) : ofWord (.char '@' :: text) =
    .ok (((Alias.kinds.lookup (Text.lower text)).map .kinds).getD (.term (Text.lower (.char '@' :: text)))) := by
  obtain ⟨c, rest, rfl⟩ := List.exists_cons_of_ne_nil some
  rfl

theorem capitalsLost {word : Text} : Text.lower word ≠ orWord ∧ Text.lower word ≠ Segment.notWord := by
  have lost : ∃ c ∈ orWord, ∃ d ∈ Segment.notWord, c = d ∧ Text.lowerChar c ≠ [c] := by decide +kernel
  obtain ⟨c, inOr, _, inNot, rfl, moved⟩ := lost
  exact ⟨fun same => moved (Text.lowerFromSettled (same ▸ inOr)).2,
    fun same => moved (Text.lowerFromSettled (same ▸ inNot)).2⟩

theorem ofWordLowered {word : Text} (shapeless : Shapeless word) :
    ofWord (Text.lower word) = .ok (.term (Text.lower word)) := by
  have kept {key : Text} {rest : Text} (written : Text.lower word = key ++ rest) : Text.lower key = key :=
    Text.settledLower (fun c member => Text.lowerFromSettled (written ▸ List.mem_append_left rest member)) false
  have term : Text.lower (Text.lower word) = Text.lower word := Text.lowerLower word
  cases compared : comparison? (Text.lower word) with
  | some found =>
    obtain ⟨key, comparator, value⟩ := found
    have shape := comparisonIff.mp compared
    rcases comparisonSource shape with ⟨own, same⟩ | sign
    · rw [shapeless.uncompared] at same
      contradiction
    · rw [ofWordComparison shape, kept (shape.written.trans (List.append_assoc _ _ _)), numericUnknown sign, term]
      rfl
  | none =>
    cases assigned : assignment? (Text.lower word) with
    | some found =>
      obtain ⟨key, value⟩ := found
      have shape := assignmentIff.mp assigned
      rcases assignmentSource shape with ⟨source, more, own⟩ | sign
      · have same := assignmentIff.mpr own
        rw [shapeless.unassigned] at same
        contradiction
      · rw [ofWordAssignment shape, kept shape.written, assignedUnknown sign, term]
        rfl
    | none =>
      rw [ofWordShapeless ⟨capitalsLost.1, fun c rest same => ?_, fun c rest same => ?_, compared, assigned⟩, term]
      · obtain ⟨d, more, split⟩ := Text.lowerFromHeads (markUntouched (by decide)) same
        exact shapeless.included d more split
      · obtain ⟨d, more, split⟩ := Text.lowerFromHeads (markUntouched (by decide)) same
        exact shapeless.untagged d more split

/- A word that does not count only as it is written. Users are named exactly. -/
structure CaseFree (word : Text) : Prop where
  either : word ≠ orWord
  negation : word ≠ Segment.notWord
  userless : ∀ key value, Assignment word key value → Text.lower key ≠ "by".toText ∧ Text.lower key ≠ "from".toText

theorem ofWordCase {word : Text} (free : CaseFree word) :
    (ofWord (Text.lower word)).map folded = (ofWord word).map folded := by
  by_cases excluded : ∃ c rest, word = .char '-' :: c :: rest
  · obtain ⟨c, rest, rfl⟩ := excluded
    rw [Text.lowerDivider (markDivider (by decide) (by decide)), ofWordExcluded (Text.lowerSome c rest),
      ofWordExcluded (List.cons_ne_nil c rest), Text.lowerLower]
  by_cases tagged : ∃ c rest, word = .char '@' :: c :: rest
  · obtain ⟨c, rest, rfl⟩ := tagged
    have sign := Text.lowerDivider (markDivider (show .char '@' ∈ marks by decide) (by decide))
    rw [sign, ofWordTagged (Text.lowerSome c rest), ofWordTagged (List.cons_ne_nil c rest), sign, sign, Text.lowerLower]
  cases compared : comparison? word with
  | some found =>
    obtain ⟨key, comparator, value⟩ := found
    have shape := comparisonIff.mp compared
    obtain ⟨inWord, lowered⟩ := comparisonLowered shape
    rw [ofWordComparison shape, ofWordComparison lowered, numericCase, Text.lowerLower, Text.lowerLower]
  | none =>
    cases assigned : assignment? word with
    | some found =>
      obtain ⟨key, value⟩ := found
      have shape := assignmentIff.mp assigned
      obtain ⟨inWord, lowered⟩ := assignmentLowered shape
      rw [ofWordAssignment shape, ofWordAssignment lowered, Text.lowerLower, Text.lowerLower]
      exact mapGetD _ (assignedCase (free.userless key value shape) inWord value)
    | none =>
      have shapeless : Shapeless word := ⟨free.either, fun c rest same => excluded ⟨c, rest, same⟩,
        fun c rest same => tagged ⟨c, rest, same⟩, compared, assigned⟩
      rw [ofWordShapeless shapeless, ofWordLowered shapeless]

theorem scanPieces {line : Text} (plain : ∀ word, .word word ∈ Piece.scan line → word ≠ Segment.notWord) :
    scan line = (Piece.scan line).mapM (ofSegment ∘ Segment.ofPiece) := by
  have pieces : ∀ piece ∈ Piece.scan line, piece ≠ .word Segment.notWord := by
    rintro piece member rfl
    exact plain _ member rfl
  rw [scan, Segment.ofPiecesPlain pieces, List.mapM_map]

theorem scanCase {line : Text} (free : ∀ word, .word word ∈ Piece.scan line → CaseFree word) :
    (scan (Text.lower line)).map (List.map folded) = (scan line).map (List.map folded) := by
  have plainToo : ∀ word, .word word ∈ Piece.scan (Text.lower line) → word ≠ Segment.notWord := by
    intro word member
    rw [Piece.scanLowered] at member
    obtain ⟨piece, _, same⟩ := List.mem_map.mp member
    cases piece with
    | phrase text => cases same
    | word text =>
      cases same
      exact capitalsLost.2
  rw [scanPieces plainToo, scanPieces (fun word member => (free word member).negation), Piece.scanLowered,
    List.mapM_map]
  refine Outcome.eachAlike (fun piece member => ?_)
  cases piece with
  | phrase text =>
    show Except.map folded (.ok (.phrase (Text.lower (Text.lower text)))) = _
    rw [Text.lowerLower]
    rfl
  | word text => exact ofWordCase (free text member)

end Token

namespace Clause

def folded : Clause → Clause
  | .filter f => .filter f.folded
  | clause => clause

theorem filterFolded (clause : Clause) : clause.folded.filter? = clause.filter?.map Filter.folded := by
  cases clause <;> rfl

theorem namesFolded (clause : Clause) : clause.folded.names = clause.names := by cases clause <;> rfl

theorem phraseFolded (clause : Clause) : clause.folded.phrase? = clause.phrase? := by cases clause <;> rfl

theorem excludedFolded (clause : Clause) : clause.folded.excluded? = clause.excluded? := by cases clause <;> rfl

theorem ofTokensFolded (afterTerm : Bool) (tokens : List Token) :
    ofTokens afterTerm (tokens.map Token.folded) = (ofTokens afterTerm tokens).map folded := by
  fun_induction ofTokens afterTerm tokens with
  | case1 => rfl
  | case2 text rest ih => exact congrArg _ ih
  | case3 afterTerm text rest fresh ih =>
    rw [Bool.eq_false_iff.mpr fresh]
    exact congrArg (fun clauses => term literalOr :: term text :: clauses) ih
  | case4 afterTerm rest other ih =>
    have otherFolded : ∀ text more, rest.map Token.folded ≠ .term text :: more := by
      intro text more same
      obtain ⟨token, behind, rfl, isTerm, _⟩ := List.map_eq_cons_iff.mp same
      cases token with
      | term text => exact other text behind rfl
      | either | phrase text | kinds names | filter f | excluded text => cases isTerm
    show ofTokens afterTerm (.either :: rest.map Token.folded) = _
    rw [ofTokens]
    · exact congrArg _ ih
    · exact otherFolded
  | case5 afterTerm text rest ih | case6 afterTerm text rest ih | case7 afterTerm names rest ih
  | case8 afterTerm f rest ih | case9 afterTerm text rest ih => exact congrArg _ ih

theorem chainsFolded (clauses : List Clause) : chains (clauses.map folded) = chains clauses := by
  induction clauses with
  | nil => rfl
  | cons clause rest ih =>
    cases clause with
    | term text | alternative text | phrase text | kinds names | filter f | excluded text =>
      simp only [List.map_cons, folded, chains, ih]

end Clause

namespace Parsed

def folded (parsed : Parsed) : Parsed := { parsed with raw := [], filters := parsed.filters.map Filter.folded }

theorem ofClausesFolded (line : Text) (clauses : List Clause) :
    (ofClauses line clauses).folded = ofClauses [] (clauses.map Clause.folded) := by
  have filters : (clauses.map Clause.folded).filterMap Clause.filter? =
      (clauses.filterMap Clause.filter?).map Filter.folded := by
    rw [List.filterMap_map, List.map_filterMap]
    exact congrArg (List.filterMap · clauses) (funext Clause.filterFolded)
  simp only [folded, ofClauses, filters, Filter.latestFolded, Clause.groups, Clause.chainsFolded, List.flatMap_map,
    List.filterMap_map, Function.comp_def, Clause.namesFolded, Clause.phraseFolded, Clause.excludedFolded]

theorem parseCase {line : Text} (free : ∀ word, .word word ∈ Piece.scan line → Token.CaseFree word) :
    (parse (Text.lower line)).map folded = (parse line).map folded := by
  have ofTokensFolded (line : Text) (tokens : List Token) :
      (ofTokens line tokens).folded = ofClauses [] (Clause.ofTokens false (tokens.map Token.folded)) := by
    rw [ofTokens, ofClausesFolded, Clause.ofTokensFolded]
  unfold parse
  rcases Outcome.alikeCases (Token.scanCase free) with ⟨fault, first, second⟩ | ⟨front, rest, first, second, same⟩
  · rw [first, second]
    rfl
  · rw [first, second]
    refine congrArg Except.ok ?_
    rw [ofTokensFolded, ofTokensFolded, same]

end Parsed
end CollectionSearch
