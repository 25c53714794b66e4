import CollectionSearch.Proofs.Query.Refusal
import CollectionSearch.Proofs.Query.Settling
import CollectionSearch.Proofs.Query.Spans
import Mathlib.Data.List.DropRight

/-! What a line asks for whose phrases are the spans between its quotes: no quote is left in anything, and each span is
a phrase unless a `NOT` takes it. -/
namespace CollectionSearch

namespace Segment

def text : Segment → Text
  | .phrase text => text
  | .word text => text
  | .negated text => text

def isNot (piece : Piece) : Bool := piece = .word notWord

def nots (front : List Piece) : Nat := (front.rtakeWhile isNot).length

theorem ofPiecesText {P : Text → Prop} {pieces : List Piece} (each : ∀ piece ∈ pieces, P piece.text) :
    ∀ segment ∈ ofPieces pieces, P segment.text := by
  fun_induction ofPieces pieces with
  | case1 => simp
  | case2 text rest ih | case5 text _ rest _ ih =>
    obtain ⟨here, behind⟩ := List.forall_mem_cons.mp each
    exact List.forall_mem_cons.mpr ⟨here, ih behind⟩
  | case3 text => simpa [Segment.text, Piece.text] using each
  | case4 piece rest ih =>
    obtain ⟨_, taken, behind⟩ := List.forall_mem_cons.mp each |>.imp_right List.forall_mem_cons.mp
    exact List.forall_mem_cons.mpr ⟨taken, ih behind⟩

/- Of each two `NOT` the first takes the second, so only an odd one is left for the phrase. -/
theorem ofPiecesNots (text : Text) (after : List Piece) : (k : Nat) →
    (if Odd k then .negated text else .phrase text) ∈
      ofPieces (List.replicate k (.word notWord) ++ .phrase text :: after)
  | 0 => by simp [ofPieces]
  | 1 => by simp [ofPieces, Piece.text]
  | k + 2 => by
    have behind := ofPiecesNots text after k
    have parity : Odd (k + 2) ↔ Odd k := by rw [Nat.odd_add_one, Nat.odd_add_one, not_not]
    simp only [List.replicate_succ, List.cons_append, ofPieces, if_true, parity]
    exact List.mem_cons_of_mem _ behind

theorem ofPiecesPhrase (front : List Piece) (text : Text) (after : List Piece) :
    (if Odd (nots front) then .negated text else .phrase text) ∈ ofPieces (front ++ .phrase text :: after) := by
  have split : front.rdropWhile isNot ++ front.rtakeWhile isNot = front := List.rdropWhile_append_rtakeWhile
  have run : front.rtakeWhile isNot = List.replicate (nots front) (.word notWord) :=
    List.eq_replicate_iff.mpr ⟨rfl, fun piece member => of_decide_eq_true (List.mem_rtakeWhile_imp (p := isNot) member)⟩
  have free : (front.rdropWhile isNot).getLast? ≠ some (.word notWord) := by
    intro ends
    obtain ⟨some, last⟩ := List.mem_getLast?_eq_getLast ends
    exact List.rdropWhile_last_not isNot front some (decide_eq_true last.symm)
  rw [← split, List.append_assoc, ofPiecesAppend free, split, run]
  exact List.mem_append_right _ (ofPiecesNots text after (nots front))

end Segment

structure Filter.Unquoted (f : Filter) : Prop where
  field : Piece.quote ∉ f.field.name
  comparator : Piece.quote ∉ f.comparator.symbol
  value : ∀ text, f.value = .text text → Piece.quote ∉ text

theorem Field.nameUnquoted {field : Field} (known : ∀ name, field ≠ .other name) : Piece.quote ∉ field.name := by
  cases field with
  | other name => exact absurd rfl (known name)
  | status | year | rating | creator | visited | genre | archived | unread => decide

theorem Comparator.symbolUnquoted {comparator : Comparator} (known : comparator.Known) :
    Piece.quote ∉ comparator.symbol := by
  cases comparator with
  | other symbol => exact absurd rfl (known symbol)
  | equal | above | below | atLeast | atMost => decide

theorem Filter.writtenUnquoted {f : Filter} (written : f.Written)
    (genre : f.field = .genre → ∀ text, f.value = .text text → Piece.quote ∉ text) : f.Unquoted := by
  have equal := Comparator.symbolUnquoted equalKnown
  cases written with
  | status name known =>
    have plain : ∀ name ∈ Vocabulary.statuses, Piece.quote ∉ name := by decide
    exact ⟨Field.nameUnquoted nofun, equal, fun text same => FilterValue.text.inj same ▸ plain name known⟩
  | creator user known =>
    have plain : ∀ name ∈ Vocabulary.users, Piece.quote ∉ name := by decide
    exact ⟨Field.nameUnquoted nofun, equal, fun text same => FilterValue.text.inj same ▸ plain user known⟩
  | year comparator known n | rating comparator known x =>
    exact ⟨Field.nameUnquoted nofun, Comparator.symbolUnquoted known, nofun⟩
  | visited flag | archived flag | unread => exact ⟨Field.nameUnquoted nofun, equal, nofun⟩
  | genre c rest => exact ⟨Field.nameUnquoted nofun, equal, genre rfl⟩

namespace Token

theorem numericField {key value : Text} {comparator : Comparator} {f : Filter}
    (ok : numeric? key comparator value = .ok (some (.filter f))) : f.field ≠ .genre := by
  unfold numeric? at ok
  split at ok
  · split at ok
    · obtain ⟨n, _, same⟩ := Outcome.bindOk.mp ok
      cases same
      exact nofun
    · cases ok
  · split at ok
    · obtain ⟨x, _, same⟩ := Option.map_eq_some_iff.mp (Except.ok.inj ok)
      cases same
      exact nofun
    · cases ok

theorem assignedGenre {key value : Text} {f : Filter} (ok : assigned? key value = .ok (some (.filter f)))
    (genre : f.field = .genre) : f.value = .text (Text.lower value) := by
  unfold assigned? at ok
  simp only at ok
  split at ok
  · obtain ⟨names, _, same⟩ := Option.map_eq_some_iff.mp (Except.ok.inj ok)
    cases same
  split at ok
  · obtain ⟨status, _, same⟩ := Option.map_eq_some_iff.mp (Except.ok.inj ok)
    cases same
    cases genre
  split at ok
  · split at ok <;> cases ok
    cases genre
  iterate 2
    split at ok
    · obtain ⟨flag, _, same⟩ := Option.map_eq_some_iff.mp (Except.ok.inj ok)
      cases same
      cases genre
  split at ok
  · cases ok
    rfl
  split at ok
  · cases ok
    cases genre
  exact absurd genre (numericField ok)

theorem filterFound {outcome : Except Fault (Option Token)} {term : Text} {f : Filter}
    (read : outcome.map (·.getD (.term term)) = .ok (.filter f)) : outcome = .ok (some (.filter f)) := by
  obtain ⟨token, rfl, same⟩ := Outcome.mapOk.mp read
  cases token with
  | none => cases same
  | some token => exact congrArg _ (congrArg _ same)

theorem ofWordGenre {word : Text} {f : Filter} (ok : ofWord word = .ok (.filter f)) (genre : f.field = .genre) :
    ∃ key value, Assignment word key value ∧ f.value = .text (Text.lower value) := by
  unfold ofWord at ok
  simp only at ok
  split at ok
  · cases ok
  split at ok
  · cases ok
  · have tagged : (Alias.kinds.lookup _).map Token.kinds = some (Token.filter f) := Except.ok.inj (filterFound ok)
    obtain ⟨names, _, same⟩ := Option.map_eq_some_iff.mp tagged
    cases same
  · split at ok
    · exact absurd genre (numericField (filterFound ok))
    · split at ok
      · rename_i key value shape
        exact ⟨key, value, assignmentIff.mp shape, assignedGenre (filterFound ok) genre⟩
      · cases ok

def Unquoted : Token → Prop
  | .either => True
  | .term text | .phrase text | .excluded text => Piece.quote ∉ text
  | .kinds names => ∀ name ∈ names, Piece.quote ∉ name
  | .filter f => f.Unquoted

theorem lowerUnquoted {text : Text} (free : Piece.quote ∉ text) : Piece.quote ∉ Text.lower text :=
  fun member => free (Text.lowerFromUntouched Text.quotesUntouched member)

theorem kindsUnquoted : ∀ kind ∈ Vocabulary.kinds, Piece.quote ∉ kind := by decide

theorem ofWordUnquoted {word : Text} {token : Token} (free : Piece.quote ∉ word) (ok : ofWord word = .ok token) :
    token.Unquoted := by
  cases ofWordRead ok with
  | either => exact trivial
  | excluded c rest => exact lowerUnquoted (fun member => free (List.mem_cons_of_mem _ member))
  | term word plain => exact lowerUnquoted free
  | restriction word token restricts =>
    cases token with
    | kinds names => exact fun name member => kindsUnquoted name (restrictsSound restricts name member)
    | filter f =>
      refine Filter.writtenUnquoted restricts (fun genre text same => ?_)
      obtain ⟨key, value, shape, lowered⟩ := ofWordGenre ok genre
      obtain rfl := FilterValue.text.inj (same.symm.trans lowered)
      refine lowerUnquoted (fun member => free ?_)
      exact shape.written ▸ List.mem_append_right key (List.mem_cons_of_mem _ member)
    | either | term | phrase | excluded => exact restricts.elim

theorem ofSegmentUnquoted {segment : Segment} {token : Token} (free : Piece.quote ∉ segment.text)
    (ok : ofSegment segment = .ok token) : token.Unquoted := by
  cases segment with
  | phrase text | negated text =>
    cases ok
    exact lowerUnquoted free
  | word text => exact ofWordUnquoted free ok

theorem scanUnquoted {line : Text} {tokens : List Token} (scanned : scan line = .ok tokens)
    (free : ∀ piece ∈ Piece.scan line, Piece.quote ∉ piece.text) : ∀ token ∈ tokens, token.Unquoted := by
  intro token member
  obtain ⟨segment, present, read⟩ := Outcome.eachOkMem scanned member
  exact ofSegmentUnquoted (Segment.ofPiecesText (P := (Piece.quote ∉ ·)) free segment present) read

end Token

namespace Parsed

structure Unquoted (parsed : Parsed) : Prop where
  kinds : ∀ kind ∈ parsed.kinds, Piece.quote ∉ kind
  filters : ∀ f ∈ parsed.filters, f.Unquoted
  phrases : ∀ phrase ∈ parsed.phrases, Piece.quote ∉ phrase
  terms : ∀ group ∈ parsed.groups, ∀ term ∈ group, Piece.quote ∉ term
  excluded : ∀ term ∈ parsed.excluded, Piece.quote ∉ term

theorem ofTokensUnquoted (raw : Text) {tokens : List Token} (free : ∀ token ∈ tokens, token.Unquoted) :
    (ofTokens raw tokens).Unquoted where
  kinds kind member := by
    obtain ⟨names, present, named⟩ := (kindsIff raw tokens kind).mp member
    exact free _ present kind named
  filters f member := by
    rw [filtersOf] at member
    obtain ⟨token, present, same⟩ := List.mem_filterMap.mp (Filter.latestMem member)
    obtain rfl := filterOfIff.mp same
    exact free _ present
  phrases phrase member := by
    rw [phrasesOf, Text.memDistinct] at member
    obtain ⟨token, present, same⟩ := List.mem_filterMap.mp member
    obtain rfl := phraseOfIff.mp same
    exact free _ present
  terms group member term inside := by
    obtain ⟨clause, present, same⟩ := List.mem_map.mp ((Clause.groupsTerms term tokens).mp ⟨group, member, inside⟩)
    rcases Clause.tokenOfClause present with token | rfl
    · exact free (.term term) (same ▸ token)
    · cases same
      decide
  excluded term member := free _ ((excludedIff raw tokens term).mp member)

theorem parsePhrase {line : Text} {parsed : Parsed} (ok : parse line = .ok parsed) {front after : List Piece}
    {text : Text} (pieces : Piece.scan line = front ++ .phrase text :: after) :
    if Odd (Segment.nots front) then Text.lower text ∈ parsed.excluded else Text.lower text ∈ parsed.phrases := by
  obtain ⟨tokens, scanned, rfl⟩ := parseOk.mp ok
  have member := pieces ▸ Segment.ofPiecesPhrase front text after
  obtain ⟨token, present, read⟩ := Outcome.eachOkOf scanned member
  split
  · rename_i odd
    rw [if_pos odd] at read
    cases read
    exact (excludedIff line tokens _).mpr present
  · rename_i even
    rw [if_neg even] at read
    cases read
    rw [phrasesOf, Text.memDistinct, List.mem_filterMap]
    exact ⟨_, present, rfl⟩

theorem parseQuoted {line : Text} (balanced : Piece.Balanced line) :
    ((Piece.scan line).filterMap Piece.phrase? = (Piece.spans line).map Prod.snd ↔
      ∀ span ∈ Piece.spans line, Piece.Edge span.1) ∧
    ((∀ span ∈ Piece.spans line, Piece.Edge span.1) → ∀ parsed, parse line = .ok parsed →
      parsed.Unquoted ∧
      ∀ front text after, Piece.scan line = front ++ .phrase text :: after →
        if Odd (Segment.nots front) then Text.lower text ∈ parsed.excluded else Text.lower text ∈ parsed.phrases) := by
  refine ⟨Piece.spansPhrases balanced, fun edges parsed ok => ⟨?_, fun front text after => parsePhrase ok⟩⟩
  obtain ⟨tokens, scanned, rfl⟩ := parseOk.mp ok
  refine ofTokensUnquoted line (Token.scanUnquoted scanned (fun piece member => ?_))
  cases piece with
  | phrase text => exact (Piece.scanSound line _ member).2
  | word text => exact Piece.edgesPlain (Piece.scanLayout line) balanced edges text member

theorem parseQuotedOfSpans :
    let line := "NOT \"A b\" \"c\"\"d\"x NOT NOT \"e\"".toText
    Piece.Balanced line ∧ (∀ span ∈ Piece.spans line, Piece.Edge span.1) ∧
    (Piece.spans line).map Prod.snd = ["A b".toText, "c".toText, "d".toText, "e".toText] ∧
    ∃ parsed, parse line = .ok parsed ∧ parsed.Unquoted ∧ "a b".toText ∈ parsed.excluded ∧
      "e".toText ∈ parsed.phrases := by
  intro line
  let middle : List Piece := [.phrase "c".toText, .phrase "d".toText, .word "x".toText, .word Segment.notWord,
    .word Segment.notWord]
  have balanced : Piece.Balanced line := by decide +kernel
  have pieces : Piece.scan line =
      .word Segment.notWord :: .phrase "A b".toText :: (middle ++ [.phrase "e".toText]) := by decide +kernel
  have phrases : (Piece.scan line).filterMap Piece.phrase? = (Piece.spans line).map Prod.snd := by decide +kernel
  obtain ⟨edgesIff, quoted⟩ := parseQuoted balanced
  have edges := edgesIff.mp phrases
  have accepted : ((parse line).toOption.map Parsed.raw) = some line := by decide +kernel
  obtain ⟨parsed, ok, _⟩ := Outcome.okOfShown accepted
  obtain ⟨unquoted, placed⟩ := quoted edges parsed ok
  have first := placed [.word Segment.notWord] "A b".toText (middle ++ [Piece.phrase "e".toText]) pieces
  have last := placed (.word Segment.notWord :: .phrase "A b".toText :: middle) "e".toText [] pieces
  rw [if_pos (by decide)] at first
  rw [if_neg (by decide)] at last
  exact ⟨balanced, edges, by decide +kernel, parsed, ok, unquoted, first, last⟩

theorem parseGlued :
    let line := "a\"b\"".toText
    Piece.Balanced line ∧ (Piece.spans line).map Prod.snd = ["b".toText] ∧
    (Piece.scan line).filterMap Piece.phrase? = [] ∧
    ∃ parsed, parse line = .ok parsed ∧ Text.lower "b".toText ∉ parsed.phrases ∧
      Text.lower "b".toText ∉ parsed.excluded ∧ ¬ parsed.Unquoted := by
  intro line
  have shown : (parse line).toOption.map (fun parsed => (parsed.phrases, parsed.excluded, parsed.groups)) =
      some ([], [], [[line]]) := by decide +kernel
  obtain ⟨parsed, ok, same⟩ := Outcome.okOfShown shown
  obtain ⟨phrases, excluded, groups⟩ := Prod.mk.inj same |>.imp id Prod.mk.inj
  refine ⟨by decide +kernel, by decide +kernel, by decide +kernel, parsed, ok, ?_, ?_, fun unquoted => ?_⟩
  · rw [phrases]
    exact List.not_mem_nil
  · rw [excluded]
    exact List.not_mem_nil
  · exact unquoted.terms [line] (by simp [groups]) line List.mem_cons_self (by decide)

end Parsed
end CollectionSearch
