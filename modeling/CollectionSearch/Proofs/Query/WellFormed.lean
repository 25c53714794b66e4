import CollectionSearch.Proofs.Match.Declared
import CollectionSearch.Proofs.Query.Cut
import CollectionSearch.Proofs.Text.Lowering

/-! What a search line is read as: texts in lower case of which none is empty, filters of the eight known shapes
with one of each slot, and groups with something in them. Such a search can be tried on every item. -/
namespace CollectionSearch

def Text.Lowered (s : Text) : Prop := s ≠ [] ∧ Text.lower s = s

theorem Text.loweredLower {s : Text} (some : s ≠ []) : Lowered (lower s) := ⟨mt lowerNilIff.mp some, lowerLower s⟩

def Text.Blankless (s : Text) : Prop := ∀ c ∈ s, isBlank c = false

namespace Piece

def Sound : Piece → Prop
  | .phrase text => text ≠ [] ∧ quote ∉ text
  | .word text => text ≠ [] ∧ text.Blankless

theorem spanSound {s inner rest : Text} (found : span? s = some (inner, rest)) : inner ≠ [] ∧ quote ∉ inner := by
  unfold span? at found
  split at found
  · rename_i front _
    cases found
    refine ⟨List.cons_ne_nil _ _, fun member => ?_⟩
    rw [← front] at member
    simpa using List.mem_takeWhile_imp member
  · contradiction

theorem nextSound {c : CodePoint} (filled : ¬ Text.isBlank c = true) (rest : Text) : (next c rest).1.Sound := by
  unfold next
  split
  · rename_i inner tail found
    split at found
    · exact spanSound found
    · contradiction
  · refine ⟨List.cons_ne_nil _ _, fun x member => ?_⟩
    rcases List.mem_cons.mp member with rfl | behind
    · simpa using filled
    · simpa using List.mem_takeWhile_imp behind

theorem scanSound (s : Text) : ∀ piece ∈ scan s, piece.Sound := by
  fun_induction scan s with
  | case1 => simp
  | case2 c rest blank ih => exact ih
  | case3 c rest filled ih =>
    intro piece member
    rcases List.mem_cons.mp member with rfl | behind
    · exact nextSound filled rest
    · exact ih piece behind

theorem soundNotNil {piece : Piece} (sound : piece.Sound) : piece.text ≠ [] := by
  cases piece with
  | phrase text | word text => exact sound.1

end Piece

namespace Segment

def Sound : Segment → Prop
  | .phrase text => text ≠ [] ∧ Piece.quote ∉ text
  | .word text => text ≠ [] ∧ text.Blankless
  | .negated text => text ≠ []

theorem ofPiecesSound {pieces : List Piece} (sound : ∀ piece ∈ pieces, piece.Sound) :
    ∀ segment ∈ ofPieces pieces, segment.Sound := by
  fun_induction ofPieces pieces with
  | case1 => simp
  | case2 text rest ih =>
    obtain ⟨here, behind⟩ := List.forall_mem_cons.mp sound
    exact List.forall_mem_cons.mpr ⟨here, ih behind⟩
  | case3 text =>
    intro segment member
    rw [List.mem_singleton.mp member]
    exact sound (.word text) List.mem_cons_self
  | case4 piece rest ih =>
    obtain ⟨_, taken, behind⟩ := List.forall_mem_cons.mp sound |>.imp_right List.forall_mem_cons.mp
    exact List.forall_mem_cons.mpr ⟨Piece.soundNotNil taken, ih behind⟩
  | case5 text piece rest plain ih =>
    obtain ⟨here, behind⟩ := List.forall_mem_cons.mp sound
    exact List.forall_mem_cons.mpr ⟨here, ih behind⟩

end Segment

namespace Token

def Sound : Token → Prop
  | .either | .filter _ => True
  | .term text => text.Lowered ∧ text.Blankless
  | .phrase text => text.Lowered ∧ Piece.quote ∉ text
  | .kinds names => ∀ name ∈ names, name ∈ Vocabulary.kinds
  | .excluded text => text.Lowered

theorem restrictsSound {token : Token} (restricts : token.Restricts) : token.Sound := by
  cases token with
  | kinds names =>
    obtain ⟨name, listed⟩ := restricts
    exact Alias.kindsKnown _ listed
  | filter f => exact trivial
  | either | term | phrase | excluded => exact restricts.elim

theorem ofSegmentSound {segment : Segment} {token : Token} (sound : segment.Sound)
    (ok : ofSegment segment = .ok token) : token.Sound := by
  cases segment with
  | phrase text =>
    cases ok
    exact ⟨Text.loweredLower sound.1, fun member => sound.2 (Text.lowerFromUntouched Text.quotesUntouched member)⟩
  | negated text =>
    cases ok
    exact Text.loweredLower sound
  | word text =>
    cases ofWordRead ok with
    | either => exact trivial
    | excluded c rest => exact Text.loweredLower (List.cons_ne_nil c rest)
    | restriction _ _ restricts => exact restrictsSound restricts
    | term _ plain => exact ⟨Text.loweredLower sound.1, Text.lowerBlankless sound.2⟩

theorem scanTokensSound {line : Text} {tokens : List Token} (ok : scan line = .ok tokens) :
    ∀ token ∈ tokens, token.Sound := by
  intro token member
  obtain ⟨segment, present, read⟩ := Outcome.eachOkMem ok member
  exact ofSegmentSound (Segment.ofPiecesSound (Piece.scanSound line) segment present) read

end Token

namespace Clause

theorem literalOrSound : Text.Lowered literalOr ∧ Text.Blankless literalOr :=
  ⟨Text.loweredLower (by decide), Text.lowerBlankless (by decide)⟩

theorem ofTokensSound {tokens : List Token} (sound : ∀ token ∈ tokens, token.Sound) :
    ∀ clause ∈ ofTokens false tokens, clause.token.Sound := by
  intro clause member
  rcases tokenOfClause member with present | rfl
  · exact sound _ present
  · exact literalOrSound

end Clause

namespace Parsed

structure WellFormed (parsed : Parsed) : Prop where
  kinds : ∀ kind ∈ parsed.kinds, kind ∈ Vocabulary.kinds
  slots : parsed.filters.Pairwise (fun a b => ¬ (a.field = b.field ∧ a.comparator = b.comparator))
  filters : ∀ f ∈ parsed.filters, f.Written
  genres : ∀ f ∈ parsed.filters, f.field = .genre → ∃ text, f.value = .text text ∧ text ≠ [] ∧ Text.lower text = text
  phrasesDistinct : parsed.phrases.Nodup
  phrases : ∀ phrase ∈ parsed.phrases, phrase ≠ [] ∧ Piece.quote ∉ phrase ∧ Text.lower phrase = phrase
  groups : ∀ group ∈ parsed.groups, group ≠ [] ∧ group.Nodup
  terms : ∀ group ∈ parsed.groups, ∀ term ∈ group,
    term ≠ [] ∧ (∀ c ∈ term, Text.isBlank c = false) ∧ Text.lower term = term
  excluded : ∀ term ∈ parsed.excluded, term ≠ [] ∧ Text.lower term = term

theorem genreLowered {f : Filter} (written : f.Written) (genre : f.field = .genre) :
    ∃ text, f.value = .text text ∧ text ≠ [] ∧ Text.lower text = text := by
  cases written with
  | genre c rest => exact ⟨_, rfl, Text.loweredLower (List.cons_ne_nil c rest)⟩
  | status | year | rating | creator | visited | archived | unread => cases genre

theorem slotsDistinct (filters : List Filter) :
    (Filter.latest filters).Pairwise (fun a b => ¬ (a.field = b.field ∧ a.comparator = b.comparator)) := by
  refine (Filter.latestDistinct filters).imp ?_
  intro a b other same
  simp [Filter.sameSlot, same.1, same.2] at other

theorem parseForm {line : Text} {parsed : Parsed} (ok : parse line = .ok parsed) : parsed.WellFormed := by
  have filters := parseWritten ok
  obtain ⟨tokens, scanned, rfl⟩ := parseOk.mp ok
  have clauses := Clause.ofTokensSound (Token.scanTokensSound scanned)
  refine {
    kinds := fun kind member => ?_
    slots := slotsDistinct _
    filters := filters
    genres := fun f member => genreLowered (filters f member)
    phrasesDistinct := Text.distinctNodup _
    phrases := fun phrase member => ?_
    groups := fun group member => ⟨Clause.groupsNotNil _ group member, Clause.groupsNodup _ group member⟩
    terms := fun group member term inside => ?_
    excluded := fun term member => ?_ }
  · obtain ⟨clause, present, named⟩ := List.mem_flatMap.mp (Text.memDistinct.mp member)
    cases clause with
    | kinds names => exact clauses _ present kind named
    | term | alternative | phrase | filter | excluded => cases named
  · obtain ⟨clause, present, shape⟩ := List.mem_filterMap.mp (Text.memDistinct.mp member)
    cases clause with
    | phrase text =>
      cases shape
      obtain ⟨lowered, unquoted⟩ := clauses _ present
      exact ⟨lowered.1, unquoted, lowered.2⟩
    | term | alternative | kinds | filter | excluded => cases shape
  · obtain ⟨clause, present, same⟩ := List.mem_map.mp ((Clause.groupsTerms term tokens).mp ⟨group, member, inside⟩)
    obtain ⟨lowered, blankless⟩ : (Token.term term).Sound := same ▸ clauses clause present
    exact ⟨lowered.1, blankless, lowered.2⟩
  · obtain ⟨clause, present, shape⟩ := List.mem_filterMap.mp (Text.memDistinct.mp member)
    cases clause with
    | excluded text =>
      cases shape
      exact clauses _ present
    | term | alternative | phrase | kinds | filter => cases shape

theorem wellFormedEvaluable {parsed : Parsed} (well : parsed.WellFormed) : parsed.Evaluable where
  groups group member := (well.groups group member).1
  filters f member := Filter.writtenEvaluable (well.filters f member)

theorem evaluableAdmits {parsed : Parsed} (evaluable : parsed.Evaluable) (item : Item) :
    ∃ admitted, parsed.admits item = .ok admitted := by
  rcases parsed.admitsDecided evaluable item with ⟨admitted, _⟩ | ⟨refused, _⟩
  · exact ⟨true, admitted⟩
  · exact ⟨false, refused⟩

theorem parseWellFormed {line : Text} {parsed : Parsed} (ok : parse line = .ok parsed) :
    parsed.WellFormed ∧ ∀ item : Item,
      (∃ admitted, parsed.admits item = .ok admitted) ∧ ∃ value, Relevance.score parsed item = .ok value := by
  have well := parseForm ok
  have evaluable := wellFormedEvaluable well
  refine ⟨well, fun item => ⟨evaluableAdmits evaluable item, ?_⟩⟩
  obtain ⟨value, scored, _⟩ := Relevance.scoreDecided evaluable item
  exact ⟨value, scored⟩

theorem parseWellFormedOfSigma :
    let line := "ΟΔΟΣ OR Odos rating>=4 genre:ΣΑΣ NOT \"A B\" @Film rating>=4.5 \"Final Cut\"".toText
    let parsed : Parsed := {
      raw := line, kinds := ["movie".toText]
      filters := [⟨.genre, .equal, .text "σας".toText⟩,
        ⟨.rating, .atLeast, .number (.real (.finite false (9 * Binary64.unit / 2)))⟩]
      phrases := ["final cut".toText], groups := [["οδος".toText, "odos".toText]], excluded := ["a b".toText] }
    parse line = .ok parsed ∧ parsed.WellFormed ∧ ∀ item : Item,
      (∃ admitted, parsed.admits item = .ok admitted) ∧ ∃ value, Relevance.score parsed item = .ok value := by
  intro line parsed
  have ok : parse line = .ok parsed := Outcome.okOfToOption (by decide +kernel)
  exact ⟨ok, parseWellFormed ok⟩

end Parsed
end CollectionSearch
