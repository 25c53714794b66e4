import CollectionSearch.Proofs.Query.Clauses
import CollectionSearch.Proofs.Query.Cut
import CollectionSearch.Proofs.Text.Splitting

/-! What is read on its own: each word of a line without quotes, each piece of a line without `NOT`, each token of
a line without `OR`, and behind any line a token that is neither a term nor an `OR`. -/
namespace CollectionSearch
namespace Piece

theorem nextWord {c : CodePoint} (plain : c ≠ quote) (rest : Text) :
    next c rest = (.word (c :: rest.takeWhile (!Text.isBlank ·)), rest.dropWhile (!Text.isBlank ·)) := by
  simp [next, plain]

theorem nextUnopened {c : CodePoint} {rest : Text} (filled : Text.isBlank c = false)
    (unopened : c = quote → span? rest = none) :
    next c rest = (.word ((c :: rest).takeWhile (!Text.isBlank ·)), (c :: rest).dropWhile (!Text.isBlank ·)) := by
  have none : (if c = quote then span? rest else none) = none := by
    split
    · rename_i opens
      exact unopened opens
    · rfl
  simp [next, none, filled]

theorem scanWord {c : CodePoint} {rest : Text} (plain : c ≠ quote) (full : ∀ x ∈ c :: rest, Text.isBlank x = false) :
    scan (c :: rest) = [.word (c :: rest)] := by
  obtain ⟨filled, behind⟩ := List.forall_mem_cons.mp full
  have all : ∀ x ∈ rest, (!Text.isBlank x) = true := fun x member => by simp [behind x member]
  rw [scan, if_neg (by simp [filled]), nextWord plain, List.takeWhile_eq_self_iff.mpr all,
    List.dropWhile_eq_nil_iff.mpr all, scan]

theorem scanWords {line : Text} (unquoted : quote ∉ line) : scan line = (Text.words line).map .word := by
  fun_induction scan line with
  | case1 => simp
  | case2 c rest blank ih =>
    rw [Text.wordsBehind blank]
    exact ih (fun member => unquoted (List.mem_cons_of_mem _ member))
  | case3 c rest filled ih =>
    have plain : c ≠ quote := fun same => unquoted (same ▸ List.mem_cons_self)
    rw [nextWord plain] at ih ⊢
    have behind := ih (fun member => unquoted (List.mem_cons_of_mem _ ((List.dropWhile_sublist _).subset member)))
    have front : ∀ x ∈ c :: rest.takeWhile (!Text.isBlank ·), Text.isBlank x = false := by
      refine List.forall_mem_cons.mpr ⟨by simpa using filled, fun x member => ?_⟩
      simpa using List.mem_takeWhile_imp member
    have first := Text.wordsUndivided (List.cons_ne_nil _ _) front
    -- the word ends the line, or the blank behind it cuts the words there
    have split : c :: rest = (c :: rest.takeWhile (!Text.isBlank ·)) ++ rest.dropWhile (!Text.isBlank ·) := by
      rw [List.cons_append, List.takeWhile_append_dropWhile]
    have stop := List.head?_dropWhile_not (!Text.isBlank ·) rest
    cases tail : rest.dropWhile (!Text.isBlank ·) with
    | nil =>
      rw [tail, List.append_nil] at split
      rw [tail] at behind
      rw [behind, split, first]
      simp
    | cons gap more =>
      have blank : Text.isBlank gap = true := by simpa [tail] using stop
      rw [tail] at split behind
      rw [behind, split, Text.wordsAppend blank, first, Text.wordsBehind blank]
      simp

theorem wordsLast {words : List Text} {word : Text} (free : words.getLast? ≠ some word) :
    (words.map Piece.word).getLast? ≠ some (.word word) := by
  rw [List.getLast?_map]
  intro ends
  obtain ⟨last, found, same⟩ := Option.map_eq_some_iff.mp ends
  exact free (Piece.word.inj same ▸ found)

end Piece

namespace Segment

def ofPiece : Piece → Segment
  | .phrase text => .phrase text
  | .word text => .word text

theorem ofPiecesPlain {pieces : List Piece} (plain : ∀ piece ∈ pieces, piece ≠ .word notWord) :
    ofPieces pieces = pieces.map ofPiece := by
  induction pieces with
  | nil => rfl
  | cons piece rest ih =>
    obtain ⟨here, behind⟩ := List.forall_mem_cons.mp plain
    cases piece with
    | phrase text => exact congrArg _ (ih behind)
    | word text =>
      have other : text ≠ notWord := fun same => here (congrArg _ same)
      rw [ofPiecesWord other, ih behind]
      rfl

end Segment

namespace Token

def clause : Token → Clause
  | .either => .term Clause.literalOr
  | .term text => .term text
  | .phrase text => .phrase text
  | .kinds names => .kinds names
  | .filter f => .filter f
  | .excluded text => .excluded text

def Apart (token : Token) : Prop := token ≠ .either ∧ ∀ text, token ≠ .term text

theorem ofWordExcluded {text : Text} (some : text ≠ []) :
    ofWord (.char '-' :: text) = .ok (.excluded (Text.lower text)) := by
  obtain ⟨c, rest, rfl⟩ := List.exists_cons_of_ne_nil some
  rfl

structure Shapeless (word : Text) : Prop where
  plain : word ≠ orWord
  included : ∀ c rest, word ≠ .char '-' :: c :: rest
  untagged : ∀ c rest, word ≠ .char '@' :: c :: rest
  uncompared : comparison? word = none
  unassigned : assignment? word = none

theorem ofWordShapeless {word : Text} (shapeless : Shapeless word) : ofWord word = .ok (.term (Text.lower word)) := by
  unfold ofWord
  rw [if_neg shapeless.plain]
  split
  · exact absurd rfl (shapeless.included _ _)
  · exact absurd rfl (shapeless.untagged _ _)
  · rw [shapeless.uncompared, shapeless.unassigned]

theorem scanWord {c : CodePoint} {rest : Text} {token : Token} (plain : c ≠ Piece.quote)
    (full : ∀ x ∈ c :: rest, Text.isBlank x = false) (read : ofWord (c :: rest) = .ok token) :
    scan (c :: rest) = .ok [token] := by
  unfold scan
  rw [Piece.scanWord plain full]
  simp [Segment.ofPieces, ofSegment, read, bind, Except.bind, pure, Except.pure]

theorem scanWords {line : Text} (unquoted : Piece.quote ∉ line)
    (plain : ∀ word ∈ Text.words line, word ≠ Segment.notWord) : scan line = (Text.words line).mapM ofWord := by
  have pieces : ∀ piece ∈ (Text.words line).map Piece.word, piece ≠ .word Segment.notWord := by
    intro piece member same
    obtain ⟨word, present, made⟩ := List.mem_map.mp member
    exact plain word present (Piece.word.inj (made.trans same))
  unfold scan
  rw [Piece.scanWords unquoted, Segment.ofPiecesPlain pieces, List.map_map, List.mapM_map]
  rfl

end Token

namespace Clause

theorem ofTokensPlain {tokens : List Token} (plain : ∀ token ∈ tokens, token ≠ .either) (afterTerm : Bool) :
    ofTokens afterTerm tokens = tokens.map Token.clause := by
  induction tokens generalizing afterTerm with
  | nil => rfl
  | cons token rest ih =>
    obtain ⟨here, behind⟩ := List.forall_mem_cons.mp plain
    cases token with
    | either => exact absurd rfl here
    | term text | phrase text | kinds names | filter f | excluded text => exact congrArg _ (ih behind _)

theorem ofTokensLast {token : Token} (apart : token.Apart) (afterTerm : Bool) (front : List Token) :
    ofTokens afterTerm (front ++ [token]) = ofTokens afterTerm front ++ [token.clause] := by
  have alone (b : Bool) : ofTokens b [token] = [token.clause] := by
    cases token with
    | either => exact absurd rfl apart.1
    | term text => exact absurd rfl (apart.2 text)
    | phrase text | kinds names | filter f | excluded text => rfl
  fun_induction ofTokens afterTerm front with
  | case1 => exact alone _
  | case2 text front ih => simp [ofTokens, ih]
  | case3 afterTerm text front fresh ih => simp [ofTokens, fresh, ih]
  | case4 afterTerm front other ih =>
    -- a dangling `OR` at the end stays one, for what comes behind it is no term
    have free : ∀ text rest, front ++ [token] ≠ .term text :: rest := by
      intro text rest same
      cases front with
      | nil => exact apart.2 text (List.cons.inj same).1
      | cons head more => exact other text more (by rw [(List.cons.inj same).1])
    rw [List.cons_append, ofTokens]
    · exact congrArg _ ih
    · exact fun text rest same => free text rest same
  | case5 afterTerm text front ih | case6 afterTerm text front ih | case7 afterTerm names front ih
  | case8 afterTerm f front ih | case9 afterTerm text front ih => exact congrArg _ ih

end Clause
end CollectionSearch
