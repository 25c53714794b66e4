import CollectionSearch.Proofs.Query.Word
import Mathlib.Data.List.TakeWhile

/-! Lines cut at blanks. Unless a quoted phrase can reach over the cut, each side has the pieces that it has
alone, and from there on the sides stay apart: at most a `NOT` at the end of the first side takes a piece of
the second one. -/
namespace CollectionSearch
namespace Piece

theorem quoteNotBlank : Text.isBlank quote = false := by decide

def Apart (left right : Text) : Prop := quote ∉ left ∨ quote ∉ right

theorem spanUnclosed {s : Text} (unclosed : s.dropWhile (· ≠ quote) = []) : span? s = none := by
  unfold span?
  rw [unclosed]
  split
  · contradiction
  · rfl

theorem spanAppend {rest : Text} (unquoted : quote ∉ rest) (front : Text) :
    span? (front ++ rest) = (span? front).map (fun found => (found.1, found.2 ++ rest)) := by
  have all : ∀ c ∈ rest, decide (c ≠ quote) = true := by
    intro c member
    exact decide_eq_true (fun same => unquoted (same ▸ member))
  have through : rest.dropWhile (· ≠ quote) = [] := List.dropWhile_eq_nil_iff.mpr all
  cases closing : front.dropWhile (· ≠ quote) with
  | nil =>
    have both : (front ++ rest).dropWhile (· ≠ quote) = [] := by
      rw [List.dropWhile_append, closing]
      exact through
    rw [spanUnclosed both, spanUnclosed closing]
    rfl
  | cons close after =>
    unfold span?
    rw [List.takeWhile_append, List.dropWhile_append, closing]
    have shorter : (front.takeWhile (· ≠ quote)).length ≠ front.length := by
      intro same
      have lengths := congrArg List.length (List.takeWhile_append_dropWhile (p := (· ≠ quote)) (l := front))
      rw [List.length_append, same, closing, List.length_cons] at lengths
      omega
    rw [if_neg shorter]
    cases front.takeWhile (· ≠ quote) <;> simp

theorem nextAppend {c gap : CodePoint} {front rest : Text} (blank : Text.isBlank gap = true)
    (apart : Apart (c :: front) (gap :: rest)) :
    next c (front ++ gap :: rest) = ((next c front).1, (next c front).2 ++ gap :: rest) := by
  have stops : (!Text.isBlank gap) = false := by simp [blank]
  have word := Sequence.takeWhileStopped (p := (!Text.isBlank ·)) stops front rest
  have behind := Sequence.dropWhileStopped (p := (!Text.isBlank ·)) stops front rest
  unfold next
  by_cases opens : c = quote
  · have unquoted : quote ∉ gap :: rest := apart.resolve_left (fun none => none (opens ▸ List.mem_cons_self))
    rw [if_pos opens, if_pos opens, spanAppend unquoted]
    cases span? front with
    | none => simp only [Option.map_none, word, behind]
    | some found => rfl
  · simp only [if_neg opens, word, behind]

theorem nextMem {c x : CodePoint} {rest : Text} (member : x ∈ (next c rest).2) : x ∈ rest := by
  unfold next at member
  split at member
  · rename_i inner tail found
    split at found
    · unfold span? at found
      split at found
      · rename_i closing
        cases found
        have behind : x ∈ rest.dropWhile (· ≠ quote) := closing ▸ List.mem_cons_of_mem _ member
        exact (List.dropWhile_sublist _).subset behind
      · contradiction
    · contradiction
  · exact (List.dropWhile_sublist _).subset member

theorem scanBlanks {gap : Text} (blank : ∀ c ∈ gap, Text.isBlank c = true) (rest : Text) :
    scan (gap ++ rest) = scan rest := by
  induction gap with
  | nil => rfl
  | cons c gap ih =>
    rw [List.cons_append, scan, if_pos (blank c List.mem_cons_self)]
    exact ih (fun c member => blank c (List.mem_cons_of_mem _ member))

/- The induction is on the pieces of the front: each of them ends before the blank or with a phrase. -/
theorem scanAppend {gap : CodePoint} {front rest : Text} (blank : Text.isBlank gap = true)
    (apart : Apart front (gap :: rest)) : scan (front ++ gap :: rest) = scan front ++ scan (gap :: rest) := by
  fun_induction scan front with
  | case1 => rfl
  | case2 c front isBlank ih =>
    rw [List.cons_append, scan, if_pos isBlank]
    exact ih (apart.imp_left (fun none member => none (List.mem_cons_of_mem _ member)))
  | case3 c front notBlank ih =>
    rw [List.cons_append, scan, if_neg notBlank, nextAppend blank apart, List.cons_append]
    have behind : Apart (next c front).2 (gap :: rest) :=
      apart.imp_left (fun none member => none (List.mem_cons_of_mem _ (nextMem member)))
    exact congrArg _ (ih behind)

theorem scanJoined {left gap right : Text} (apart : Apart left right) (some : gap ≠ [])
    (blank : ∀ c ∈ gap, Text.isBlank c = true) : scan (left ++ gap ++ right) = scan left ++ scan right := by
  obtain ⟨c, rest, rfl⟩ := List.exists_cons_of_ne_nil some
  have wide : Apart left (c :: (rest ++ right)) := by
    refine apart.imp_right (fun none member => ?_)
    rcases List.mem_append.mp (show quote ∈ (c :: rest) ++ right from member) with inGap | inRight
    · exact absurd (blank quote inGap) (by simp [quoteNotBlank])
    · exact none inRight
  rw [List.append_assoc, List.cons_append, scanAppend (blank c List.mem_cons_self) wide]
  exact congrArg _ (scanBlanks blank right)

end Piece

namespace Segment

theorem ofPiecesWord {text : Text} (plain : text ≠ notWord) (rest : List Piece) :
    ofPieces (.word text :: rest) = .word text :: ofPieces rest := by
  cases rest with
  | nil => rfl
  | cons piece rest => rw [ofPieces, if_neg plain]

theorem ofPiecesAppend {front : List Piece} (free : front.getLast? ≠ some (.word notWord)) (rest : List Piece) :
    ofPieces (front ++ rest) = ofPieces front ++ ofPieces rest := by
  fun_induction ofPieces front with
  | case1 => rfl
  | case2 text front ih => exact congrArg _ (ih (Sequence.lastBehind free))
  | case3 text =>
    have plain : text ≠ notWord := by simpa using free
    exact ofPiecesWord plain rest
  | case4 piece front ih =>
    have behind := ih (Sequence.lastBehind (Sequence.lastBehind free))
    simp only [List.cons_append, ofPieces, if_true, behind]
  | case5 text piece front plain ih =>
    rw [List.cons_append, ofPiecesWord plain, ih (Sequence.lastBehind free)]
    rfl

theorem ofPiecesHead {pieces : List Piece} {text : Text} (head : (ofPieces pieces).head? = some (.word text)) :
    pieces.head? = some (.word text) := by
  revert head
  fun_cases ofPieces pieces <;> simp

theorem ofPiecesNotNil (piece : Piece) (rest : List Piece) : ofPieces (piece :: rest) ≠ [] := by
  cases piece with
  | phrase text => exact List.cons_ne_nil _ _
  | word text =>
    cases rest with
    | nil => exact List.cons_ne_nil _ _
    | cons next rest =>
      rw [ofPieces]
      split <;> exact List.cons_ne_nil _ _

theorem ofPiecesLast {pieces : List Piece} {text : Text} (last : (ofPieces pieces).getLast? = some (.word text)) :
    pieces.getLast? = some (.word text) := by
  fun_induction ofPieces pieces with
  | case1 => simp at last
  | case2 phrase rest ih => exact Sequence.lastCons (ih (Sequence.lastOfCons last nofun))
  | case3 word => simpa using last
  | case4 piece rest ih => exact Sequence.lastCons (Sequence.lastCons (ih (Sequence.lastOfCons last nofun)))
  | case5 word piece rest plain ih =>
    rw [List.getLast?_cons_of_ne_nil (ofPiecesNotNil piece rest)] at last
    exact Sequence.lastCons (ih last)

end Segment

namespace Token

theorem scanEither {line : Text} {tokens : List Token} (ok : scan line = .ok tokens) {i : Nat}
    (found : tokens[i]? = some .either) :
    (Segment.ofPieces (Piece.scan line))[i]? = some (.word orWord) := by
  obtain ⟨segment, source, read⟩ := (Outcome.eachOkAt ok i .either).mp found
  cases segment with
  | phrase text | negated text => cases read
  | word text => rw [source, ofWordEither read]

theorem scanHead {line : Text} {tokens : List Token} (ok : scan line = .ok tokens)
    (head : tokens.head? = some .either) : (Piece.scan line).head? = some (.word orWord) := by
  rw [List.head?_eq_getElem?] at head
  exact Segment.ofPiecesHead (List.head?_eq_getElem?.trans (scanEither ok head))

theorem scanLast {line : Text} {tokens : List Token} (ok : scan line = .ok tokens)
    (last : tokens.getLast? = some .either) : (Piece.scan line).getLast? = some (.word orWord) := by
  have lengths := (Outcome.eachOk.mp ok).length_eq
  rw [List.getLast?_eq_getElem?, ← lengths] at last
  exact Segment.ofPiecesLast (List.getLast?_eq_getElem?.trans (scanEither ok last))

theorem scanJoined {left gap right : Text} {front rest : List Token} (apart : Piece.Apart left right)
    (some : gap ≠ []) (blank : ∀ c ∈ gap, Text.isBlank c = true)
    (free : (Piece.scan left).getLast? ≠ .some (.word Segment.notWord)) (first : scan left = .ok front)
    (second : scan right = .ok rest) : scan (left ++ gap ++ right) = .ok (front ++ rest) := by
  unfold scan at first second ⊢
  rw [Piece.scanJoined apart some blank, Segment.ofPiecesAppend free, List.mapM_append, first, second]
  rfl

end Token
end CollectionSearch
