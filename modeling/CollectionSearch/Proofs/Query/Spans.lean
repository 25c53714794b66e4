import CollectionSearch.Proofs.Query.Layout
import CollectionSearch.Proofs.Text.Splitting
import Mathlib.Algebra.Ring.Parity

/-! Quotes taken in pairs. The spans that they enclose are the phrases of a line exactly if each span opens where a
piece can start, that is at the start, behind a blank or right behind another span. A span that opens inside a word is
no phrase, and its quotes stay in the words. -/
namespace CollectionSearch

namespace Text

theorem splitOnFront {separator : CodePoint} {front : Text} (free : separator ∉ front) (rest : Text) :
    splitOn separator (front ++ rest) = (splitOn separator rest).modifyHead (front ++ ·) := by
  obtain ⟨part, parts, split⟩ : ∃ part parts, splitOn separator rest = part :: parts := by
    rw [splitOnList]
    exact List.exists_cons_of_ne_nil (List.splitOn_ne_nil separator rest)
  induction front with
  | nil => simp [split]
  | cons c front ih =>
    obtain ⟨different, behind⟩ := List.ne_and_not_mem_of_not_mem_cons free
    rw [List.cons_append, splitOn, ih behind, split]
    simp [Ne.symm different]

end Text

namespace Piece

def couples : List Text → List (Text × Text)
  | lead :: inner :: rest => (lead, inner) :: couples rest
  | _ => []

/- What stands between the first and the second quote, the third and the fourth and so on, each with what leads up to
it from the span before. -/
def spans (line : Text) : List (Text × Text) := couples (Text.splitOn quote line)

structure Balanced (line : Text) : Prop where
  even : Even (line.count quote)
  full : ∀ span ∈ spans line, span.2 ≠ []

instance (line : Text) : Decidable (Balanced line) :=
  decidable_of_iff (Even (line.count quote) ∧ ∀ span ∈ spans line, span.2 ≠ [])
    ⟨fun both => ⟨both.1, both.2⟩, fun balanced => ⟨balanced.even, balanced.full⟩⟩

def Edge (lead : Text) : Prop := ∀ c, lead.getLast? = some c → Text.isBlank c = true

def phrase? : Piece → Option Text
  | .phrase text => some text
  | .word _ => none

theorem couplesLength : (parts : List Text) → (couples parts).length = parts.length / 2
  | [] | [_] => by simp [couples]
  | lead :: inner :: rest => by
    rw [couples, List.length_cons, couplesLength rest]
    exact (Nat.add_div_right rest.length Nat.two_pos).symm

theorem spansLength {line : Text} (even : Even (line.count quote)) : line.count quote = 2 * (spans line).length := by
  obtain ⟨half, count⟩ := even
  rw [spans, couplesLength, Text.splitOnCount]
  omega

theorem couplesFront (front : Text) (parts : List Text) :
    couples (parts.modifyHead (front ++ ·)) = (couples parts).modifyHead (fun span => (front ++ span.1, span.2)) := by
  match parts with
  | [] | [_] | _ :: _ :: _ => rfl

theorem spansFront {front : Text} (free : quote ∉ front) (rest : Text) :
    spans (front ++ rest) = (spans rest).modifyHead (fun span => (front ++ span.1, span.2)) := by
  rw [spans, Text.splitOnFront free, couplesFront]
  rfl

theorem spansPhrase {text : Text} (free : quote ∉ text) (rest : Text) :
    spans (quote :: (text ++ quote :: rest)) = ([], text) :: spans rest := by
  rw [spans, Text.splitOnBehind, Text.splitOnFront free, Text.splitOnBehind]
  simp [couples, spans]

theorem spansBehind {front rest : Text} (free : quote ∉ front) {span : Text × Text} (member : span ∈ spans rest) :
    ∃ longer, (longer ++ span.1, span.2) ∈ spans (front ++ rest) := by
  rw [spansFront free]
  cases all : spans rest with
  | nil => simp [all] at member
  | cons first more =>
    rw [all] at member
    rcases List.mem_cons.mp member with rfl | later
    · exact ⟨front, List.mem_cons_self⟩
    · exact ⟨[], List.mem_cons_of_mem _ later⟩

theorem balancedBehind {front rest : Text} (free : quote ∉ front) (balanced : Balanced (front ++ rest)) :
    Balanced rest where
  even := by
    have even := balanced.even
    rwa [List.count_append, List.count_eq_zero.mpr free, Nat.zero_add] at even
  full span member := by
    obtain ⟨longer, present⟩ := spansBehind free member
    exact balanced.full (longer ++ span.1, span.2) present

theorem edgesBehind {front rest : Text} (free : quote ∉ front)
    (edges : ∀ span ∈ spans (front ++ rest), Edge span.1) : ∀ span ∈ spans rest, Edge span.1 := by
  intro span member c ends
  obtain ⟨longer, present⟩ := spansBehind free member
  exact edges _ present c (by rw [List.getLast?_append, ends]; rfl)

theorem edgesFront {front rest : Text} (free : quote ∉ front) (edge : Edge front)
    (edges : ∀ span ∈ spans rest, Edge span.1) : ∀ span ∈ spans (front ++ rest), Edge span.1 := by
  rw [spansFront free]
  cases all : spans rest with
  | nil => simp
  | cons first more =>
    rw [all] at edges
    obtain ⟨here, behind⟩ := List.forall_mem_cons.mp edges
    refine List.forall_mem_cons.mpr ⟨fun c ends => ?_, behind⟩
    rw [List.getLast?_append] at ends
    cases lead : first.1.getLast? with
    | none => exact edge c (by simpa [lead] using ends)
    | some last => exact here c (by simpa [lead] using ends)

theorem spansInner {front : Text} (free : quote ∉ front) (rest : Text) :
    (spans (front ++ rest)).map Prod.snd = (spans rest).map Prod.snd := by
  rw [spansFront free]
  cases spans rest <;> rfl

theorem blankUnquoted {c : CodePoint} (blank : Text.isBlank c = true) : quote ∉ [c] :=
  fun member => blankPlain blank (List.mem_singleton.mp member).symm

theorem edgeBlank {c : CodePoint} (blank : Text.isBlank c = true) (front : Text) : Edge (front ++ [c]) := by
  intro x ends
  rw [List.getLast?_concat, Option.some.injEq] at ends
  exact ends ▸ blank

theorem edgeFilled {text : Text} (full : text.Blankless) (edge : Edge text) : text = [] := by
  refine List.getLast?_eq_none_iff.mp (Option.eq_none_iff_forall_ne_some.mpr (fun c ends => ?_))
  have filled := full c (List.mem_of_getLast? ends)
  rw [edge c ends] at filled
  contradiction

/- The first quote in a word is that of a span, which by `edges` starts with the word. But a span is not empty, so the
word would have been a phrase. -/
theorem wordUnquoted {text rest : Text} (full : text.Blankless) (closed : ¬ Opens (text ++ rest))
    (balanced : Balanced (text ++ rest)) (edges : ∀ span ∈ spans (text ++ rest), Edge span.1) : quote ∉ text := by
  intro member
  obtain ⟨lead, behind, rfl, free⟩ := List.eq_append_cons_of_mem member
  have split : lead ++ quote :: behind ++ rest = lead ++ quote :: (behind ++ rest) := by simp
  rw [split] at closed balanced edges
  have closing : quote ∈ behind ++ rest := by
    have even := balanced.even
    rw [List.count_append, List.count_eq_zero.mpr free, List.count_cons_self, Nat.zero_add] at even
    refine List.count_pos_iff.mp (Nat.pos_of_ne_zero (fun none => ?_))
    simp [none] at even
  obtain ⟨inner, after, shape, freeToo⟩ := List.eq_append_cons_of_mem closing
  rw [shape] at closed balanced edges
  have first : (lead, inner) ∈ spans (lead ++ quote :: (inner ++ quote :: after)) := by
    rw [spansFront free, spansPhrase freeToo]
    simp
  obtain rfl := edgeFilled (fun c inside => full c (List.mem_append_left _ inside)) (edges _ first)
  exact closed ⟨inner, ⟨balanced.full _ first, freeToo⟩, after, writtenPhrase inner after⟩

theorem edgesPlain {line : Text} {pieces : List Piece} (layout : Layout line pieces) (balanced : Balanced line)
    (edges : ∀ span ∈ spans line, Edge span.1) : ∀ text, .word text ∈ pieces → quote ∉ text := by
  induction layout with
  | done => simp
  | @blank c rest pieces blank layout ih =>
    have free := blankUnquoted blank
    exact ih (balancedBehind free balanced) (edgesBehind free edges)
  | @phrase text rest pieces sound layout ih =>
    rw [writtenPhrase] at balanced edges
    have behind : Balanced rest := by
      refine ⟨?_, fun span member => balanced.full span ?_⟩
      · have even := balanced.even
        rw [List.count_cons_self, List.count_append, List.count_eq_zero.mpr sound.2, List.count_cons_self] at even
        simpa [Nat.even_add_one] using even
      · exact spansPhrase sound.2 rest ▸ List.mem_cons_of_mem _ member
    have later := ih behind (fun span member => edges span (spansPhrase sound.2 rest ▸ List.mem_cons_of_mem _ member))
    intro word member
    rcases List.mem_cons.mp member with same | present
    · cases same
    · exact later word present
  | @word text rest pieces sound ends closed layout ih =>
    have free := wordUnquoted sound.2 closed balanced edges
    intro word member
    rcases List.mem_cons.mp member with same | later
    · cases same
      exact free
    · exact ih (balancedBehind free balanced) (edgesBehind free edges) word later

theorem plainSpans {line : Text} {pieces : List Piece} (layout : Layout line pieces)
    (plain : ∀ text, .word text ∈ pieces → quote ∉ text) :
    pieces.filterMap phrase? = (spans line).map Prod.snd ∧ ∀ span ∈ spans line, Edge span.1 := by
  induction layout with
  | done => exact ⟨rfl, fun span member => absurd member List.not_mem_nil⟩
  | @blank c rest pieces blank layout ih =>
    obtain ⟨phrases, edges⟩ := ih plain
    have free := blankUnquoted blank
    exact ⟨phrases.trans (spansInner free rest).symm, edgesFront free (edgeBlank blank []) edges⟩
  | @phrase text rest pieces sound layout ih =>
    obtain ⟨phrases, edges⟩ := ih (fun word member => plain word (List.mem_cons_of_mem _ member))
    rw [writtenPhrase, spansPhrase sound.2]
    exact ⟨congrArg (text :: ·) phrases, List.forall_mem_cons.mpr ⟨nofun, edges⟩⟩
  | @word text rest pieces sound ends closed layout ih =>
    obtain ⟨phrases, edges⟩ := ih (fun word member => plain word (List.mem_cons_of_mem _ member))
    have free := plain text List.mem_cons_self
    refine ⟨phrases.trans (spansInner free rest).symm, ?_⟩
    -- the blank that ends the word stands before whatever follows
    cases rest with
    | nil =>
      rw [written, spansFront free]
      exact fun span member => absurd member List.not_mem_nil
    | cons gap rest =>
      have blank := ends gap rfl
      have freeToo : quote ∉ text ++ [gap] := by simpa using ⟨free, by simpa using blankUnquoted blank⟩
      have later := edgesFront freeToo (edgeBlank blank text) (edgesBehind (blankUnquoted blank) edges)
      rwa [List.append_assoc] at later

theorem countPhrase {text : Text} (sound : (Piece.phrase text).Sound) :
    (Piece.phrase text).written.count quote = 2 := by
  rw [written, List.cons_append, List.count_cons_self, List.count_append, List.count_eq_zero.mpr sound.2]
  rfl

theorem phrasesQuotes {pieces : List Piece} (sound : ∀ piece ∈ pieces, piece.Sound) :
    2 * (pieces.filterMap phrase?).length ≤ (pieces.flatMap written).count quote := by
  induction pieces with
  | nil => exact Nat.le_refl 0
  | cons piece rest ih =>
    obtain ⟨here, behind⟩ := List.forall_mem_cons.mp sound
    have later := ih behind
    rw [List.flatMap_cons, List.count_append]
    cases piece with
    | phrase text =>
      rw [countPhrase here, List.filterMap_cons_some (f := phrase?) rfl, List.length_cons]
      omega
    | word text =>
      rw [List.filterMap_cons_none rfl]
      omega

theorem wordsPlain {pieces : List Piece} (sound : ∀ piece ∈ pieces, piece.Sound)
    (all : (pieces.flatMap written).count quote ≤ 2 * (pieces.filterMap phrase?).length) :
    ∀ text, .word text ∈ pieces → quote ∉ text := by
  induction pieces with
  | nil => exact fun text member => absurd member List.not_mem_nil
  | cons piece rest ih =>
    obtain ⟨here, behind⟩ := List.forall_mem_cons.mp sound
    rw [List.flatMap_cons, List.count_append] at all
    intro word member
    cases piece with
    | phrase text =>
      rw [countPhrase here, List.filterMap_cons_some (f := phrase?) rfl, List.length_cons] at all
      exact ih behind (by omega) word (by simpa using member)
    | word text =>
      have later := phrasesQuotes behind
      rw [List.filterMap_cons_none rfl] at all
      rcases List.mem_cons.mp member with same | present
      · cases same
        exact List.count_eq_zero.mp (by rw [written] at all; omega)
      · exact ih behind (by omega) word present

theorem spansPhrases {line : Text} (balanced : Balanced line) :
    (scan line).filterMap phrase? = (spans line).map Prod.snd ↔ ∀ span ∈ spans line, Edge span.1 := by
  have layout := scanLayout line
  constructor
  · intro same
    have lengths : ((scan line).filterMap phrase?).length = (spans line).length := by rw [same, List.length_map]
    have quotes := (layoutQuotes layout).symm.trans (spansLength balanced.even)
    exact (plainSpans layout (wordsPlain (scanSound line) (by rw [lengths, quotes]))).2
  · exact fun edges => (plainSpans layout (edgesPlain layout balanced edges)).1

end Piece

end CollectionSearch
