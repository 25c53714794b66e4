import CollectionSearch.Proofs.Query.Plain
import CollectionSearch.Proofs.Query.WellFormed

/-! Where the pieces of a line stand. There is nothing but blanks between them, a word goes on to a blank or to the end,
and wherever a piece starts a phrase is taken if one stands there. This fixes the pieces, and a line that only writes
them again, with other blanks between them, asks for the same. -/
namespace CollectionSearch
namespace Piece

def Opens (s : Text) : Prop := ∃ inner, (phrase inner).Sound ∧ (phrase inner).written <+: s

inductive Layout : Text → List Piece → Prop where
  | done : Layout [] []
  | blank {c : CodePoint} {rest : Text} {pieces : List Piece} (blank : Text.isBlank c = true)
      (behind : Layout rest pieces) : Layout (c :: rest) pieces
  | phrase {text rest : Text} {pieces : List Piece} (sound : (Piece.phrase text).Sound)
      (behind : Layout rest pieces) : Layout ((Piece.phrase text).written ++ rest) (.phrase text :: pieces)
  | word {text rest : Text} {pieces : List Piece} (sound : (Piece.word text).Sound)
      (ends : ∀ c, rest.head? = some c → Text.isBlank c = true) (closed : ¬ Opens (text ++ rest))
      (behind : Layout rest pieces) : Layout ((Piece.word text).written ++ rest) (.word text :: pieces)

theorem spanIff {s inner rest : Text} :
    span? s = some (inner, rest) ↔ s = inner ++ quote :: rest ∧ (phrase inner).Sound := by
  constructor
  · intro found
    refine ⟨?_, spanSound found⟩
    unfold span? at found
    split at found
    · rename_i front closing
      cases found
      have stop := List.head?_dropWhile_not (· ≠ quote) s
      rw [closing] at stop
      rw [← List.takeWhile_append_dropWhile (p := (· ≠ quote)) (l := s), front, closing]
      simpa using stop
    · contradiction
  · rintro ⟨rfl, some, unquoted⟩
    have inside : ∀ c ∈ inner, decide (c ≠ quote) = true :=
      fun c member => decide_eq_true (fun same => unquoted (same ▸ member))
    obtain ⟨c, more, rfl⟩ := List.exists_cons_of_ne_nil some
    unfold span?
    rw [List.takeWhile_append_of_pos inside, List.dropWhile_append_of_pos inside]
    simp

theorem nextPhrase {text : Text} (sound : (phrase text).Sound) (rest : Text) :
    next quote (text ++ quote :: rest) = (.phrase text, rest) := by
  have opened : span? (text ++ quote :: rest) = some (text, rest) := spanIff.mpr ⟨rfl, sound⟩
  simp [next, opened]

theorem writtenPhrase (text rest : Text) : (phrase text).written ++ rest = quote :: (text ++ quote :: rest) := by
  simp [written]

theorem closedSpan {c : CodePoint} {rest : Text} (closed : ¬ Opens (c :: rest)) : c = quote → span? rest = none := by
  rintro rfl
  refine Option.eq_none_iff_forall_ne_some.mpr (fun found opened => closed ?_)
  obtain ⟨inner, after⟩ := found
  obtain ⟨rfl, sound⟩ := spanIff.mp opened
  exact ⟨inner, sound, after, writtenPhrase inner after⟩

theorem scanStopped {text rest : Text} (sound : (word text).Sound)
    (ends : ∀ c, rest.head? = some c → Text.isBlank c = true) (closed : ¬ Opens (text ++ rest)) :
    scan (text ++ rest) = .word text :: scan rest := by
  obtain ⟨some, full⟩ := sound
  obtain ⟨c, more, rfl⟩ := List.exists_cons_of_ne_nil some
  have filled : Text.isBlank c = false := full c List.mem_cons_self
  have inside : ∀ x ∈ c :: more, (!Text.isBlank x) = true := fun x member => by simp [full x member]
  have stops : rest.takeWhile (!Text.isBlank ·) = [] ∧ rest.dropWhile (!Text.isBlank ·) = rest := by
    cases rest with
    | nil => exact ⟨rfl, rfl⟩
    | cons gap rest => simp [ends gap rfl]
  have unopened : c = quote → span? (more ++ rest) = none := closedSpan closed
  have split : c :: (more ++ rest) = c :: more ++ rest := rfl
  rw [List.cons_append, scan, if_neg (by simp [filled]), nextUnopened filled unopened, split,
    List.takeWhile_append_of_pos inside, List.dropWhile_append_of_pos inside, stops.1, stops.2, List.append_nil]

theorem layoutScan {line : Text} {pieces : List Piece} (layout : Layout line pieces) : scan line = pieces := by
  induction layout with
  | done => rw [scan]
  | blank blank behind ih => rw [scan, if_pos blank, ih]
  | @phrase text rest pieces sound behind ih =>
    rw [writtenPhrase, scan, if_neg (by simp [quoteNotBlank]), nextPhrase sound, ih]
  | word sound ends closed behind ih => exact (scanStopped sound ends closed).trans (congrArg _ ih)

theorem scanLayout (line : Text) : Layout line (scan line) := by
  fun_induction scan line with
  | case1 => exact .done
  | case2 c rest blank ih => exact .blank blank ih
  | case3 c rest notBlank ih =>
    have sound := nextSound notBlank rest
    by_cases opens : Opens (c :: rest)
    · obtain ⟨inner, soundToo, after, same⟩ := opens
      rw [writtenPhrase, List.cons.injEq] at same
      obtain ⟨rfl, rfl⟩ := same
      rw [nextPhrase soundToo] at ih ⊢
      exact writtenPhrase inner after ▸ .phrase soundToo ih
    · have step := nextUnopened (by simpa using notBlank) (closedSpan opens)
      have split := List.takeWhile_append_dropWhile (p := (!Text.isBlank ·)) (l := c :: rest)
      have stop := List.head?_dropWhile_not (!Text.isBlank ·) (c :: rest)
      rw [step] at ih sound ⊢
      have ends : ∀ x, ((c :: rest).dropWhile (!Text.isBlank ·)).head? = some x → Text.isBlank x = true := by
        intro x starts
        rw [starts] at stop
        simpa using stop
      have layout := Layout.word sound ends (by rwa [split]) ih
      rwa [written, split] at layout

theorem layoutIff {line : Text} {pieces : List Piece} : Layout line pieces ↔ scan line = pieces :=
  ⟨layoutScan, fun same => same ▸ scanLayout line⟩

theorem layoutBehind {gap line : Text} {pieces : List Piece} (blank : ∀ c ∈ gap, Text.isBlank c = true)
    (layout : Layout line pieces) : Layout (gap ++ line) pieces :=
  layoutIff.mpr ((scanBlanks blank line).trans (layoutIff.mp layout))

theorem blankPlain {c : CodePoint} (blank : Text.isBlank c = true) : c ≠ quote := by
  rintro rfl
  simp [quoteNotBlank] at blank

theorem layoutQuotes {line : Text} {pieces : List Piece} (layout : Layout line pieces) :
    line.count quote = (pieces.flatMap written).count quote := by
  induction layout with
  | done => rfl
  | blank blank behind ih => rw [List.count_cons_of_ne (blankPlain blank), ih]
  | phrase _ _ ih | word _ _ _ _ ih => rw [List.count_append, List.flatMap_cons, List.count_append, ih]

inductive Joined : List Piece → Text → Prop where
  | none : Joined [] []
  | last (piece : Piece) : Joined [piece] piece.written
  | next (piece : Piece) {other : Piece} {pieces : List Piece} {gap line : Text} (some : gap ≠ [])
      (blank : ∀ c ∈ gap, Text.isBlank c = true) (behind : Joined (other :: pieces) line) :
      Joined (piece :: other :: pieces) (piece.written ++ (gap ++ line))

inductive Rendered (pieces : List Piece) : Text → Prop where
  | of {front middle behind : Text} (before : ∀ c ∈ front, Text.isBlank c = true) (joined : Joined pieces middle)
      (after : ∀ c ∈ behind, Text.isBlank c = true) : Rendered pieces (front ++ (middle ++ behind))

/- A word that opens no phrase opens none before another text either, unless that has a quote where the first had none.
With a quote behind it the word would have been a phrase, for the blank that ends it stands before the quote. -/
theorem closedKept {text rest other : Text} (sound : (word text).Sound)
    (ends : ∀ c, rest.head? = some c → Text.isBlank c = true) (closed : ¬ Opens (text ++ rest))
    (quotes : quote ∈ other → quote ∈ rest) : ¬ Opens (text ++ other) := by
  rintro ⟨inner, inside, front⟩
  rcases List.prefix_or_prefix_of_prefix front (List.prefix_append text other) with within | ⟨more, whole⟩
  · exact closed ⟨inner, inside, within.trans (List.prefix_append text rest)⟩
  obtain ⟨c, tail, rfl⟩ := List.exists_cons_of_ne_nil sound.1
  obtain ⟨rfl, same⟩ : c = quote ∧ tail ++ more = inner ++ [quote] := List.cons.inj whole
  rcases List.eq_nil_or_concat' more with rfl | ⟨between, close, rfl⟩
  · rw [List.append_nil] at whole
    exact closed ⟨inner, inside, whole ▸ List.prefix_append _ rest⟩
  rw [← List.append_assoc] at same
  obtain ⟨rfl, -⟩ := List.append_inj' same rfl
  have reaches : quote ∈ other := by
    obtain ⟨after, split⟩ := front
    have tails : between ++ quote :: after = other := by simpa [written] using split
    exact tails ▸ List.mem_append_right _ List.mem_cons_self
  obtain ⟨lead, after, rfl, free⟩ := List.eq_append_cons_of_mem (quotes reaches)
  refine closed ⟨tail ++ lead, ⟨?_, ?_⟩, after, by simp [written]⟩
  · intro none
    obtain ⟨-, rfl⟩ := List.append_eq_nil_iff.mp none
    exact blankPlain (ends quote rfl) rfl
  · exact fun member => (List.mem_append.mp member).elim (fun here => inside.2 (List.mem_append_left _ here)) free

theorem wordKept {text rest other : Text} {pieces : List Piece} (sound : (word text).Sound)
    (ends : ∀ c, rest.head? = some c → Text.isBlank c = true) (closed : ¬ Opens (text ++ rest))
    (layout : Layout rest pieces) (endsToo : ∀ c, other.head? = some c → Text.isBlank c = true)
    (layoutToo : Layout other pieces) : Layout ((word text).written ++ other) (.word text :: pieces) := by
  have quotes : other.count quote = rest.count quote := (layoutQuotes layoutToo).trans (layoutQuotes layout).symm
  refine .word sound endsToo (closedKept sound ends closed (fun member => ?_)) layoutToo
  exact List.count_pos_iff.mp (quotes ▸ List.count_pos_iff.mpr member)

/- The induction is on the layout of the first line; the blanks that the second one has instead end its words, too. -/
theorem joinedLayout {line middle behind : Text} {pieces : List Piece} (layout : Layout line pieces)
    (joined : Joined pieces middle) (after : ∀ c ∈ behind, Text.isBlank c = true) :
    Layout (middle ++ behind) pieces := by
  have heads {gap : Text} (some : gap ≠ []) (blank : ∀ c ∈ gap, Text.isBlank c = true) (rest : Text) :
      ∀ c, (gap ++ rest).head? = .some c → Text.isBlank c = true := by
    intro c starts
    rw [List.head?_append_of_ne_nil _ some] at starts
    exact blank c (List.mem_of_head? starts)
  have bare : Layout behind [] := by simpa using layoutBehind after .done
  induction layout generalizing middle with
  | done =>
    cases joined
    exact bare
  | blank blank layout ih => exact ih joined
  | phrase sound layout ih =>
    cases joined with
    | last => exact .phrase sound bare
    | next _ some blank joined =>
      rw [List.append_assoc, List.append_assoc]
      exact .phrase sound (layoutBehind blank (ih joined))
  | word sound ends closed layout ih =>
    cases joined with
    | last =>
      exact wordKept sound ends closed layout (fun c starts => after c (List.mem_of_head? starts)) bare
    | next _ some blank joined =>
      rw [List.append_assoc, List.append_assoc]
      exact wordKept sound ends closed layout (heads some blank _) (layoutBehind blank (ih joined))

theorem renderedScan {line rewritten : Text} (rendered : Rendered (scan line) rewritten) :
    scan rewritten = scan line := by
  obtain ⟨before, joined, after⟩ := rendered
  exact layoutScan (layoutBehind before (joinedLayout (scanLayout line) joined after))

end Piece

namespace Parsed

theorem parseRendered (line : Text) :
    (∀ pieces, Piece.Layout line pieces ↔ Piece.scan line = pieces) ∧
    ∀ rewritten, Piece.Rendered (Piece.scan line) rewritten →
      Piece.scan rewritten = Piece.scan line ∧
      parse rewritten = (parse line).map (fun parsed => { parsed with raw := rewritten }) := by
  refine ⟨fun pieces => Piece.layoutIff, fun rewritten rendered => ?_⟩
  have same := Piece.renderedScan rendered
  refine ⟨same, ?_⟩
  unfold parse Token.scan
  rw [same]
  cases (Segment.ofPieces (Piece.scan line)).mapM Token.ofSegment with
  | error fault => rfl
  | ok tokens => rfl

theorem parseRenderedOfDangling :
    let line := "\"a b\"c \"\"d \"e".toText
    let rewritten := "  \"a b\" c\t\"\"d  \"e ".toText
    Piece.Rendered (Piece.scan line) rewritten ∧ Piece.scan rewritten = Piece.scan line ∧
    parse rewritten = (parse line).map (fun parsed => { parsed with raw := rewritten }) := by
  intro line rewritten
  have pieces : Piece.scan line =
      [.phrase "a b".toText, .word "c".toText, .word "\"\"d".toText, .word "\"e".toText] := by decide +kernel
  have space : " ".toText ≠ [] ∧ ∀ c ∈ " ".toText, Text.isBlank c = true := by decide
  have tab : "\t".toText ≠ [] ∧ ∀ c ∈ "\t".toText, Text.isBlank c = true := by decide
  have wide : "  ".toText ≠ [] ∧ ∀ c ∈ "  ".toText, Text.isBlank c = true := by decide
  have rendered : Piece.Rendered (Piece.scan line) rewritten := by
    rw [pieces]
    exact .of wide.2 (.next _ space.1 space.2 (.next _ tab.1 tab.2 (.next _ wide.1 wide.2 (.last _)))) space.2
  exact ⟨rendered, (parseRendered line).2 rewritten rendered⟩

end Parsed
end CollectionSearch
