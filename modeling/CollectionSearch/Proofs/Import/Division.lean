import CollectionSearch.Import.Snapshot
import CollectionSearch.Proofs.Sequence

/-! The lines of a text. Nothing but a line feed, a carriage return or the two together ends one, each of which is
read as a feed, and a text that ends with a feed has its lines whatever stands behind it. -/
namespace CollectionSearch.Import

def feed : CodePoint := .char '\n'

def carriage : CodePoint := .char '\r'

inductive Ending : Text → Text → Prop where
  | feed (rest : Text) : Ending [feed] rest
  | both (rest : Text) : Ending [carriage, feed] rest
  | carriage (rest : Text) (alone : rest.head? ≠ some feed) : Ending [carriage] rest

def Unended (line : Text) : Prop := ∀ c ∈ line, c ≠ feed ∧ c ≠ carriage

inductive Divided : Text → List Text → Prop where
  | done : Divided [] []
  | last (line : Text) (filled : line ≠ []) (whole : Unended line) : Divided line [line]
  | ended (line : Text) (whole : Unended line) (ending rest : Text) (ends : Ending ending rest) (others : List Text)
      (behind : Divided rest others) : Divided (line ++ (ending ++ rest)) ((line ++ [feed]) :: others)

theorem linesFeed (rest : Text) : lines (feed :: rest) = [feed] :: lines rest := rfl

theorem linesBoth (rest : Text) : lines (carriage :: feed :: rest) = [feed] :: lines rest := rfl

theorem linesCarriage {rest : Text} (alone : rest.head? ≠ some feed) :
    lines (carriage :: rest) = [feed] :: lines rest := by
  rw [carriage, feed, lines]
  intro more same
  exact alone (by rw [same]; rfl)

theorem linesOther {c : CodePoint} (other : c ≠ feed ∧ c ≠ carriage) (rest : Text) :
    lines (c :: rest) = match lines rest with
      | [] => [[c]]
      | line :: more => (c :: line) :: more := by
  rw [lines.eq_def]
  split
  · contradiction
  · rename_i same
    exact absurd (List.cons.inj same).1 other.2
  · rename_i same
    exact absurd (List.cons.inj same).1 other.2
  · rename_i same
    exact absurd (List.cons.inj same).1 other.1
  · rename_i same
    cases same
    rfl

theorem linesEnding {ending rest : Text} (ends : Ending ending rest) :
    lines (ending ++ rest) = [feed] :: lines rest := by
  cases ends with
  | feed => exact linesFeed rest
  | both => exact linesBoth rest
  | carriage _ alone => exact linesCarriage alone

theorem linesWhole {line : Text} (whole : Unended line) {rest : Text} {others : List Text}
    (behind : lines rest = [feed] :: others) : lines (line ++ rest) = (line ++ [feed]) :: others := by
  induction line with
  | nil => exact behind
  | cons c line ih =>
    obtain ⟨other, more⟩ := List.forall_mem_cons.mp whole
    rw [List.cons_append, linesOther other, ih more, List.cons_append]

theorem linesLast {line : Text} (filled : line ≠ []) (whole : Unended line) : lines line = [line] := by
  induction line with
  | nil => contradiction
  | cons c line ih =>
    obtain ⟨other, more⟩ := List.forall_mem_cons.mp whole
    rw [linesOther other]
    cases line with
    | nil => rfl
    | cons d rest => rw [ih (List.cons_ne_nil d rest) more]

theorem linesOfDivided {content : Text} {parts : List Text} (divided : Divided content parts) :
    lines content = parts := by
  induction divided with
  | done => rfl
  | last line filled whole => exact linesLast filled whole
  | ended line whole ending rest ends others behind ih => exact linesWhole whole (ih ▸ linesEnding ends)

theorem dividedCons {c : CodePoint} (other : c ≠ feed ∧ c ≠ carriage) {rest line : Text} {more : List Text}
    (divided : Divided rest (line :: more)) : Divided (c :: rest) ((c :: line) :: more) := by
  cases divided with
  | last _ filled whole => exact .last _ (List.cons_ne_nil _ _) (List.forall_mem_cons.mpr ⟨other, whole⟩)
  | ended line whole ending rest ends _ behind =>
    exact .ended (c :: line) (List.forall_mem_cons.mpr ⟨other, whole⟩) ending rest ends more behind

theorem dividedEnding {ending rest : Text} (ends : Ending ending rest) {others : List Text}
    (behind : Divided rest others) : Divided (ending ++ rest) ([feed] :: others) :=
  .ended [] nofun ending rest ends others behind

/- The induction is on the reading of the text, where only a character that ends no line goes on with the line behind
it. -/
theorem dividedLines (content : Text) : Divided content (lines content) := by
  fun_induction lines content with
  | case1 => exact .done
  | case2 rest ih => exact dividedEnding (.both rest) ih
  | case3 rest other ih =>
    refine dividedEnding (.carriage rest (fun starts => ?_)) ih
    obtain ⟨more, same⟩ := List.head?_eq_some_iff.mp starts
    exact other more same
  | case4 rest ih => exact dividedEnding (.feed rest) ih
  | case5 c rest notBoth notCarriage notFeed none ih =>
    rw [none] at ih
    cases ih
    exact .last [c] (List.cons_ne_nil _ _) (by simpa [Unended] using ⟨notFeed, notCarriage⟩)
  | case6 c rest notBoth notCarriage notFeed line more found ih =>
    rw [found] at ih
    exact dividedCons ⟨notFeed, notCarriage⟩ ih

theorem linesExact {content : Text} {parts : List Text} : lines content = parts ↔ Divided content parts :=
  ⟨fun same => same ▸ dividedLines content, linesOfDivided⟩

def Closed (content : Text) : Prop := content = [] ∨ content.getLast? = some feed

theorem closedBehind {front rest : Text} (closed : Closed (front ++ rest)) : Closed rest := by
  cases rest with
  | nil => exact Or.inl rfl
  | cons c rest => exact Or.inr (by simpa [Closed] using closed)

theorem endingAppend {ending rest : Text} (ends : Ending ending rest) (closed : Closed (ending ++ rest))
    (second : Text) : Ending ending (rest ++ second) := by
  cases ends with
  | feed => exact .feed _
  | both => exact .both _
  | carriage _ alone =>
    refine .carriage _ ?_
    cases rest with
    | nil => exact absurd closed (by unfold Closed; decide)
    | cons c rest => exact alone

theorem linesAppend {first : Text} (closed : Closed first) (second : Text) :
    lines (first ++ second) = lines first ++ lines second := by
  generalize same : lines first = parts
  induction linesExact.mp same with
  | done => rfl
  | last line filled whole =>
    have feeds := closed.resolve_left filled
    exact absurd rfl (whole feed (List.mem_of_getLast? feeds)).1
  | ended line whole ending rest ends others behind ih =>
    have later := closedBehind closed
    rw [List.append_assoc, List.append_assoc]
    refine linesWhole whole ?_
    rw [linesEnding (endingAppend ends later second), ih (closedBehind later) (linesOfDivided behind)]
    rfl

end CollectionSearch.Import
