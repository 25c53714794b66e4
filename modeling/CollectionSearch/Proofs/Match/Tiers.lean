import CollectionSearch.Match.Closeness
import CollectionSearch.Proofs.Text.Lowering
import Mathlib.Order.Bounds.Basic

/-! The tiers of closeness. The walk through a text takes each character of the term as early as it can, and no other
choice of places gets further. The tiers do not overlap, and the score alone tells how term and text are related: equal,
at the start, in one piece, with gaps, a front of the term with gaps, or nothing to speak of. -/
namespace CollectionSearch.Closeness

def Embedded (term text : Text) : Set Nat := {length | length ≤ term.length ∧ (term.take length).Sublist text}

theorem embeddedNil (term : Text) : IsGreatest (Embedded term []) 0 := by
  refine ⟨⟨Nat.zero_le _, by simp⟩, ?_⟩
  intro length found
  have empty : term.take length = [] := List.sublist_nil.mp found.2
  rcases List.take_eq_nil_iff.mp empty with none | none
  · exact Nat.le_of_eq none
  · simpa [none] using found.1

theorem embeddedTaken {c : CodePoint} {term text : Text} {length : Nat}
    (rest : IsGreatest (Embedded term text) length) :
    IsGreatest (Embedded (c :: term) (c :: text)) (length + 1) := by
  obtain ⟨⟨bound, found⟩, most⟩ := rest
  refine ⟨⟨Nat.succ_le_succ bound, ?_⟩, ?_⟩
  · simpa using found.cons_cons c
  · intro other embedded
    cases other with
    | zero => omega
    | succ other =>
      have behind : (term.take other).Sublist text := by simpa using embedded.2
      exact Nat.succ_le_succ (most ⟨Nat.le_of_succ_le_succ embedded.1, behind⟩)

theorem embeddedPassed {c : CodePoint} {term text : Text} {length : Nat} (other : term.head? ≠ some c)
    (rest : IsGreatest (Embedded term text) length) : IsGreatest (Embedded term (c :: text)) length := by
  refine ⟨⟨rest.1.1, rest.1.2.cons c⟩, ?_⟩
  intro found embedded
  refine rest.2 ⟨embedded.1, ?_⟩
  cases term with
  | nil => simp
  | cons q term =>
    cases found with
    | zero => simp
    | succ found =>
      have different : q ≠ c := by simpa using other
      have inside := embedded.2
      rw [List.take_succ_cons] at inside ⊢
      cases inside with
      | cons _ inside => exact inside
      | cons_cons _ inside => exact absurd rfl different

/- The induction is on the text, as the walk is; what was met before changes the merit only. -/
theorem trailGreatest (before : Option CodePoint) (adjacent : Bool) (term text : Text) :
    IsGreatest (Embedded term text) (trail before adjacent term text).matched := by
  induction text generalizing before adjacent term with
  | nil => cases term <;> exact embeddedNil _
  | cons c text ih =>
    cases term with
    | nil => exact ⟨⟨Nat.le_refl 0, by simp [trail]⟩, fun _ embedded => embedded.1⟩
    | cons q term =>
      simp only [trail]
      split
      · rename_i same
        subst same
        exact embeddedTaken (ih (some c) true term)
      · rename_i different
        exact embeddedPassed (by simpa using Ne.symm different) (ih (some c) false (q :: term))

theorem embeddedWhole {term text : Text} {length : Nat} (most : IsGreatest (Embedded term text) length) :
    length = term.length ↔ term.Sublist text := by
  constructor
  · intro whole
    have found := most.1.2
    rwa [whole, List.take_length] at found
  · intro sublist
    have whole : term.length ∈ Embedded term text := ⟨Nat.le_refl _, by rwa [List.take_length]⟩
    exact Nat.le_antisymm most.1.1 (most.2 whole)

/- The relations in the order in which they are tried. A folded term has `found` characters in order. -/
inductive Related (term text : Text) (found : Nat) : Nat → Prop where
  | equal (same : text = term) : Related term text found 100
  | start (front : term <+: text) (longer : text ≠ term) : Related term text found 95
  | part (inside : term <:+: text) (later : ¬ term <+: text) : Related term text found 85
  | gaps (merit : Nat) (inOrder : term.Sublist text) (apart : ¬ term <:+: text) :
      Related term text found (gapped merit (text.length - term.length))
  | front (broken : ¬ term.Sublist text) : Related term text found (beginning found term.length)

theorem betweenRelated (term text : Text) :
    Related term text (trail none false term text).matched (between term text) := by
  have whole := embeddedWhole (trailGreatest none false term text)
  unfold between
  split
  · rename_i same
    exact .equal same
  rename_i different
  split
  · rename_i front
    exact .start (List.isPrefixOf_iff_prefix.mp front) different
  rename_i noFront
  have later : ¬ term <+: text := fun front => noFront (List.isPrefixOf_iff_prefix.mpr front)
  split
  · rename_i inside
    exact .part ((Text.occursInIff term text).mp inside) later
  rename_i outside
  have apart : ¬ term <:+: text := fun inside => outside ((Text.occursInIff term text).mpr inside)
  simp only
  split
  · rename_i all
    exact .gaps _ (whole.mp all) apart
  · rename_i some
    exact .front (fun inOrder => some (whole.mpr inOrder))

theorem beginningBand {found length : Nat} (less : found < length) :
    (length < 2 * found → 15 ≤ beginning found length ∧ beginning found length ≤ 29 ∧
      beginning found length = 30 * found / length) ∧
    (2 * found ≤ length → beginning found length = 0) := by
  constructor
  · intro more
    have value : beginning found length = 30 * found / length := if_pos more
    have low : 15 ≤ 30 * found / length := (Nat.le_div_iff_mul_le (by omega)).mpr (by omega)
    have high : 30 * found / length < 30 := (Nat.div_lt_iff_lt_mul (by omega)).mpr (by omega)
    omega
  · intro half
    exact if_neg (by omega)

structure Tiers (term text : Text) (found score : Nat) : Prop where
  equal : score = 100 ↔ term = text
  start : score = 95 ↔ term <+: text ∧ term ≠ text
  part : score = 85 ↔ term <:+: text ∧ ¬ term <+: text
  gaps : 40 ≤ score ∧ score ≤ 80 ↔ term.Sublist text ∧ ¬ term <:+: text
  front : 15 ≤ score ∧ score ≤ 29 ∧ score = 30 * found / term.length ↔
    term.length < 2 * found ∧ 2 * found < 2 * term.length
  nothing : score = 0 ↔ 2 * found ≤ term.length

theorem apartDifferent {term text : Text} (apart : ¬ term <:+: text) : ¬ term <+: text ∧ term ≠ text := by
  have later : ¬ term <+: text := fun front => apart front.isInfix
  exact ⟨later, fun same => later (same ▸ List.prefix_refl _)⟩

theorem relatedTiers {term text : Text} {found score : Nat} (some : term ≠ [])
    (most : IsGreatest (Embedded term text) found) (related : Related term text found score) :
    Tiers term text found score := by
  have positive : 0 < term.length := List.length_pos_iff.mpr some
  have whole := embeddedWhole most
  have bound : found ≤ term.length := most.1.1
  -- the relation that was met rules out those tried before it, and its score is outside of the other tiers
  cases related with
  | equal same =>
    subst same
    have all := whole.mpr (List.Sublist.refl _)
    exact ⟨by simp, by simp, by simp, by simp, by omega, by omega⟩
  | start front longer =>
    have all := whole.mpr front.sublist
    have inside := front.isInfix
    have different := Ne.symm longer
    exact ⟨by simp [different], by simp [front, different], by simp [front], by simp [inside], by omega,
      by omega⟩
  | part inside later =>
    have all := whole.mpr inside.sublist
    have different : term ≠ text := fun same => later (same ▸ List.prefix_refl _)
    exact ⟨by simp [different], by simp [later], by simp [inside, later], by simp [inside], by omega, by omega⟩
  | gaps merit inOrder apart =>
    have all := whole.mpr inOrder
    obtain ⟨later, different⟩ := apartDifferent apart
    have band := gappedBand merit (text.length - term.length)
    generalize gapped merit (text.length - term.length) = score at band
    exact ⟨iff_of_false (by omega) different, iff_of_false (by omega) (by simp [later]),
      iff_of_false (by omega) (by simp [apart]), iff_of_true band ⟨inOrder, apart⟩, by omega, by omega⟩
  | front broken =>
    have less : found < term.length := lt_of_le_of_ne bound (fun all => broken (whole.mp all))
    have apart : ¬ term <:+: text := fun inside => broken inside.sublist
    obtain ⟨later, different⟩ := apartDifferent apart
    have band := beginningBand less
    generalize beginning found term.length = score at band
    exact ⟨iff_of_false (by omega) different, iff_of_false (by omega) (by simp [later]),
      iff_of_false (by omega) (by simp [apart]), iff_of_false (by omega) (by simp [broken]), by omega, by omega⟩

theorem foldedNotNil {term : Text} (some : Text.isBlankOnly term = false) :
    Text.fold (Text.trim term) ≠ [] := by
  intro empty
  have blank := (Text.trimNilIff term).mp (Text.foldNilIff.mp empty)
  simp [blank] at some

theorem scoreBlank {term : Text} (blank : Text.isBlankOnly term = true) (text : Text) :
    score term text = 100 := by
  simp [score, blank, exact]

theorem betweenEmpty {term : Text} (some : term ≠ []) : between term [] = 0 := by
  obtain ⟨c, rest, rfl⟩ := List.exists_cons_of_ne_nil some
  have nowhere : Text.occursIn (c :: rest) [] = false := rfl
  simp [between, nowhere, trail, beginning]

theorem scoreFolded {term : Text} (some : Text.isBlankOnly term = false) (text : Text) :
    score term text = between (Text.fold (Text.trim term)) (Text.fold (Text.trim text)) := by
  unfold score
  rw [some, if_neg (by simp)]
  split
  · rename_i empty
    rw [List.isEmpty_iff.mp empty]
    exact (betweenEmpty (foldedNotNil some)).symm
  · rfl

def InTiers (score : Nat) : Prop :=
  score = 0 ∨ (15 ≤ score ∧ score ≤ 29) ∨ (40 ≤ score ∧ score ≤ 80) ∨ score = 85 ∨ score = 95 ∨ score = 100

theorem relatedInTiers {term text : Text} {found score : Nat} (most : IsGreatest (Embedded term text) found)
    (related : Related term text found score) : InTiers score := by
  unfold InTiers
  cases related with
  | equal | start | part => omega
  | gaps merit =>
    have band := gappedBand merit (text.length - term.length)
    omega
  | front broken =>
    have less : found < term.length :=
      lt_of_le_of_ne most.1.1 (fun all => broken ((embeddedWhole most).mp all))
    have band := beginningBand less
    omega

theorem scoreInTiers (term text : Text) : InTiers (score term text) := by
  cases blank : Text.isBlankOnly term with
  | true => exact scoreBlank blank text ▸ by unfold InTiers; omega
  | false =>
    rw [scoreFolded blank]
    exact relatedInTiers (trailGreatest none false _ _) (betweenRelated _ _)

theorem scoreBound (term text : Text) : score term text ≤ 100 := by
  have tiers := scoreInTiers term text
  unfold InTiers at tiers
  omega

theorem scoreReads {term : Text} (some : Text.isBlankOnly term = false) (text : Text) :
    ∃ found, IsGreatest (Embedded (Text.fold (Text.trim term)) (Text.fold (Text.trim text))) found ∧
      Tiers (Text.fold (Text.trim term)) (Text.fold (Text.trim text)) found (score term text) := by
  have most := trailGreatest none false (Text.fold (Text.trim term)) (Text.fold (Text.trim text))
  rw [scoreFolded some]
  exact ⟨_, most, relatedTiers (foldedNotNil some) most (betweenRelated _ _)⟩

def Contains (term text : Text) : Prop := Text.fold (Text.trim term) <:+: Text.fold (Text.trim text)
instance (term text) : Decidable (Contains term text) :=
  decidable_of_iff (Text.occursIn (Text.fold (Text.trim term)) (Text.fold (Text.trim text)) = true)
    (Text.occursInIff _ _)

def Scattered (term text : Text) : Prop :=
  (Text.fold (Text.trim term)).Sublist (Text.fold (Text.trim text)) ∧ ¬ Contains term text
instance (term text) : Decidable (Scattered term text) := by unfold Scattered; infer_instance

def Partly (term text : Text) : Prop :=
  ∃ found, IsGreatest (Embedded (Text.fold (Text.trim term)) (Text.fold (Text.trim text))) found ∧
    (Text.fold (Text.trim term)).length < 2 * found ∧ 2 * found < 2 * (Text.fold (Text.trim term)).length

theorem containsScore {term text : Text} (some : Text.isBlankOnly term = false)
    (contains : Contains term text) : 85 ≤ score term text := by
  obtain ⟨found, _, tiers⟩ := scoreReads some text
  by_cases front : Text.fold (Text.trim term) <+: Text.fold (Text.trim text)
  · by_cases same : Text.fold (Text.trim term) = Text.fold (Text.trim text)
    · have value := tiers.equal.mpr same
      omega
    · have value := tiers.start.mpr ⟨front, same⟩
      omega
  · have value := tiers.part.mpr ⟨contains, front⟩
    omega

theorem scatteredScore {term text : Text} (some : Text.isBlankOnly term = false)
    (scattered : Scattered term text) : 40 ≤ score term text ∧ score term text ≤ 80 := by
  obtain ⟨found, _, tiers⟩ := scoreReads some text
  exact tiers.gaps.mpr scattered

theorem partlyScore {term text : Text} (some : Text.isBlankOnly term = false)
    (partly : Partly term text) : 15 ≤ score term text ∧ score term text ≤ 29 := by
  obtain ⟨found, most, tiers⟩ := scoreReads some text
  obtain ⟨length, greatest, bounds⟩ := partly
  rw [greatest.unique most] at bounds
  have value := tiers.front.mpr bounds
  exact ⟨value.1, value.2.1⟩

theorem scoreTiers (term : Text) :
    (Text.isBlankOnly term = true → ∀ text : Option Text, score term (text.getD []) = 100) ∧
    (Text.isBlankOnly term = false →
      (∀ text : Option Text, text.getD [] = [] → score term (text.getD []) = 0) ∧
      (∀ text : Text, text ≠ [] →
        ∃ found, IsGreatest (Embedded (Text.fold (Text.trim term)) (Text.fold (Text.trim text))) found ∧
          Tiers (Text.fold (Text.trim term)) (Text.fold (Text.trim text)) found (score term text)) ∧
      (∀ whole gaps front : Text, Contains term whole → Scattered term gaps → Partly term front →
        score term front < score term gaps ∧ score term gaps < score term whole)) ∧
    ∀ text : Option Text, InTiers (score term (text.getD [])) := by
  refine ⟨?_, ?_, fun text => scoreInTiers term _⟩
  · intro blank text
    exact scoreBlank blank _
  · intro some
    refine ⟨?_, fun text _ => scoreReads some text, ?_⟩
    · intro text empty
      rw [empty, scoreFolded some]
      exact betweenEmpty (foldedNotNil some)
    · intro whole gaps front contains scattered partly
      have top := containsScore some contains
      have middle := scatteredScore some scattered
      have low := partlyScore some partly
      omega

theorem scoreTiersOfAbc :
    score " ".toText "abc".toText = 100 ∧ score "abc".toText [] = 0 ∧
    (∃ found, IsGreatest (Embedded "abc".toText "abx".toText) found ∧
      Tiers "abc".toText "abx".toText found (score "abc".toText "abx".toText)) ∧
    score "abc".toText "abx".toText < score "abc".toText "a-b-c".toText ∧
    score "abc".toText "a-b-c".toText < score "abc".toText "xabc".toText := by
  obtain ⟨absent, present, ordered⟩ := (scoreTiers "abc".toText).2.1 (by decide)
  have partly : Partly "abc".toText "abx".toText := ⟨2, trailGreatest none false _ _, by decide, by decide⟩
  exact ⟨(scoreTiers " ".toText).1 (by decide) (some "abc".toText), absent none rfl,
    present "abx".toText (by decide),
    ordered "xabc".toText "a-b-c".toText "abx".toText (by decide) (by decide) partly⟩

end CollectionSearch.Closeness
