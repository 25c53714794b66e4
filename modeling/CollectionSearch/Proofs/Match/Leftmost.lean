import CollectionSearch.Proofs.Match.Tiers
import Mathlib.Data.List.Forall2
import Mathlib.Data.Rat.Floor

/-! A term that a text has with gaps. The walk through the text takes it at the leftmost places, that is at each of its
characters no later than any other choice, and the score is made of the places alone: how many of them follow one
another, how many start a word, and how much longer the text is. -/
namespace CollectionSearch.Closeness

structure Places (term text : Text) (places : List Nat) : Prop where
  increasing : places.Pairwise (· < ·)
  spelled : places.map (text[·]?) = term.map some

structure Leftmost (term text : Text) (places : List Nat) : Prop where
  found : Places term text places
  least : ∀ other, Places term text other → List.Forall₂ (· ≤ ·) places other

def joins (places : List Nat) : Nat := (places.zip places.tail).countP (fun pair => pair.2 = pair.1 + 1)

def StartsWord (text : Text) (place : Nat) : Prop :=
  place = 0 ∨ text[place - 1]? ∈ [some (.char ' '), some (.char '-'), some (.char ':')]
instance (text) : DecidablePred (StartsWord text) := fun place => by unfold StartsWord; infer_instance

/- The walk takes the character at a place: with it, but not before it, one more is found. -/
def Takes (term text : Text) (place : Nat) : Prop :=
  (trail none false term (text.take (place + 1))).matched = (trail none false term (text.take place)).matched + 1

def taken : (term text : Text) → List Nat
  | [], _ => []
  | _ :: _, [] => []
  | q :: term, t :: text =>
    if t = q then 0 :: (taken term text).map (· + 1) else (taken (q :: term) text).map (· + 1)

theorem placesBehind {term text : Text} {places : List Nat} (c : CodePoint) (found : Places term text places) :
    Places term (c :: text) (places.map (· + 1)) where
  increasing := List.pairwise_map.mpr (found.increasing.imp Nat.succ_lt_succ)
  spelled := by
    rw [List.map_map]
    exact found.spelled

theorem placesTail {c : CodePoint} {term text : Text} {places : List Nat} (found : Places term (c :: text) places)
    (later : ∀ place ∈ places, 0 < place) : ∃ rest, places = rest.map (· + 1) ∧ Places term text rest := by
  have shifted : places = (places.map (· - 1)).map (· + 1) := by
    rw [List.map_map]
    refine (List.map_id places).symm.trans (List.map_congr_left (fun place member => ?_))
    exact (Nat.succ_pred_eq_of_pos (later place member)).symm
  generalize places.map (· - 1) = rest at shifted
  subst shifted
  have spelled := found.spelled
  rw [List.map_map] at spelled
  exact ⟨rest, rfl, (List.pairwise_map.mp found.increasing).imp Nat.lt_of_succ_lt_succ, spelled⟩

theorem takenPlaces (term text : Text) : Places (term.take (taken term text).length) text (taken term text) := by
  fun_induction taken term text with
  | case1 | case2 => exact ⟨.nil, rfl⟩
  | case3 term c text ih =>
    rw [List.length_cons, List.length_map, List.take_succ_cons]
    obtain ⟨increasing, spelled⟩ := placesBehind c ih
    refine ⟨.cons (fun place member => ?_) increasing, congrArg (some c :: ·) spelled⟩
    obtain ⟨_, _, rfl⟩ := List.mem_map.mp member
    exact Nat.succ_pos _
  | case4 q term c text different ih =>
    rw [List.length_map]
    exact placesBehind c ih

/- The induction is on the text, as the walk is. Where it takes a character, another choice can at best do the same;
where it does not, no other choice can. -/
theorem takenLeast {term text : Text} {other : List Nat} (found : Places term text other) :
    List.Forall₂ (· ≤ ·) (taken term text) other := by
  fun_induction taken term text generalizing other with
  | case1 text =>
    obtain rfl : other = [] := List.map_eq_nil_iff.mp found.spelled
    exact .nil
  | case2 q term =>
    cases other with
    | nil => cases found.spelled
    | cons place rest => cases found.spelled
  | case3 term c text ih =>
    cases other with
    | nil => cases found.spelled
    | cons place rest =>
      obtain ⟨later, increasing⟩ := List.pairwise_cons.mp found.increasing
      have behind : Places term (c :: text) rest := ⟨increasing, (List.cons.inj found.spelled).2⟩
      obtain ⟨rest, rfl, inText⟩ := placesTail behind (fun next member => Nat.zero_lt_of_lt (later next member))
      refine .cons (Nat.zero_le place) ?_
      rw [List.forall₂_map_left_iff, List.forall₂_map_right_iff]
      exact (ih inText).imp (fun _ _ => Nat.succ_le_succ)
  | case4 q term c text different ih =>
    have later : ∀ place ∈ other, 0 < place := by
      cases other with
      | nil => cases found.spelled
      | cons place rest =>
        have first : 0 < place := by
          refine Nat.pos_of_ne_zero (fun zero => different ?_)
          have same := (List.cons.inj found.spelled).1
          rw [zero] at same
          exact Option.some.inj same
        have behind := (List.pairwise_cons.mp found.increasing).1
        exact List.forall_mem_cons.mpr ⟨first, fun next member => Nat.zero_lt_of_lt (behind next member)⟩
    obtain ⟨rest, rfl, inText⟩ := placesTail found later
    rw [List.forall₂_map_left_iff, List.forall₂_map_right_iff]
    exact (ih inText).imp (fun _ _ => Nat.succ_le_succ)

theorem joinsBehind (places : List Nat) : joins (places.map (· + 1)) = joins places := by
  unfold joins
  rw [← List.map_tail, List.zip_map, List.countP_map]
  simp [Function.comp_def]

theorem joinsNext (places : List Nat) :
    joins (0 :: places.map (· + 1)) = joins places + if places.head? = some 0 then 1 else 0 := by
  cases places with
  | nil => rfl
  | cons place rest =>
    have behind := joinsBehind (place :: rest)
    rw [joins, List.map_cons] at behind
    rw [joins, List.map_cons, List.tail_cons, List.zip_cons_cons, List.countP_cons]
    simpa using behind

def startsWord (before : Option CodePoint) (text : Text) : Nat → Bool
  | 0 => afterEdge before
  | place + 1 => text[place]?.any isEdge

def starts (before : Option CodePoint) (text : Text) (places : List Nat) : Nat :=
  places.countP (startsWord before text)

theorem startsBehind (before : Option CodePoint) (c : CodePoint) (text : Text) (places : List Nat) :
    starts before (c :: text) (places.map (· + 1)) = starts (some c) text places := by
  unfold starts
  rw [List.countP_map]
  refine List.countP_congr (fun place _ => ?_)
  cases place with
  | zero => rfl
  | succ place => rfl

theorem startsNext (before : Option CodePoint) (c : CodePoint) (text : Text) (places : List Nat) :
    starts before (c :: text) (0 :: places.map (· + 1)) =
      starts (some c) text places + if afterEdge before = true then 1 else 0 := by
  rw [← startsBehind before c text places, starts, List.countP_cons]
  rfl

theorem trailTaken (before : Option CodePoint) (adjacent : Bool) (term text : Text) :
    trail before adjacent term text =
      ⟨(taken term text).length,
        5 * (joins (taken term text) + if adjacent = true ∧ (taken term text).head? = some 0 then 1 else 0) +
          10 * starts before text (taken term text)⟩ := by
  induction text generalizing before adjacent term with
  | nil => cases term <;> simp [trail, taken, joins, starts]
  | cons c text ih =>
    cases term with
    | nil => simp [trail, taken, joins, starts]
    | cons q term =>
      unfold trail taken
      split
      · rw [ih (some c) true term, joinsNext, startsNext]
        simp only [List.length_cons, List.length_map, List.head?_cons, true_and, and_true, Trail.mk.injEq]
        split_ifs <;> omega
      · rw [ih (some c) false (q :: term), joinsBehind, startsBehind]
        simp

theorem startsWordIff {text : Text} {place : Nat} : StartsWord text place ↔ startsWord none text place = true := by
  cases place with
  | zero => simp [StartsWord, startsWord, afterEdge]
  | succ place =>
    unfold StartsWord startsWord
    cases found : text[place]? with
    | none => simp [found]
    | some c => simp [found, isEdge, or_assoc]

theorem takenStep (term text : Text) (place : Nat) : (taken term (text.take (place + 1))).length =
    (taken term (text.take place)).length + if place ∈ taken term text then 1 else 0 := by
  induction text generalizing term place with
  | nil => cases term <;> simp [taken]
  | cons c text ih =>
    cases term with
    | nil => simp [taken]
    | cons q term =>
      cases place with
      | zero =>
        rw [List.take_succ_cons, List.take_zero, List.take_zero]
        unfold taken
        split
        · cases term <;> simp [taken]
        · simp [taken]
      | succ place =>
        rw [List.take_succ_cons, List.take_succ_cons]
        unfold taken
        split
        · have behind : place + 1 ∈ 0 :: (taken term text).map (· + 1) ↔ place ∈ taken term text := by simp
          have step := ih term place
          rw [← if_congr behind rfl rfl] at step
          simp only [List.length_cons, List.length_map]
          omega
        · have behind : place + 1 ∈ (taken (q :: term) text).map (· + 1) ↔ place ∈ taken (q :: term) text := by simp
          have step := ih (q :: term) place
          rw [← if_congr behind rfl rfl] at step
          simp only [List.length_map]
          exact step

theorem takesIff {term text : Text} {place : Nat} : Takes term text place ↔ place ∈ taken term text := by
  unfold Takes
  rw [trailTaken, trailTaken, takenStep]
  split <;> simp_all

theorem leastUnique {places other : List Nat} (least : List.Forall₂ (· ≤ ·) places other)
    (leastToo : List.Forall₂ (· ≤ ·) other places) : places = other := by
  induction least with
  | nil => rfl
  | cons before behind ih =>
    cases leastToo with
    | cons beforeToo behindToo => rw [Nat.le_antisymm before beforeToo, ih behindToo]

theorem takenLeftmost {term text : Text} (inOrder : term.Sublist text) : Leftmost term text (taken term text) := by
  have whole := (embeddedWhole (trailGreatest none false term text)).mpr inOrder
  have length : (taken term text).length = term.length := by rwa [trailTaken] at whole
  have found := takenPlaces term text
  rw [length, List.take_length] at found
  exact ⟨found, fun other => takenLeast⟩

theorem betweenGapped {term text : Text} (inOrder : term.Sublist text) (apart : ¬ term <:+: text) :
    between term text = gapped (trail none false term text).merit (text.length - term.length) := by
  obtain ⟨later, different⟩ := apartDifferent apart
  have noFront : ¬ term.isPrefixOf text := mt List.isPrefixOf_iff_prefix.mp later
  have outside : ¬ Text.occursIn term text := mt (Text.occursInIff term text).mp apart
  have whole := (embeddedWhole (trailGreatest none false term text)).mpr inOrder
  simp [between, Ne.symm different, noFront, outside, whole]

theorem gappedFloor (merit excess : Nat) :
    (gapped merit excess : ℤ) = ⌊min (80 : ℚ) (60 + merit - min 20 ((excess : ℚ) / 2))⌋ := by
  have low : min 40 excess ≤ 120 + 2 * merit := by omega
  have doubled : min (80 : ℚ) (60 + merit - min 20 ((excess : ℚ) / 2)) =
      (min 160 (120 + 2 * merit - min 40 excess) : ℕ) / (2 : ℕ) := by
    push_cast [Nat.cast_sub low]
    rw [← min_div_div_right (by norm_num : (0 : ℚ) ≤ 2), sub_div, ← min_div_div_right (by norm_num : (0 : ℚ) ≤ 2)]
    norm_num
    ring_nf
  rw [doubled, Rat.floor_natCast_div_natCast]
  rfl

theorem scoreLeftmost {term text : Text} (filled : Text.isBlankOnly term = false) (scattered : Scattered term text) :
    let folded := Text.fold (Text.trim term)
    let inside := Text.fold (Text.trim text)
    (∃ places, Leftmost folded inside places) ∧
    ∀ places, Leftmost folded inside places →
      (∀ place, Takes folded inside place ↔ place ∈ places) ∧
      (score term text : ℤ) = ⌊min (80 : ℚ) (60 + 5 * joins places + 10 * places.countP (StartsWord inside) -
        min 20 (((inside.length : ℚ) - folded.length) / 2))⌋ := by
  intro folded inside
  obtain ⟨inOrder, apart⟩ := scattered
  have leftmost : Leftmost folded inside (taken folded inside) := takenLeftmost inOrder
  refine ⟨⟨_, leftmost⟩, fun places other => ?_⟩
  obtain rfl : taken folded inside = places :=
    leastUnique (leftmost.least places other.found) (other.least _ leftmost.found)
  refine ⟨fun place => takesIff, ?_⟩
  have merit : (trail none false folded inside).merit =
      5 * joins (taken folded inside) + 10 * (taken folded inside).countP (StartsWord inside) := by
    have same : starts none inside (taken folded inside) = (taken folded inside).countP (StartsWord inside) :=
      List.countP_congr (fun place _ => by simp [startsWordIff])
    rw [trailTaken, same]
    simp
  rw [scoreFolded filled, betweenGapped inOrder apart, gappedFloor, merit, Nat.cast_sub inOrder.length_le]
  push_cast
  rw [← add_assoc]

theorem scoreLeftmostOfCat :
    let text := "C xaxxat ".toText
    Scattered "cat".toText text ∧ Leftmost "cat".toText "c xaxxat".toText [0, 3, 7] ∧
    (∀ place, Takes "cat".toText "c xaxxat".toText place ↔ place ∈ [0, 3, 7]) ∧ score "cat".toText text = 67 := by
  intro text
  have scattered : Scattered "cat".toText text := by decide
  have folded : Text.fold (Text.trim "cat".toText) = "cat".toText := by decide
  have inside : Text.fold (Text.trim text) = "c xaxxat".toText := by decide
  have leftmost : Leftmost "cat".toText "c xaxxat".toText [0, 3, 7] := takenLeftmost (by decide)
  obtain ⟨_, settled⟩ := scoreLeftmost (by decide) scattered
  rw [folded, inside] at settled
  obtain ⟨takes, value⟩ := settled [0, 3, 7] leftmost
  have joined : joins [0, 3, 7] = 0 := by decide
  have opened : [0, 3, 7].countP (StartsWord "c xaxxat".toText) = 1 := by decide
  have lengths : "c xaxxat".toText.length = 8 ∧ "cat".toText.length = 3 := by decide
  rw [joined, opened, lengths.1, lengths.2] at value
  norm_num at value
  exact ⟨scattered, leftmost, takes, mod_cast value⟩

end CollectionSearch.Closeness
