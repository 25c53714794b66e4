import Mathlib.Order.Bounds.Basic

/-! Lists: what a lookup finds, a run that ends before more is added, the last member, the greatest of some
numbers, the order in which a stable sort leaves equals, and that of a list with members left out. Positions tell apart
members that occur more than once. -/
namespace CollectionSearch.Sequence
variable {α β : Type}

theorem lookupMem [BEq α] [LawfulBEq α] {key : α} {value : β} {table : List (α × β)}
    (found : table.lookup key = some value) : (key, value) ∈ table := by
  obtain ⟨before, after, split, _⟩ := List.lookup_eq_some_iff.mp found
  rw [split]
  exact List.mem_append_right _ List.mem_cons_self

theorem lookupOnce [BEq α] [LawfulBEq α] {entry : α × β} {table : List (α × β)} (once : (table.map Prod.fst).Nodup)
    (member : entry ∈ table) : table.lookup entry.1 = some entry.2 := by
  induction table with
  | nil => contradiction
  | cons head rest ih =>
    obtain ⟨first, behind⟩ := List.nodup_cons.mp once
    rcases List.mem_cons.mp member with rfl | later
    · exact List.lookup_cons_self
    · have different : (entry.1 == head.1) = false :=
        beq_eq_false_iff_ne.mpr (fun same => first (same ▸ List.mem_map_of_mem later))
      rw [List.lookup_cons, different]
      exact ih behind later

theorem lookupWithout [BEq α] [LawfulBEq α] {key other : α} (different : key ≠ other) (table : List (α × β)) :
    (table.filter (·.1 != other)).lookup key = table.lookup key := by
  induction table with
  | nil => rfl
  | cons head rest ih =>
    by_cases same : head.1 = other
    · have passed : (key == head.1) = false := beq_eq_false_iff_ne.mpr (same ▸ different)
      rw [List.filter_cons_of_neg (by simp [same]), ih, List.lookup_cons, passed]
    · rw [List.filter_cons_of_pos (by simp [same]), List.lookup_cons, List.lookup_cons, ih]

theorem takeWhileStopped {p : α → Bool} {stop : α} (fails : p stop = false) (front rest : List α) :
    (front ++ stop :: rest).takeWhile p = front.takeWhile p := by
  induction front with
  | nil => simp [fails]
  | cons head tail ih => by_cases holds : p head <;> simp [holds, ih]

theorem dropWhileStopped {p : α → Bool} {stop : α} (fails : p stop = false) (front rest : List α) :
    (front ++ stop :: rest).dropWhile p = front.dropWhile p ++ stop :: rest := by
  induction front with
  | nil => simp [fails]
  | cons head tail ih => by_cases holds : p head <;> simp [holds, ih]

theorem memDropWhile {p : α → Bool} {values : List α} {x : α} (member : x ∈ values) :
    p x = true ∨ x ∈ values.dropWhile p := by
  induction values with
  | nil => contradiction
  | cons head tail ih =>
    cases holds : p head with
    | false => exact .inr (by simpa [holds] using member)
    | true =>
      rcases List.mem_cons.mp member with rfl | later
      · exact .inl holds
      · simpa [holds] using ih later

theorem lastCons {first last : α} {rest : List α} (found : rest.getLast? = some last) :
    (first :: rest).getLast? = some last := by
  rw [List.getLast?_cons, found]
  rfl

theorem lastBehind {first last : α} {rest : List α} (free : (first :: rest).getLast? ≠ some last) :
    rest.getLast? ≠ some last := mt lastCons free

theorem lastOfCons {first last : α} {rest : List α} (found : (first :: rest).getLast? = some last)
    (different : first ≠ last) : rest.getLast? = some last := by
  cases rest with
  | nil => exact absurd (Option.some.inj found) different
  | cons next rest => exact found

theorem foldlMaxGreatest (first : Nat) (values : List Nat) :
    IsGreatest {value | value = first ∨ value ∈ values} (values.foldl max first) := by
  induction values generalizing first with
  | nil => simp [IsGreatest, upperBounds]
  | cons head tail ih =>
    obtain ⟨member, most⟩ := ih (max first head)
    have atLeast : max first head ≤ tail.foldl max (max first head) := most (Or.inl rfl)
    refine ⟨?_, ?_⟩
    · rcases member with same | later
      · rcases Nat.le_total first head with less | more
        · exact Or.inr (List.mem_cons.mpr (Or.inl (same.trans (Nat.max_eq_right less))))
        · exact Or.inl (same.trans (Nat.max_eq_left more))
      · exact Or.inr (List.mem_cons_of_mem _ later)
    · intro value present
      rcases present with rfl | present
      · exact le_trans (le_max_left _ _) atLeast
      · rcases List.mem_cons.mp present with rfl | later
        · exact le_trans (le_max_right _ _) atLeast
        · exact most (Or.inr later)

/- Sorting inserts the head of a list before all members that it may precede, so members that may precede
each other stay in their order. -/
theorem sortStable (le : α → α → Bool) {earlier : α → α → Prop}
    (trans : ∀ a b c, le a b = true → le b c = true → le a c = true)
    (total : ∀ a b, (le a b || le b a) = true) {values : List α} (ordered : values.Pairwise earlier) :
    (values.mergeSort le).Pairwise (fun a b => le a b = true ∧ (le b a = true → earlier a b)) := by
  induction values with
  | nil => simp
  | cons head tail ih =>
    obtain ⟨first, rest⟩ := List.pairwise_cons.mp ordered
    obtain ⟨before, after, sorted, tailSorted, ahead⟩ := List.mergeSort_cons trans total head tail
    have order := List.pairwise_mergeSort trans total (head :: tail)
    have stable := ih rest
    rw [tailSorted] at stable
    rw [sorted] at order ⊢
    obtain ⟨stableBefore, stableAfter, across⟩ := List.pairwise_append.mp stable
    obtain ⟨_, orderAfter, orderAcross⟩ := List.pairwise_append.mp order
    have fromTail : ∀ b ∈ after, earlier head b := by
      intro b member
      have inSorted : b ∈ tail.mergeSort le := tailSorted ▸ List.mem_append_right _ member
      exact first b (List.mem_mergeSort.mp inSorted)
    refine List.pairwise_append.mpr ⟨stableBefore, List.pairwise_cons.mpr ⟨?_, stableAfter⟩, ?_⟩
    · intro b member
      exact ⟨(List.pairwise_cons.mp orderAfter).1 b member, fun _ => fromTail b member⟩
    · intro a inFront b member
      rcases List.mem_cons.mp member with rfl | behind
      · have strict : le b a = false := by simpa using ahead a inFront
        exact ⟨orderAcross a inFront b List.mem_cons_self, fun tie => by simp [strict] at tie⟩
      · exact across a inFront b behind

theorem cutUnique {p : α → Bool} {front front' behind behind' : List α}
    (fails : ∀ x ∈ front, p x = false) (holds : ∀ x ∈ behind, p x = true)
    (fails' : ∀ x ∈ front', p x = false) (holds' : ∀ x ∈ behind', p x = true)
    (same : front ++ behind = front' ++ behind') : front = front' ∧ behind = behind' := by
  have all {l m : List α} (none : ∀ x ∈ l, p x = false) (every : ∀ x ∈ m, p x = true) :
      (l ++ m).filter p = m := by
    rw [List.filter_append, List.filter_eq_nil_iff.mpr (fun x member => by simp [none x member]),
      List.filter_eq_self.mpr every, List.nil_append]
  have right : behind = behind' := by rw [← all fails holds, same, all fails' holds']
  exact ⟨List.append_cancel_right (right ▸ same), right⟩

theorem sortFilter (le : α → α → Bool) (trans : ∀ a b c, le a b = true → le b c = true → le a c = true)
    (total : ∀ a b, (le a b || le b a) = true) (keep : α → Bool) (values : List α) :
    (values.filter keep).mergeSort le = (values.mergeSort le).filter keep := by
  induction values with
  | nil => simp
  | cons head tail ih =>
    obtain ⟨before, after, sorted, tailSorted, ahead⟩ := List.mergeSort_cons trans total head tail
    cases kept : keep head with
    | false => simp [kept, ih, sorted, tailSorted]
    | true =>
      obtain ⟨before', after', sorted', tailSorted', ahead'⟩ :=
        List.mergeSort_cons trans total head (tail.filter keep)
      have order := List.pairwise_mergeSort trans total (head :: tail)
      have order' := List.pairwise_mergeSort trans total (head :: tail.filter keep)
      rw [sorted] at order
      rw [sorted'] at order'
      have follows := (List.pairwise_cons.mp (List.pairwise_append.mp order).2.1).1
      have follows' := (List.pairwise_cons.mp (List.pairwise_append.mp order').2.1).1
      have same : before' ++ after' = before.filter keep ++ after.filter keep := by
        rw [← tailSorted', ih, tailSorted, List.filter_append]
      obtain ⟨front, behind⟩ := cutUnique (p := le head) (fun x member => by simpa using ahead' x member) follows'
        (fun x member => by simpa using ahead x ((List.mem_filter.mp member).1))
        (fun x member => follows x ((List.mem_filter.mp member).1)) same
      rw [List.filter_cons_of_pos kept, sorted', sorted, front, behind, List.filter_append,
        List.filter_cons_of_pos kept]

def standings (le : α → α → Bool) (keep : α → Bool) (values : List α) : List (α × Nat) :=
  (values.zipIdx.filter (keep ·.1)).mergeSort (fun a b => le a.1 b.1)

theorem standingsValues (le : α → α → Bool) (keep : α → Bool) (values : List α) :
    (standings le keep values).map Prod.fst = (values.filter keep).mergeSort le := by
  have kept : (values.zipIdx.filter (keep ·.1)).map Prod.fst = values.filter keep := by
    conv => rhs; rw [← List.zipIdx_map_fst 0 values, List.filter_map]
    rfl
  rw [← kept]
  exact List.map_mergeSort (fun _ _ _ _ => rfl)

theorem memStandings {le : α → α → Bool} {keep : α → Bool} {values : List α} {x : α} {position : Nat} :
    (x, position) ∈ standings le keep values ↔ values[position]? = some x ∧ keep x = true := by
  simp [standings, List.mem_zipIdx_iff_getElem?]

theorem keptIncreasing (keep : α → Bool) (values : List α) :
    (values.zipIdx.filter (keep ·.1)).Pairwise (fun a b => a.2 < b.2) := by
  refine List.Pairwise.filter _ (List.pairwise_map.mp ?_)
  rw [List.zipIdx_map_snd]
  exact List.pairwise_lt_range'

theorem standingsOnce (le : α → α → Bool) (keep : α → Bool) (values : List α) :
    ((standings le keep values).map Prod.snd).Nodup := by
  have same := (List.mergeSort_perm (values.zipIdx.filter (keep ·.1)) (fun a b => le a.1 b.1)).map Prod.snd
  have distinct := List.pairwise_map.mpr ((keptIncreasing keep values).imp Nat.ne_of_lt)
  exact same.nodup_iff.mpr distinct

def Ahead (score : α → Nat) (a b : α × Nat) : Prop :=
  score b.1 < score a.1 ∨ (score b.1 = score a.1 ∧ a.2 < b.2)

theorem standingsOrdered (score : α → Nat) (keep : α → Bool) (values : List α) :
    (standings (fun a b => score b ≤ score a) keep values).Pairwise (Ahead score) := by
  have stable := sortStable (fun a b : α × Nat => score b.1 ≤ score a.1)
    (by intro a b c; simp only [decide_eq_true_eq]; omega)
    (by intro a b; simp only [Bool.or_eq_true, decide_eq_true_eq]; omega) (keptIncreasing keep values)
  refine stable.imp ?_
  rintro a b ⟨order, tie⟩
  simp only [decide_eq_true_eq] at order tie
  rcases Nat.lt_or_eq_of_le order with less | same
  · exact Or.inl less
  · exact Or.inr ⟨same, tie (Nat.le_of_eq same.symm)⟩

theorem filterFront {keep : α → Bool} {values : List α}
    (closed : values.Pairwise (fun a b => keep b = true → keep a = true)) : values.filter keep <+: values := by
  induction values with
  | nil => exact List.prefix_refl _
  | cons head tail ih =>
    obtain ⟨first, rest⟩ := List.pairwise_cons.mp closed
    cases kept : keep head with
    | true =>
      rw [List.filter_cons_of_pos kept]
      exact List.cons_prefix_cons.mpr ⟨rfl, ih rest⟩
    | false =>
      have none : ∀ x ∈ tail, ¬ keep x = true := fun x member holds => by simp [first x member holds] at kept
      rw [List.filter_cons_of_neg (by simp [kept]), List.filter_eq_nil_iff.mpr none]
      exact List.nil_prefix

end CollectionSearch.Sequence
