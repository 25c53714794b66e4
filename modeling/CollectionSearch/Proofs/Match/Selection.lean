import CollectionSearch.Match.Closeness
import CollectionSearch.Proofs.Sequence

/-! Selection by closeness. There is one ranking of all items, best first and equals as they came, and each threshold
takes what is close enough from it, so a higher one takes the front of what a lower one does. -/
namespace CollectionSearch.Closeness
variable {α : Type}

structure Ranks (text : α → Option Text) (term : Text) (items : List α) (ranking : List ((α × Nat) × Nat)) : Prop where
  each : ∀ item score position, ((item, score), position) ∈ ranking ↔
    items[position]? = some item ∧ score = Closeness.score term ((text item).getD [])
  once : (ranking.map Prod.snd).Nodup
  ordered : ranking.Pairwise (Sequence.Ahead Prod.snd)

def scored (text : α → Option Text) (term : Text) (items : List α) : List (α × Nat) :=
  items.map (fun item => (item, score term ((text item).getD [])))

def closer (a b : α × Nat) : Bool := b.2 ≤ a.2

theorem closerTrans (a b c : α × Nat) (first : closer a b = true) (second : closer b c = true) :
    closer a c = true := by
  simp only [closer, decide_eq_true_eq] at first second ⊢
  omega

theorem closerTotal (a b : α × Nat) : (closer a b || closer b a) = true := by
  simp only [closer, Bool.or_eq_true, decide_eq_true_eq]
  omega

theorem selectSorted (text : α → Option Text) {term : Text} (some : Text.isBlankOnly term = false) (threshold : Int)
    (items : List α) :
    select (fun item => (text item).getD []) term threshold items =
      ((scored text term items).mergeSort closer).filter (threshold ≤ ·.2) := by
  unfold select
  rw [some, if_neg (by simp)]
  exact Sequence.sortFilter closer closerTrans closerTotal _ _

theorem scoredRanks (text : α → Option Text) (term : Text) (items : List α) :
    Ranks text term items (Sequence.standings closer (fun _ => true) (scored text term items)) where
  each item value position := by
    simp only [Sequence.memStandings, scored, List.getElem?_map, Option.map_eq_some_iff, Prod.mk.injEq, and_true]
    constructor
    · rintro ⟨other, source, rfl, rfl⟩
      exact ⟨source, rfl⟩
    · rintro ⟨source, rfl⟩
      exact ⟨item, source, rfl, rfl⟩
  once := Sequence.standingsOnce _ _ _
  ordered := Sequence.standingsOrdered Prod.snd _ _

theorem selectPrefix (text : α → Option Text) {term : Text} (some : Text.isBlankOnly term = false) {low high : Int}
    (least : low ≤ high) (items : List α) :
    select (fun item => (text item).getD []) term high items <+:
      select (fun item => (text item).getD []) term low items := by
  rw [selectSorted text some, selectSorted text some]
  have sorted := (List.pairwise_mergeSort closerTrans closerTotal (scored text term items)).filter (low ≤ ·.2)
  have both : (fun entry : α × Nat => decide (high ≤ entry.2)) =
      fun entry => decide (high ≤ entry.2) && decide (low ≤ entry.2) := by
    funext entry
    rw [Bool.eq_iff_iff]
    simp only [Bool.and_eq_true, decide_eq_true_eq]
    omega
  rw [both, ← List.filter_filter]
  refine Sequence.filterFront (sorted.imp ?_)
  intro a b order enough
  simp only [closer, decide_eq_true_eq] at order enough ⊢
  omega

theorem selectCut (text : α → Option Text) (term : Text) (items : List α) :
    let selected := fun threshold : Int => select (fun item => (text item).getD []) term threshold items
    (Text.isBlankOnly term = true → ∀ threshold, selected threshold = items.map (·, 100)) ∧
    (Text.isBlankOnly term = false →
      (∃ ranking, Ranks text term items ranking ∧
        ∀ threshold, selected threshold = (ranking.filter (threshold ≤ ·.1.2)).map Prod.fst) ∧
      ∀ low high, low ≤ high → selected high <+: selected low) := by
  intro selected
  refine ⟨fun blank threshold => ?_, fun some => ⟨⟨_, scoredRanks text term items, fun threshold => ?_⟩, ?_⟩⟩
  · simp [selected, select, blank, exact]
  · have values := Sequence.standingsValues closer (fun _ => true) (scored text term items)
    rw [List.filter_eq_self.mpr (fun _ _ => rfl)] at values
    show select _ term threshold items = _
    rw [selectSorted text some, ← values, List.filter_map]
    rfl
  · exact fun low high least => selectPrefix text some least items

theorem selectCutOfCats :
    let items := [some "c-a-t".toText, none, some "Cat".toText, some "cat".toText, some "Cat".toText]
    let selected := fun (term : Text) (threshold : Int) => select (·.getD []) term threshold items
    selected " ".toText 101 = items.map (·, 100) ∧
    selected "cat".toText 85 =
      [(some "Cat".toText, 100), (some "cat".toText, 100), (some "Cat".toText, 100)] ∧
    (∃ ranking, Ranks id "cat".toText items ranking ∧
      ∀ threshold, selected "cat".toText threshold = (ranking.filter (threshold ≤ ·.1.2)).map Prod.fst) ∧
    selected "cat".toText 85 <+: selected "cat".toText 0 := by
  intro items selected
  obtain ⟨ranked, front⟩ := (selectCut id "cat".toText items).2 (by decide)
  have close : selected "cat".toText 85 =
      [(some "Cat".toText, 100), (some "cat".toText, 100), (some "Cat".toText, 100)] := by
    have kept : (scored id "cat".toText items).filter ((85 : Int) ≤ ·.2) =
        [(some "Cat".toText, 100), (some "cat".toText, 100), (some "Cat".toText, 100)] := by decide +kernel
    show ((scored id "cat".toText items).filter ((85 : Int) ≤ ·.2)).mergeSort closer = _
    rw [kept]
    exact List.mergeSort_of_pairwise (by simp [closer])
  exact ⟨(selectCut id " ".toText items).1 (by decide) 101, close, ranked, front 0 85 (by decide)⟩

end CollectionSearch.Closeness
