import CollectionSearch.Proofs.Match.Evaluable
import CollectionSearch.Proofs.Match.Tiers

/-! Relevance said without its order of tests: what blocks an item, and otherwise the least over the groups
of the greatest closeness over terms and fields. The tests and their early ends give just this number. -/
namespace CollectionSearch
namespace Item

def IsField (item : Item) (text : Text) : Prop :=
  text ≠ [] ∧ (text = item.title ∨ text = item.content ∨
    ((item.genres ≠ [] ∨ item.tags ≠ []) ∧ text = Text.joinWith [.char ' '] (item.genres ++ item.tags)))

theorem memFields {item : Item} {text : Text} : text ∈ item.fields ↔ item.IsField text := by
  have bare (none : item.genres ++ item.tags = []) :
      Text.joinWith [.char ' '] (item.genres ++ item.tags) = [] := by rw [none]; rfl
  simp only [fields, IsField, List.mem_filter, List.mem_cons, List.not_mem_nil, or_false, Bool.not_eq_eq_eq_not,
    Bool.not_true, List.isEmpty_eq_false_iff]
  constructor
  · rintro ⟨rfl | rfl | rfl, some⟩
    · exact ⟨some, Or.inl rfl⟩
    · exact ⟨some, Or.inr (Or.inl rfl)⟩
    · refine ⟨some, Or.inr (Or.inr ⟨?_, rfl⟩)⟩
      by_contra none
      obtain ⟨noGenres, noTags⟩ := not_or.mp none
      exact some (bare (by rw [not_not.mp noGenres, not_not.mp noTags]; rfl))
  · rintro ⟨some, same | same | ⟨_, same⟩⟩
    · exact ⟨Or.inl same, some⟩
    · exact ⟨Or.inr (Or.inl same), some⟩
    · exact ⟨Or.inr (Or.inr same), some⟩

theorem mentionsIff (item : Item) (term : Text) :
    item.mentions term = true ↔ ∃ text, item.IsField text ∧ Text.fold term <:+: Text.fold text := by
  simp only [mentions, List.any_eq_true, memFields, Text.occursInIff]

theorem containsIff (item : Item) (phrase : Text) :
    item.contains phrase = true ↔
      Text.fold phrase <:+: Text.fold item.title ∨ Text.fold phrase <:+: Text.fold item.content := by
  simp only [contains, Bool.or_eq_true, Text.occursInIff]

end Item

namespace Closeness

theorem bestGreatest (term : Text) {texts : List Text} (full : ∀ text ∈ texts, text ≠ []) :
    IsGreatest {value | value = 0 ∨ ∃ text ∈ texts, value = score term text} (best term texts) := by
  have all : texts.filter (!·.isEmpty) = texts := by simpa using full
  have most := Sequence.foldlMaxGreatest 0 (texts.map (score term))
  simpa only [best, all, List.mem_map, eq_comm (b := score _ _)] using most

end Closeness

namespace Relevance

inductive Blocked (parsed : Parsed) (item : Item) : Prop where
  | kind (some : parsed.kinds ≠ []) (other : item.kind ∉ parsed.kinds)
  | filter (f : Filter) (member : f ∈ parsed.filters) (fails : f.passes item = .ok false)
  | excluded (term : Text) (member : term ∈ parsed.excluded) (text : Text) (field : item.IsField text)
      (inside : Text.fold term <:+: Text.fold text)
  | phrase (phrase : Text) (member : phrase ∈ parsed.phrases)
      (title : ¬ Text.fold phrase <:+: Text.fold item.title)
      (content : ¬ Text.fold phrase <:+: Text.fold item.content)

inductive IsBest (item : Item) (alternatives : List Text) : Nat → Prop where
  | bare (none : ∀ text, ¬ item.IsField text) : IsBest item alternatives 0
  | greatest (value : Nat) (some : ∃ text, item.IsField text)
      (most : IsGreatest {value | ∃ term ∈ alternatives, ∃ text, item.IsField text ∧
        value = Closeness.score term text} value) : IsBest item alternatives value

inductive Declared (parsed : Parsed) (item : Item) : Nat → Prop where
  | blocked (blocked : Blocked parsed item) : Declared parsed item 0
  | free (admitted : ¬ Blocked parsed item) (none : parsed.groups = []) : Declared parsed item 100
  | weakest (value : Nat) (admitted : ¬ Blocked parsed item) (some : parsed.groups ≠ [])
      (least : IsLeast {best | ∃ group ∈ parsed.groups, IsBest item group best} value) :
      Declared parsed item value

theorem isBestUnique {item : Item} {alternatives : List Text} {a b : Nat} (left : IsBest item alternatives a)
    (right : IsBest item alternatives b) : a = b := by
  cases left with
  | bare none =>
    cases right with
    | bare => rfl
    | greatest _ some => exact absurd some (not_exists.mpr none)
  | greatest _ some most =>
    cases right with
    | bare none => exact absurd some (not_exists.mpr none)
    | greatest _ _ other => exact most.unique other

theorem groupGreatest (alternatives : List Text) {texts : List Text} (full : ∀ text ∈ texts, text ≠ []) :
    IsGreatest {value | value = 0 ∨ ∃ term ∈ alternatives, ∃ text ∈ texts, value = Closeness.score term text}
      ((alternatives.map (Closeness.best · texts)).foldl max 0) := by
  obtain ⟨member, most⟩ := Sequence.foldlMaxGreatest 0 (alternatives.map (Closeness.best · texts))
  refine ⟨?_, ?_⟩
  · rcases member with zero | inside
    · exact Or.inl zero
    · obtain ⟨term, present, value⟩ := List.mem_map.mp inside
      rw [← value]
      rcases (Closeness.bestGreatest term full).1 with zero | ⟨text, field, closest⟩
      · exact Or.inl zero
      · exact Or.inr ⟨term, present, text, field, closest⟩
  · rintro value (rfl | ⟨term, present, text, field, rfl⟩)
    · exact Nat.zero_le _
    · have within := (Closeness.bestGreatest term full).2 (Or.inr ⟨text, field, rfl⟩)
      exact le_trans within (most (Or.inr (List.mem_map.mpr ⟨term, present, rfl⟩)))

theorem groupBest (item : Item) {alternatives : List Text} (some : alternatives ≠ []) :
    ∃ value, group item.fields alternatives = .ok value ∧ IsBest item alternatives value ∧ value ≤ 100 := by
  obtain ⟨first, rest, shape⟩ := List.exists_cons_of_ne_nil some
  have full : ∀ text ∈ item.fields, text ≠ [] := fun text field => (Item.memFields.mp field).1
  obtain ⟨member, most⟩ := groupGreatest alternatives full
  refine ⟨(alternatives.map (Closeness.best · item.fields)).foldl max 0, ?_, ?_, ?_⟩
  · simp [group, some]
  · by_cases fields : ∃ text, item.IsField text
    · refine .greatest _ fields ⟨?_, ?_⟩
      · rcases member with zero | ⟨term, present, text, field, closest⟩
        -- no closeness is above zero, so that of the first term to any field is the greatest
        · obtain ⟨text, field⟩ := fields
          have present : first ∈ alternatives := shape ▸ List.mem_cons_self
          have within := most (Or.inr ⟨first, present, text, Item.memFields.mpr field, rfl⟩)
          exact ⟨first, present, text, field, by omega⟩
        · exact ⟨term, present, text, Item.memFields.mp field, closest⟩
      · rintro value ⟨term, present, text, field, same⟩
        exact most (Or.inr ⟨term, present, text, Item.memFields.mpr field, same⟩)
    · rcases member with zero | ⟨term, present, text, field, closest⟩
      · rw [zero]
        exact .bare (not_exists.mp fields)
      · exact absurd ⟨text, Item.memFields.mp field⟩ fields
  · rcases member with zero | ⟨term, present, text, field, closest⟩
    · exact le_of_eq_of_le zero (Nat.zero_le _)
    · exact le_of_eq_of_le closest (Closeness.scoreBound term text)

/- The bound is the least so far. Once it is zero no later group can lower it, so the rest may be left. -/
theorem weakestLeast (item : Item) {groups : List (List Text)} (full : ∀ group ∈ groups, group ≠ [])
    (bound : Nat) :
    ∃ value, weakest item.fields bound groups = .ok value ∧
      IsLeast {best | best = bound ∨ ∃ group ∈ groups, IsBest item group best} value := by
  induction groups generalizing bound with
  | nil => exact ⟨bound, rfl, by simp [IsLeast, lowerBounds]⟩
  | cons alternatives rest ih =>
    obtain ⟨best, found, isBest, _⟩ := groupBest item (full alternatives List.mem_cons_self)
    by_cases zero : best = 0
    · subst zero
      refine ⟨0, ?_, Or.inr ⟨alternatives, List.mem_cons_self, isBest⟩, fun value _ => Nat.zero_le value⟩
      simp [weakest, found, bind, Except.bind, pure, Except.pure]
    · obtain ⟨value, settled, member, least⟩ :=
        ih (fun group member => full group (List.mem_cons_of_mem _ member)) (min bound best)
      have below : value ≤ min bound best := least (Or.inl rfl)
      refine ⟨value, ?_, ?_, ?_⟩
      · simpa [weakest, found, zero, bind, Except.bind] using settled
      · rcases member with same | ⟨group, later, isBestLater⟩
        · rcases Nat.le_total bound best with less | more
          · exact Or.inl (same.trans (Nat.min_eq_left less))
          · have value : value = best := same.trans (Nat.min_eq_right more)
            exact Or.inr ⟨alternatives, List.mem_cons_self, value ▸ isBest⟩
        · exact Or.inr ⟨group, List.mem_cons_of_mem _ later, isBestLater⟩
      · rintro other (rfl | ⟨group, present, isBestOther⟩)
        · exact le_trans below (Nat.min_le_left _ _)
        · rcases List.mem_cons.mp present with rfl | later
          · rw [isBestUnique isBestOther isBest]
            exact le_trans below (Nat.min_le_right _ _)
          · exact least (Or.inr ⟨group, later, isBestOther⟩)

theorem scoreBlocked {parsed : Parsed} {item : Item} (evaluable : parsed.Evaluable)
    (blocked : Blocked parsed item) : score parsed item = .ok 0 := by
  unfold score
  rcases parsed.admitsDecided evaluable item with ⟨admitted, kind, each⟩ | ⟨refused, _⟩
  · simp only [admitted, bind, Except.bind]
    cases blocked with
    | kind some other => exact absurd kind (not_or.mpr ⟨some, other⟩)
    | filter f member fails => exact absurd (fails.symm.trans (each f member)) (by simp)
    | excluded term member text field inside =>
      have excludes : parsed.excluded.any item.mentions = true :=
        List.any_eq_true.mpr ⟨term, member, (item.mentionsIff term).mpr ⟨text, field, inside⟩⟩
      simp [excludes, pure, Except.pure]
    | phrase phrase member title content =>
      have lacks : parsed.phrases.all item.contains = false := by
        have absent := mt (item.containsIff phrase).mp (not_or.mpr ⟨title, content⟩)
        exact List.all_eq_false.mpr ⟨phrase, member, absent⟩
      simp [lacks, pure, Except.pure]
  · simp [refused, bind, Except.bind, pure, Except.pure]

theorem scoreAdmitted {parsed : Parsed} {item : Item} (evaluable : parsed.Evaluable)
    (admitted : ¬ Blocked parsed item) :
    score parsed item = weakest item.fields Closeness.exact parsed.groups := by
  have keeps : parsed.excluded.any item.mentions = false := by
    rw [List.any_eq_false]
    intro term member mentions
    obtain ⟨text, field, inside⟩ := (item.mentionsIff term).mp mentions
    exact admitted (.excluded term member text field inside)
  have holds : parsed.phrases.all item.contains = true := by
    rw [List.all_eq_true]
    intro phrase member
    by_contra absent
    obtain ⟨title, content⟩ := not_or.mp (mt (item.containsIff phrase).mpr absent)
    exact admitted (.phrase phrase member title content)
  unfold score
  rcases parsed.admitsDecided evaluable item with ⟨passed, _, _⟩ | ⟨_, kind | ⟨f, member, fails⟩⟩
  · simp [passed, keeps, holds, bind, Except.bind]
  · exact absurd (.kind kind.1 kind.2) admitted
  · exact absurd (.filter f member fails) admitted

theorem declaredUnique {parsed : Parsed} {item : Item} {a b : Nat} (left : Declared parsed item a)
    (right : Declared parsed item b) : a = b := by
  cases left with
  | blocked blocked =>
    cases right with
    | blocked => rfl
    | free admitted | weakest _ admitted => exact absurd blocked admitted
  | free admitted none =>
    cases right with
    | blocked blocked => exact absurd blocked admitted
    | free => rfl
    | weakest _ _ some => exact absurd none some
  | weakest _ admitted some least =>
    cases right with
    | blocked blocked => exact absurd blocked admitted
    | free _ none => exact absurd none some
    | weakest _ _ _ other => exact least.unique other

theorem scoreDecided {parsed : Parsed} (evaluable : parsed.Evaluable) (item : Item) :
    ∃ value, score parsed item = .ok value ∧ value ≤ 100 ∧ Declared parsed item value := by
  by_cases blocked : Blocked parsed item
  · exact ⟨0, scoreBlocked evaluable blocked, Nat.zero_le _, .blocked blocked⟩
  obtain ⟨value, settled, member, least⟩ := weakestLeast item evaluable.groups Closeness.exact
  have bound : value ≤ 100 := least (Or.inl rfl)
  refine ⟨value, (scoreAdmitted evaluable blocked).trans settled, bound, ?_⟩
  by_cases none : parsed.groups = []
  · have all : value = 100 := by simpa [none, Closeness.exact] using member
    exact all ▸ .free blocked none
  · refine .weakest value blocked none ⟨?_, fun best isBest => least (Or.inr isBest)⟩
    rcases member with all | isBest
    -- the bound is above no group, so if it is the least a group has it as well
    · obtain ⟨alternatives, rest, shape⟩ := List.exists_cons_of_ne_nil none
      have first : alternatives ∈ parsed.groups := shape ▸ List.mem_cons_self
      obtain ⟨best, _, isBest, below⟩ := groupBest item (evaluable.groups alternatives first)
      have above : value ≤ best := least (Or.inr ⟨alternatives, first, isBest⟩)
      have same : value = best := by
        have top : value = 100 := all
        omega
      exact ⟨alternatives, first, same ▸ isBest⟩
    · exact isBest

theorem relevantAdmitted {parsed : Parsed} (evaluable : parsed.Evaluable) {item : Item} {value : Nat}
    (scored : score parsed item = .ok value) (relevant : 0 < value) : value ≤ 100 ∧ ¬ Blocked parsed item := by
  obtain ⟨same, decided, bound, declared⟩ := scoreDecided evaluable item
  cases scored.symm.trans decided
  refine ⟨bound, ?_⟩
  cases declared with
  | blocked => contradiction
  | free admitted | weakest _ admitted => exact admitted

theorem admittedPasses {parsed : Parsed} (evaluable : parsed.Evaluable) {item : Item}
    (admitted : ¬ Blocked parsed item) : ∀ f ∈ parsed.filters, f.passes item = .ok true := by
  intro f member
  obtain ⟨passed, tried⟩ := Filter.passesDecided (evaluable.filters f member) item
  cases passed with
  | true => exact tried
  | false => exact absurd (.filter f member tried) admitted

theorem scoreDeclared {parsed : Parsed} (evaluable : parsed.Evaluable) (item : Item) :
    (∃ value, score parsed item = .ok value ∧ value ≤ 100) ∧
    ∀ value, score parsed item = .ok value ↔ Declared parsed item value := by
  obtain ⟨settled, decided, bound, declared⟩ := scoreDecided evaluable item
  refine ⟨⟨settled, decided, bound⟩, fun value => ⟨?_, ?_⟩⟩
  · intro ok
    exact Except.ok.inj (decided.symm.trans ok) ▸ declared
  · intro other
    exact declaredUnique declared other ▸ decided

theorem scoreDeclaredOfHades :
    let parsed : Parsed := {
      raw := [], kinds := ["game".toText], filters := [⟨.rating, .above, .number (.whole 4)⟩]
      phrases := ["way out".toText], groups := [["zelda".toText, "hades".toText], ["roguelike".toText]]
      excluded := ["spoiler".toText] }
    let item : Item := {
      id := [], kind := "game".toText, title := "Hades".toText, content := "Way out of hell".toText, status := none
      rating := some (.whole 5), year := none, creator := none, genres := ["Indie".toText, "Roguelike".toText]
      tags := [], archived := none, read := none, visited := none }
    parsed.Evaluable ∧ score parsed item = .ok 85 ∧ Declared parsed item 85 := by
  intro parsed item
  have evaluable : parsed.Evaluable := by
    refine ⟨by decide, fun f member => ?_⟩
    rw [List.mem_singleton.mp member]
    exact ⟨fun _ => ⟨fun _ => nofun, _, rfl⟩, nofun⟩
  have value : score parsed item = .ok 85 := Outcome.okOfToOption (by decide +kernel)
  exact ⟨evaluable, value, ((scoreDeclared evaluable item).2 85).mp value⟩

end Relevance
end CollectionSearch
