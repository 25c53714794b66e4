import CollectionSearch.Match.Ranking
import CollectionSearch.Proofs.Match.Declared

/-! Rankings account for every entity: each one with some relevance stands in the full ranking once, best
first and equals in the order of the collections, and a cap keeps or drops entries at the end only.
Positions tell apart entities that occur more than once. -/
namespace CollectionSearch.Ranking

structure Entered (parsed : Parsed) (entities : List Entity) (entry : Ranked) (position : Nat) : Prop where
  source : entities[position]? = some entry.entity
  kind : ∃ item, entry.entity.toItem = .ok item ∧ entry.kind = item.kind
  score : Relevance.ofEntity parsed entry.entity = .ok entry.score
  relevant : 0 < entry.score

def Before (a b : Ranked × Nat) : Prop := b.1.score < a.1.score ∨ (b.1.score = a.1.score ∧ a.2 < b.2)

structure Placed (parsed : Parsed) (entities : List Entity) (ranked : List (Ranked × Nat)) : Prop where
  each : ∀ entry position, (entry, position) ∈ ranked ↔ Entered parsed entities entry position
  once : (ranked.map Prod.snd).Nodup
  ordered : ranked.Pairwise Before

theorem ofEntityIff {parsed : Parsed} {entity : Entity} {entry : Ranked} :
    ofEntity parsed entity = .ok entry ↔
      entry.entity = entity ∧ (∃ item, entity.toItem = .ok item ∧ entry.kind = item.kind) ∧
      Relevance.ofEntity parsed entity = .ok entry.score := by
  unfold ofEntity Relevance.ofEntity
  cases entity.toItem with
  | error fault => simp [bind, Except.bind]
  | ok item =>
    simp only [bind, Except.bind]
    cases Relevance.score parsed item with
    | error fault => simp
    | ok score =>
      simp only [pure, Except.pure, Except.ok.injEq]
      constructor
      · rintro rfl
        exact ⟨rfl, ⟨item, rfl, rfl⟩, rfl⟩
      · rintro ⟨rfl, ⟨_, rfl, kind⟩, rfl⟩
        exact kind ▸ rfl

theorem ofEntityScored {parsed : Parsed} {item : Item} {entity : Entity} {entry : Ranked}
    (projected : entity.toItem = .ok item) :
    ofEntity parsed entity = .ok entry ↔
      entry.entity = entity ∧ entry.kind = item.kind ∧ Relevance.score parsed item = .ok entry.score := by
  simp [ofEntityIff, Relevance.ofEntity, projected, bind, Except.bind]

theorem ofEntityDecided {parsed : Parsed} (evaluable : parsed.Evaluable) {entity : Entity}
    (projects : ∃ item, entity.toItem = .ok item) : ∃ entry, ofEntity parsed entity = .ok entry := by
  obtain ⟨item, projected⟩ := projects
  obtain ⟨score, scored, _⟩ := Relevance.scoreDecided evaluable item
  refine ⟨⟨item.kind, entity, score⟩, ofEntityIff.mpr ⟨rfl, ⟨item, projected, rfl⟩, ?_⟩⟩
  simpa [Relevance.ofEntity, projected, bind, Except.bind] using scored

def placed (entries : List Ranked) : List (Ranked × Nat) :=
  (entries.zipIdx.filter (0 < ·.1.score)).mergeSort (fun a b => b.1.score ≤ a.1.score)

theorem placedStandings (entries : List Ranked) :
    placed entries =
      Sequence.standings (fun a b : Ranked => decide (b.score ≤ a.score)) (fun a : Ranked => decide (0 < a.score))
        entries := rfl

theorem placedEntries (entries : List Ranked) :
    (placed entries).map Prod.fst =
      (entries.filter (0 < ·.score)).mergeSort (fun a b => b.score ≤ a.score) := by
  rw [placedStandings, Sequence.standingsValues]

theorem memPlaced {entries : List Ranked} {entry : Ranked} {position : Nat} :
    (entry, position) ∈ placed entries ↔ entries[position]? = some entry ∧ 0 < entry.score := by
  rw [placedStandings, Sequence.memStandings, decide_eq_true_iff]

theorem placedOnce (entries : List Ranked) : ((placed entries).map Prod.snd).Nodup := by
  rw [placedStandings]
  exact Sequence.standingsOnce _ _ entries

theorem placedOrdered (entries : List Ranked) : (placed entries).Pairwise Before := by
  rw [placedStandings]
  exact Sequence.standingsOrdered Ranked.score _ entries

theorem fullPlaced {parsed : Parsed} (evaluable : parsed.Evaluable) {entities : List Entity}
    (projects : ∀ entity ∈ entities, ∃ item, entity.toItem = .ok item) :
    ∃ ranked, Placed parsed entities ranked ∧ full parsed entities = .ok (ranked.map Prod.fst) := by
  obtain ⟨entries, read⟩ :=
    Outcome.eachOkExists (fun entity member => ofEntityDecided evaluable (projects entity member))
  refine ⟨placed entries, ⟨?_, placedOnce entries, placedOrdered entries⟩, ?_⟩
  · intro entry position
    rw [memPlaced, Outcome.eachOkAt read]
    constructor
    · rintro ⟨⟨entity, source, made⟩, relevant⟩
      obtain ⟨same, kind, score⟩ := ofEntityIff.mp made
      subst same
      exact ⟨source, kind, score, relevant⟩
    · rintro ⟨source, kind, score, relevant⟩
      exact ⟨⟨entry.entity, source, ofEntityIff.mpr ⟨rfl, kind, score⟩⟩, relevant⟩
  · rw [placedEntries]
    simp [full, read, bind, Except.bind, pure, Except.pure]

theorem fullEntry {parsed : Parsed} {entities : List Entity} {ranked : List Ranked}
    (ok : full parsed entities = .ok ranked) {entry : Ranked} (member : entry ∈ ranked) :
    entry.entity ∈ entities ∧ ofEntity parsed entry.entity = .ok entry ∧ 0 < entry.score := by
  obtain ⟨entries, each, same⟩ := Outcome.bindOk.mp ok
  cases same
  obtain ⟨kept, relevant⟩ := List.mem_filter.mp (List.mem_mergeSort.mp member)
  obtain ⟨entity, source, made⟩ := Outcome.eachOkMem each kept
  have own := (ofEntityIff.mp made).1
  exact ⟨own ▸ source, own ▸ made, by simpa using relevant⟩

theorem fullMem {parsed : Parsed} {entities : List Entity} {ranked : List Ranked}
    (ok : full parsed entities = .ok ranked) {entry : Ranked} (member : entry ∈ ranked) : entry.entity ∈ entities :=
  (fullEntry ok member).1

theorem fullProjects {parsed : Parsed} {entities : List Entity} {ranked : List Ranked}
    (ok : full parsed entities = .ok ranked) : ∀ entity ∈ entities, ∃ item, entity.toItem = .ok item := by
  intro entity member
  obtain ⟨entries, each, _⟩ := Outcome.bindOk.mp ok
  obtain ⟨entry, _, made⟩ := Outcome.eachOkOf each member
  obtain ⟨item, projected, _⟩ := (ofEntityIff.mp made).2.1
  exact ⟨item, projected⟩

theorem upToMem {α : Type} (cap : Option Int) {entries : List α} {entry : α} (member : entry ∈ upTo cap entries) :
    entry ∈ entries := by
  unfold upTo at member
  split at member
  · exact member
  · exact List.mem_of_mem_take member
  · exact List.mem_of_mem_take member

theorem ofLineCut {line : Text} {parsed : Parsed} (read : Parsed.parse line = .ok parsed)
    (asks : parsed.hasCriteria = true) (snapshot : Snapshot) {entries : List Ranked}
    (ranked : full parsed snapshot.entities = .ok entries) (cap : Option Int) :
    ofLine cap line snapshot = .ok (upTo cap entries) := by
  simp [ofLine, ofParsed, read, asks, ranked, bind, Except.bind]

theorem ofParsedScores {a b : Parsed} (criteria : a.hasCriteria = b.hasCriteria)
    (scores : ∀ item, Relevance.score a item = Relevance.score b item) (cap : Option Int) (snapshot : Snapshot) :
    ofParsed cap a snapshot = ofParsed cap b snapshot := by
  have each : ofEntity a = ofEntity b := funext (fun entity => by simp only [ofEntity, scores])
  simp only [ofParsed, full, criteria, each]

theorem ofLineFound {cap : Option Int} {line : Text} {snapshot : Snapshot} {ranked : List Ranked}
    (ok : ofLine cap line snapshot = .ok ranked) :
    ∃ parsed, Parsed.parse line = .ok parsed ∧ (parsed.hasCriteria = false ∧ ranked = [] ∨
      parsed.hasCriteria = true ∧ ∃ entries, full parsed snapshot.entities = .ok entries ∧ ranked = upTo cap entries) := by
  obtain ⟨parsed, read, made⟩ := Outcome.bindOk.mp ok
  refine ⟨parsed, read, ?_⟩
  unfold ofParsed at made
  split at made
  · rename_i asks
    obtain ⟨entries, each, rfl⟩ := Outcome.mapOk.mp made
    exact Or.inr ⟨asks, entries, each, rfl⟩
  · rename_i nothing
    cases made
    exact Or.inl ⟨by simpa using nothing, rfl⟩

theorem ofLineEntry {cap : Option Int} {line : Text} {snapshot : Snapshot} {ranked : List Ranked}
    (ok : ofLine cap line snapshot = .ok ranked) :
    ∃ parsed, Parsed.parse line = .ok parsed ∧
      ∀ entry ∈ ranked, ofEntity parsed entry.entity = .ok entry ∧ 0 < entry.score := by
  obtain ⟨parsed, read, ⟨_, rfl⟩ | ⟨_, entries, made, rfl⟩⟩ := ofLineFound ok
  · exact ⟨parsed, read, by simp⟩
  · exact ⟨parsed, read, fun entry member => (fullEntry made (upToMem cap member)).2⟩

theorem ofLineMem {cap : Option Int} {line : Text} {snapshot : Snapshot} {ranked : List Ranked}
    (ok : ofLine cap line snapshot = .ok ranked) {entry : Ranked} (member : entry ∈ ranked) :
    entry.entity ∈ snapshot.entities := by
  obtain ⟨_, _, ⟨_, rfl⟩ | ⟨_, entries, made, rfl⟩⟩ := ofLineFound ok
  · cases member
  · exact fullMem made (upToMem cap member)

theorem fullOrdered {parsed : Parsed} (evaluable : parsed.Evaluable) {entities : List Entity} {ranked : List Ranked}
    (ok : full parsed entities = .ok ranked) : ranked.Pairwise (fun a b => b.score ≤ a.score) := by
  obtain ⟨positions, exact, made⟩ := fullPlaced evaluable (fullProjects ok)
  cases ok.symm.trans made
  refine List.pairwise_map.mpr (exact.ordered.imp ?_)
  rintro a b (less | ⟨same, _⟩)
  · exact Nat.le_of_lt less
  · exact Nat.le_of_eq same

theorem upToFirst {α : Type} (n : Nat) (entries : List α) :
    upTo (some n) entries = entries.take (min n entries.length) := by
  show entries.take n = _
  rw [List.take_eq_take_iff]
  omega

theorem upToLast {α : Type} {n : Nat} (positive : 0 < n) (entries : List α) :
    upTo (some (-n)) entries = entries.take (entries.length - min n entries.length) := by
  cases n with
  | zero => contradiction
  | succ n =>
    show entries.take (entries.length - (n + 1)) = _
    rw [List.take_eq_take_iff]
    omega

theorem leftOutLater {ranked : List (Ranked × Nat)} (ordered : ranked.Pairwise Before) (n : Nat)
    {kept left : Ranked × Nat} (returned : kept ∈ ranked.take n) (member : left ∈ ranked)
    (out : left ∉ ranked.take n) : Before kept left := by
  rw [← List.take_append_drop n ranked] at ordered member
  have dropped := (List.mem_append.mp member).resolve_left out
  exact (List.pairwise_append.mp ordered).2.2 kept returned left dropped

structure Capped (cap : Nat) (parsed : Parsed) (snapshot : Snapshot) (ranked : List Ranked) : Prop where
  bound : ranked.length ≤ cap
  ordered : ranked.Pairwise (fun a b => b.score ≤ a.score)
  nothing : parsed.hasCriteria = false → ranked = []
  each : ∀ entry ∈ ranked, entry.entity ∈ snapshot.entities ∧ ofEntity parsed entry.entity = .ok entry ∧
    0 < entry.score

theorem ofLineCapped {cap : Nat} {line : Text} {snapshot : Snapshot} {ranked : List Ranked}
    (ok : ofLine (some cap) line snapshot = .ok ranked) :
    ∃ parsed, Parsed.parse line = .ok parsed ∧ Capped cap parsed snapshot ranked := by
  obtain ⟨parsed, read, ⟨_, rfl⟩ | ⟨asks, entries, made, rfl⟩⟩ := ofLineFound ok
  · exact ⟨parsed, read, Nat.zero_le _, .nil, fun _ => rfl, by simp⟩
  · refine ⟨parsed, read, ?_, ?_, fun nothing => by simp [nothing] at asks, ?_⟩
    · rw [upToFirst, List.length_take]
      omega
    · rw [upToFirst]
      exact (fullOrdered (Parsed.parseEvaluable read) made).sublist (List.take_sublist _ _)
    · exact fun entry member => fullEntry made (upToMem _ member)

theorem rankingExact {line : Text} {parsed : Parsed} (read : Parsed.parse line = .ok parsed)
    (media notes places : List Entity) :
    (parsed.hasCriteria = false → ∀ cap, ofLine cap line ⟨media, notes, places⟩ = .ok []) ∧
    (parsed.hasCriteria = true → (∀ entity ∈ media ++ notes ++ places, ∃ item, entity.toItem = .ok item) →
      ∃ ranked : List (Ranked × Nat), Placed parsed (media ++ notes ++ places) ranked ∧
        ofLine none line ⟨media, notes, places⟩ = .ok (ranked.map Prod.fst) ∧
        (∀ n : Nat, ofLine (some n) line ⟨media, notes, places⟩ =
          .ok ((ranked.map Prod.fst).take (min n ranked.length))) ∧
        (∀ n : Nat, 0 < n → ofLine (some (-n)) line ⟨media, notes, places⟩ =
          .ok ((ranked.map Prod.fst).take (ranked.length - min n ranked.length))) ∧
        ∀ n : Nat, ∀ kept ∈ ranked.take (min n ranked.length), ∀ left ∈ ranked,
          left ∉ ranked.take (min n ranked.length) →
          left.1.score ≤ kept.1.score ∧ (left.1.score = kept.1.score → kept.2 < left.2)) := by
  constructor
  · intro nothing cap
    simp [ofLine, ofParsed, read, nothing, bind, Except.bind]
  · intro asks projects
    obtain ⟨ranked, exact, made⟩ := fullPlaced (Parsed.parseEvaluable read) projects
    have cut := ofLineCut read asks ⟨media, notes, places⟩ made
    refine ⟨ranked, exact, cut none, fun n => ?_, fun n positive => ?_, ?_⟩
    · rw [cut, upToFirst, List.length_map]
    · rw [cut, upToLast positive, List.length_map]
    · intro n kept returned left member out
      rcases leftOutLater exact.ordered _ returned member out with less | ⟨same, later⟩
      · exact ⟨Nat.le_of_lt less, fun tie => absurd tie (Nat.ne_of_lt less)⟩
      · exact ⟨Nat.le_of_eq same, fun _ => later⟩

theorem rankingExactOfTies :
    let line := "zeta -old".toText
    let parsed : Parsed := {
      raw := line, kinds := [], filters := [], phrases := [], groups := [["zeta".toText]]
      excluded := ["old".toText] }
    let note (title : Text) : Entity := .note ⟨[], title, [], [], none, false, false⟩
    let notes := [note "Zeta one".toText, note "Zeta, old".toText]
    let places : List Entity := [.place ⟨[], "Zeta two".toText, [], [], false, none, none⟩]
    Parsed.parse line = .ok parsed ∧ parsed.hasCriteria = true ∧
    (∀ entity ∈ [] ++ notes ++ places, ∃ item, entity.toItem = .ok item) ∧
    ∃ ranked, Placed parsed ([] ++ notes ++ places) ranked ∧
      ofLine none line ⟨[], notes, places⟩ = .ok (ranked.map Prod.fst) ∧
      ofLine (some 1) line ⟨[], notes, places⟩ = .ok ((ranked.map Prod.fst).take (min 1 ranked.length)) ∧
      ofLine (some (-1)) line ⟨[], notes, places⟩ =
        .ok ((ranked.map Prod.fst).take (ranked.length - min 1 ranked.length)) := by
  intro line parsed note notes places
  have read : Parsed.parse line = .ok parsed := Outcome.okOfToOption (by decide +kernel)
  have projects : ∀ entity ∈ [] ++ notes ++ places, ∃ item, entity.toItem = .ok item := by
    intro entity member
    simp only [notes, places, List.nil_append, List.cons_append, List.mem_cons, List.not_mem_nil, or_false] at member
    rcases member with rfl | rfl | rfl <;> exact ⟨_, rfl⟩
  obtain ⟨ranked, placed, all, first, last, _⟩ := (rankingExact read [] notes places).2 (by decide) projects
  exact ⟨read, by decide, projects, ranked, placed, all, first 1, last 1 Nat.one_pos⟩

end CollectionSearch.Ranking
