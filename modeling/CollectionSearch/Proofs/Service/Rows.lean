import CollectionSearch.Proofs.Match.Comparison
import CollectionSearch.Proofs.Search.Criteria
import CollectionSearch.Proofs.Service.Searchable

/-! Rows are built from entities and not from the items that were searched. Over an import the two agree, so that a row
shows what the search asked for, and a search that succeeds is answered. -/
namespace CollectionSearch
variable {intake : Intake}

namespace Row

structure Mirrors (row : Row) (entry : Ranked) (item : Item) : Prop where
  kind : row.kind = entry.kind
  id : row.id = item.id
  title : row.title = item.title
  score : row.score = entry.score
  snippet : ∃ text, row.snippet = snippetOf text
  status : row.status = item.status
  rating : row.rating.map Number.real = item.rating
  year : row.year = item.year
  creator : row.creator = item.creator

def Shows (entry : Ranked) (row : Row) : Prop := ∃ item, entry.entity.toItem = .ok item ∧ row.Mirrors entry item

theorem ratingOfShown {rating : Option Number} (real : Import.Real rating) {shown : Option Binary64}
    (made : ratingOf intake rating = .ok shown) : shown.map Number.real = rating := by
  cases rating with
  | none =>
    cases made
    rfl
  | some rating =>
    cases rating with
    | real x =>
      cases made
      rfl
    | whole n => exact absurd rfl (real n)

theorem ofRankedShows {entry : Ranked} (imported : entry.entity.Imported) {row : Row}
    (made : ofRanked intake entry = .ok row) : Shows entry row := by
  obtain ⟨kind, entity, score⟩ := entry
  obtain ⟨item, projected, made⟩ := Outcome.bindOk.mp made
  refine ⟨item, projected, ?_⟩
  cases entity with
  | media record =>
    have source := Media.itemSource projected
    obtain ⟨displayed, rated, made⟩ := Outcome.bindOk.mp made
    obtain ⟨shown, cast, made⟩ := Outcome.bindOk.mp made
    obtain ⟨year, read, made⟩ := Outcome.bindOk.mp made
    cases made
    -- the row asks the record again for its rating and its year, and has to get what the item got
    have rating : shown.map Number.real = item.rating := by
      obtain ⟨_, same, real⟩ := Media.displayReal imported
      cases rated.symm.trans same
      rw [ratingOfShown real cast]
      exact Except.ok.inj (rated.symm.trans source.rating)
    have sameYear : year = item.year := Except.ok.inj (read.symm.trans source.year)
    exact ⟨rfl, source.id.symm, rfl, rfl, ⟨_, rfl⟩, source.status.symm, rating, sameYear, source.creator.symm⟩
  | note record =>
    cases projected
    cases made
    exact ⟨rfl, rfl, rfl, rfl, ⟨_, rfl⟩, rfl, rfl, rfl, rfl⟩
  | place record =>
    obtain ⟨shown, real, made⟩ := Outcome.bindOk.mp made
    cases projected
    cases made
    exact ⟨rfl, rfl, rfl, rfl, ⟨_, rfl⟩, rfl, ratingOfShown imported real, rfl, rfl⟩
  | unsupported value => exact imported.elim

theorem snippetOfLength {text snippet : Text} (made : snippetOf text = some snippet) :
    1 ≤ snippet.length ∧ snippet.length ≤ 200 := by
  unfold snippetOf at made
  split at made
  · cases made
  · rename_i some
    cases made
    have filled : text.length ≠ 0 := by simpa using some
    rw [List.length_take, snippetLength]
    omega

def Meets (row : Row) (f : Filter) : Prop :=
  match f.field with
  | .status => ∃ name, f = ⟨.status, .equal, .text name⟩ ∧ row.status = some name
  | .creator => ∃ user, f = ⟨.creator, .equal, .text user⟩ ∧ row.creator = some user
  | .year => ∃ year wanted : Int, row.year = some (.whole year) ∧ f.value = .number (.whole wanted) ∧
      f.comparator.Holds year wanted
  | .rating => ∃ rating wanted : Binary64, row.rating = some rating ∧ f.value = .number (.real wanted) ∧
      ∃ left right, (Number.real rating).rank? = some left ∧ (Number.real wanted).rank? = some right ∧
        f.comparator.Holds left right
  | _ => True

theorem meetsOfPasses {row : Row} {entry : Ranked} {item : Item} (mirrors : row.Mirrors entry item)
    (projected : entry.entity.toItem = .ok item) {f : Filter} (written : f.Written)
    (passes : f.passes item = .ok true) : row.Meets f := by
  cases written with
  | status name known =>
    have same : (item.status == some name) = true := Except.ok.inj passes
    exact ⟨name, rfl, mirrors.status.trans (beq_iff_eq.mp same)⟩
  | creator user known =>
    have same : (item.creator == some user) = true := Except.ok.inj passes
    exact ⟨user, rfl, mirrors.creator.trans (beq_iff_eq.mp same)⟩
  | year comparator known wanted =>
    have compared : Filter.compares ⟨.year, comparator, .number (.whole wanted)⟩ item.year = .ok true := passes
    obtain ⟨year, present, accepted⟩ := (Filter.comparesIff rfl).mp compared
    obtain ⟨n, rfl⟩ := Entity.toItemYear projected present
    exact ⟨n, wanted, mirrors.year.trans present, rfl, Number.acceptsWhole.mp accepted⟩
  | rating comparator known wanted finite =>
    have compared : Filter.compares ⟨.rating, comparator, .number (.real wanted)⟩ item.rating = .ok true := passes
    obtain ⟨rating, present, accepted⟩ := (Filter.comparesIff rfl).mp compared
    obtain ⟨shown, held, rfl⟩ := Option.map_eq_some_iff.mp (mirrors.rating.trans present)
    exact ⟨shown, wanted, held, rfl, Number.acceptsRank.mp accepted⟩
  | visited | archived | genre | unread => trivial

structure Agrees (row : Row) (parsed : Parsed) : Prop where
  score : 1 ≤ row.score ∧ row.score ≤ 100
  title : Text.isBlankOnly row.title = false
  snippet : ∀ text, row.snippet = some text → 1 ≤ text.length ∧ text.length ≤ 200
  kind : parsed.kinds ≠ [] → row.kind ∈ parsed.kinds
  filters : ∀ f ∈ parsed.filters, row.Meets f

theorem ofRankedAgrees {line : Text} {parsed : Parsed} (read : Parsed.parse line = .ok parsed) {entry : Ranked}
    (imported : entry.entity.Imported) (ranked : Ranking.ofEntity parsed entry.entity = .ok entry)
    (relevant : 0 < entry.score) {row : Row} (made : ofRanked intake entry = .ok row) : row.Agrees parsed := by
  obtain ⟨item, projected, mirrors⟩ := ofRankedShows imported made
  obtain ⟨_, kind, scored⟩ := (Ranking.ofEntityScored projected).mp ranked
  have evaluable := Parsed.parseEvaluable read
  obtain ⟨bound, admitted⟩ := Relevance.relevantAdmitted evaluable scored relevant
  have passes := Relevance.admittedPasses evaluable admitted
  constructor
  · rw [mirrors.score]
    exact ⟨relevant, bound⟩
  · rw [mirrors.title]
    exact Text.filledSays (Entity.toItemTitled projected)
  · obtain ⟨text, cut⟩ := mirrors.snippet
    exact fun snippet shown => snippetOfLength (cut.symm.trans shown)
  · intro some
    rw [mirrors.kind, kind]
    by_contra other
    exact admitted (.kind some other)
  · exact fun f member => meetsOfPasses mirrors projected (Parsed.parseWritten read f member) (passes f member)

theorem ofRankedRow (intake : Intake) {parsed : Parsed} {entry : Ranked} (imported : entry.entity.Imported)
    (ranked : Ranking.ofEntity parsed entry.entity = .ok entry) : ∃ row, ofRanked intake entry = .ok row := by
  obtain ⟨_, ⟨item, projected, _⟩, _⟩ := Ranking.ofEntityIff.mp ranked
  exact ofRankedDated intake imported ((Entity.toItemIff imported).mp ⟨item, projected⟩)

end Row

namespace Response

structure Agrees (response : Response) (cap : Nat) (parsed : Parsed) : Prop where
  bound : response.rows.length ≤ cap
  ordered : response.rows.Pairwise (fun a b => b.score ≤ a.score)
  each : ∀ row ∈ response.rows, row.Agrees parsed
  nothing : response.hasCriteria = false → response.rows = [] ∧ response.chips = []
  restricted : response.chips ≠ [] → response.hasCriteria = true

theorem ofEngineOk {engine : Engine} {line : Text} {response : Response} :
    ofEngine intake engine line = .ok response ↔ ∃ ranked parsed rows, engine.search line = .ok ranked ∧
      Parsed.parse line = .ok parsed ∧ ranked.mapM (Row.ofRanked intake) = .ok rows ∧
      response = ⟨line, parsed.hasCriteria, Chip.ofParsed parsed, rows⟩ := by
  constructor
  · intro ok
    obtain ⟨ranked, found, ok⟩ := Outcome.bindOk.mp ok
    obtain ⟨_, criteria, ok⟩ := Outcome.bindOk.mp ok
    obtain ⟨_, chips, ok⟩ := Outcome.bindOk.mp ok
    obtain ⟨rows, shown, ok⟩ := Outcome.bindOk.mp ok
    obtain ⟨parsed, read, rfl⟩ := Outcome.mapOk.mp criteria
    obtain ⟨_, again, rfl⟩ := Outcome.mapOk.mp chips
    cases read.symm.trans again
    cases ok
    exact ⟨ranked, parsed, rows, found, read, shown, rfl⟩
  · rintro ⟨ranked, parsed, rows, found, read, shown, rfl⟩
    have criteria : Engine.hasCriteria line = .ok _ := Outcome.mapOk.mpr ⟨parsed, read, rfl⟩
    have chips : Engine.chips line = .ok _ := Outcome.mapOk.mpr ⟨parsed, read, rfl⟩
    simp only [ofEngine, found, criteria, chips, shown, bind, Except.bind, pure, Except.pure]

theorem scoresShown {ranked : List Ranked} {rows : List Row} (shows : List.Forall₂ Row.Shows ranked rows) :
    ranked.map Ranked.score = rows.map Row.score := by
  induction shows with
  | nil => rfl
  | cons head tail ih =>
    obtain ⟨item, _, mirrors⟩ := head
    rw [List.map_cons, List.map_cons, mirrors.score, ih]

theorem importAnswered {host : Host} {directory : Text} {collections : Import.Collections}
    (loaded : Import.ofDirectory host directory = .ok collections) (intake : Intake) (cap : Nat) {line : Text}
    {ranked : List Ranked}
    (found : (⟨collections.snapshot, some cap⟩ : Engine).search line = .ok ranked) :
    ∃ parsed response, Parsed.parse line = .ok parsed ∧
      ofEngine intake ⟨collections.snapshot, some cap⟩ line = .ok response ∧
      List.Forall₂ Row.Shows ranked response.rows ∧ response.Agrees cap parsed := by
  obtain ⟨parsed, read, capped⟩ := Ranking.ofLineCapped found
  have imported : ∀ entry ∈ ranked, entry.entity.Imported := fun entry member =>
    Import.ofDirectoryImported loaded _ (capped.each entry member).1
  obtain ⟨rows, shown⟩ := Outcome.eachOkExists (fun entry member =>
    Row.ofRankedRow intake (imported entry member) (capped.each entry member).2.1)
  have answered := ofEngineOk.mpr ⟨ranked, parsed, rows, found, read, shown, rfl⟩
  have shows := Outcome.eachOkRelated shown (fun entry member _ => Row.ofRankedShows (imported entry member))
  refine ⟨parsed, _, read, answered, shows, ?_, ?_, ?_, ?_, ?_⟩
  · exact shows.length_eq ▸ capped.bound
  · have ordered : (ranked.map Ranked.score).Pairwise (fun a b => b ≤ a) := List.pairwise_map.mpr capped.ordered
    rw [scoresShown shows] at ordered
    exact List.pairwise_map.mp ordered
  · intro row member
    obtain ⟨entry, present, made⟩ := Outcome.eachOkMem shown member
    obtain ⟨_, scored, relevant⟩ := capped.each entry present
    exact Row.ofRankedAgrees read (imported entry present) scored relevant made
  · intro nothing
    have empty := capped.nothing nothing
    subst empty
    cases shown
    exact ⟨rfl, Chip.ofParsedNone nothing⟩
  · intro some
    by_contra nothing
    exact some (Chip.ofParsedNone (by simpa using nothing))

theorem importAnsweredOfBoth :
    let media := "\x7b\"id\":1,\"type\":\"tv\",\"title\":\"Zeta\",\"createdBy\":\"T\",\"ratings\":\x7b\"Z\":7,\"T\":8\x7d\x7d"
    let places := "\x7b\"id\":2,\"name\":\"Zeta bar\",\"rating\":10,\"createdBy\":\"T\"\x7d"
    let host := Host.standard (.directory [("snap".toText, .directory [(Import.mediaFile, .file media.toUTF8),
      (Import.placesFile, .file places.toUTF8)])])
    let intake := Intake.refusing (fun _ => [])
    let series : Media := {
      id := "1".toText, kind := "tv".toText, title := "Zeta".toText, creator := some "T".toText
      status := Vocabulary.queued, rating := none
      ratings := some [("Z".toText, some (.real (.ofDecimal false 7 0))),
        ("T".toText, some (.real (.ofDecimal false 8 0)))]
      overview := [], notes := [], releaseDate := none, genres := [], posterPath := none }
    let bar : Place := ⟨"2".toText, "Zeta bar".toText, Vocabulary.otherCategory, [], false,
      some (.real (.ofDecimal false 10 0)), some "T".toText⟩
    let line := "@tv @place by:T rating>=7.5 zeta".toText
    let ranked : List Ranked := [⟨"tv".toText, .media series, 100⟩, ⟨"place".toText, .place bar, 95⟩]
    ∃ collections, Import.ofDirectory host "snap".toText = .ok collections ∧
      (⟨collections.snapshot, some 2⟩ : Engine).search line = .ok ranked ∧
      ∃ parsed response, Parsed.parse line = .ok parsed ∧
        ofEngine intake ⟨collections.snapshot, some 2⟩ line = .ok response ∧
        List.Forall₂ Row.Shows ranked response.rows ∧ response.Agrees 2 parsed := by
  intro media places host intake series bar line ranked
  let parsed : Parsed := {
    raw := line, kinds := ["tv".toText, "place".toText]
    filters := [⟨.creator, .equal, .text "T".toText⟩, ⟨.rating, .atLeast, .number (.real (.ofDecimal false 75 (-1)))⟩]
    phrases := [], groups := [["zeta".toText]], excluded := [] }
  have read : Parsed.parse line = .ok parsed := Outcome.okOfToOption (by decide +kernel)
  have records : (Import.ofDirectory host "snap".toText).toOption.map (fun collections =>
      (collections.media.records, collections.notes.records, collections.places.records)) =
      some ([series], [], [bar]) := by decide +kernel
  obtain ⟨collections, loaded, held⟩ := Outcome.okOfShown records
  obtain ⟨serials, others⟩ := Prod.mk.inj held
  obtain ⟨notes, bars⟩ := Prod.mk.inj others
  have entities : collections.snapshot.entities = [.media series, .place bar] := by
    simp [Snapshot.entities, Import.Collections.snapshot, serials, notes, bars]
  have scored {entity : Entity} {kind : Text} {value : Nat} (shown : entity.toItem.toOption.map Item.kind = some kind)
      (found : (Relevance.ofEntity parsed entity).toOption = some value) :
      Ranking.ofEntity parsed entity = .ok ⟨kind, entity, value⟩ := by
    obtain ⟨item, projected, same⟩ := Outcome.okOfShown shown
    exact Ranking.ofEntityIff.mpr ⟨rfl, ⟨item, projected, same.symm⟩, Outcome.okOfToOption found⟩
  have each : [.media series, .place bar].mapM (Ranking.ofEntity parsed) = .ok ranked :=
    Outcome.eachOk.mpr (.cons (scored (by decide +kernel) (by decide +kernel))
      (.cons (scored (by decide +kernel) (by decide +kernel)) .nil))
  have full : Ranking.full parsed collections.snapshot.entities = .ok ranked :=
    Outcome.bindOk.mpr ⟨ranked, entities ▸ each, congrArg Except.ok (List.mergeSort_of_pairwise (by simp [ranked]))⟩
  have found := Ranking.ofLineCut read (by decide) collections.snapshot full (some 2)
  exact ⟨collections, loaded, found, importAnswered loaded intake 2 found⟩

end Response
end CollectionSearch
