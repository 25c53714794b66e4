import CollectionSearch.Proofs.Catalog
import CollectionSearch.Proofs.Import.Snapshot
import CollectionSearch.Proofs.Match.Ranking
import CollectionSearch.Service.Engine

/-! Fields that only one kind of record has. A filter on such a field leaves no entity of any other kind, so filters on
fields of two kinds leave nothing at all. -/
namespace CollectionSearch

inductive Family where
  | media
  | note
  | place

def Field.family? : Field → Option Family
  | .status | .year | .genre => some .media
  | .archived | .unread => some .note
  | .visited => some .place
  | .rating | .creator | .other _ => none

/- Two fields that no record has both of. Notes are not rated. -/
inductive Field.Apart : Field → Field → Prop where
  | families {a b : Field} {first second : Family} (left : a.family? = some first) (right : b.family? = some second)
      (other : first ≠ second) : Apart a b
  | rating {a : Field} (note : a.family? = some .note) : Apart a .rating

namespace Entity

def family? : Entity → Option Family
  | .media _ => some .media
  | .note _ => some .note
  | .place _ => some .place
  | .unsupported _ => none

def Named : Entity → Prop
  | .media record => record.kind ∈ Vocabulary.mediaKinds
  | _ => True

end Entity

namespace Item

structure Reveals (item : Item) (entity : Entity) : Prop where
  place : item.kind = Vocabulary.placeKind → entity.family? = some .place
  note : item.kind = Vocabulary.noteKind → entity.family? = some .note
  status : item.status ≠ none → entity.family? = some .media
  year : item.year ≠ none → entity.family? = some .media
  genres : item.genres ≠ [] → entity.family? = some .media
  rating : item.rating ≠ none → entity.family? ≠ some .note

end Item

theorem Entity.toItemReveals {entity : Entity} (named : entity.Named) {item : Item}
    (projected : entity.toItem = .ok item) : item.Reveals entity := by
  cases entity with
  | media record =>
    have kind : item.kind ∈ Vocabulary.mediaKinds := (Media.itemSource projected).kind ▸ named
    have notPlace : Vocabulary.placeKind ∉ Vocabulary.mediaKinds := by decide
    have notNote : Vocabulary.noteKind ∉ Vocabulary.mediaKinds := by decide
    exact ⟨fun same => absurd (same ▸ kind) notPlace, fun same => absurd (same ▸ kind) notNote, fun _ => rfl,
      fun _ => rfl, fun _ => rfl, nofun⟩
  | note record =>
    cases projected
    have apart : Vocabulary.noteKind ≠ Vocabulary.placeKind := by decide
    exact ⟨fun same => absurd same apart, fun _ => rfl, fun some => absurd rfl some, fun some => absurd rfl some,
      fun some => absurd rfl some, fun some => absurd rfl some⟩
  | place record =>
    cases projected
    have apart : Vocabulary.placeKind ≠ Vocabulary.noteKind := by decide
    exact ⟨fun _ => rfl, fun same => absurd same apart, fun some => absurd rfl some, fun some => absurd rfl some,
      fun some => absurd rfl some, nofun⟩
  | unsupported value => cases projected

theorem FilterValue.isTextNothing (value : FilterValue) : value.isText none ≠ true := by
  cases value with
  | text text => exact Bool.false_ne_true
  | number n | flag flag => exact Bool.false_ne_true

namespace Filter

theorem passesWithin {f : Filter} {item : Item} (passes : f.passes item = .ok true) : f.inScope item = true := by
  unfold Filter.passes at passes
  split at passes
  · cases passes
  · rename_i inside
    simpa using inside

theorem comparesNothing (f : Filter) : f.compares none ≠ .ok true := nofun

theorem familyOfPasses {f : Filter} {item : Item} (passes : f.passes item = .ok true) {entity : Entity}
    (reveals : item.Reveals entity) {family : Family} (own : f.field.family? = some family) :
    entity.family? = some family := by
  have within := passesWithin passes
  rw [Filter.passes, within] at passes
  unfold inScope at within
  cases field : f.field with
  | visited =>
    rw [field] at own within
    cases own
    exact reveals.place (beq_iff_eq.mp within)
  | archived | unread =>
    rw [field] at own within
    cases own
    exact reveals.note (beq_iff_eq.mp within)
  | status =>
    rw [field] at own passes
    cases own
    have same : f.value.isText item.status = true := Except.ok.inj passes
    exact reveals.status (fun none => FilterValue.isTextNothing f.value (none ▸ same))
  | year =>
    rw [field] at own passes
    cases own
    exact reveals.year (fun none => f.comparesNothing (none ▸ passes))
  | genre =>
    rw [field] at own passes
    cases own
    have found : hasGenre f.value item.genres = true := Except.ok.inj passes
    refine reveals.genres (fun none => ?_)
    rw [none] at found
    exact Bool.false_ne_true found
  | rating | creator | other name =>
    rw [field] at own
    cases own

theorem ratedOfPasses {f : Filter} {item : Item} (passes : f.passes item = .ok true) {entity : Entity}
    (reveals : item.Reveals entity) (own : f.field = .rating) : entity.family? ≠ some .note := by
  rw [Filter.passes, passesWithin passes, own] at passes
  exact reveals.rating (fun none => f.comparesNothing (none ▸ passes))

end Filter

namespace Import

theorem ofDirectoryNamed {host : Host} {directory : Text} {collections : Collections}
    (loaded : ofDirectory host directory = .ok collections) :
    ∀ entity ∈ collections.snapshot.entities, entity.Named :=
  ofDirectoryEach loaded (fun _ _ made => (mediaSource made).kind) (fun _ _ _ => trivial) (fun _ _ _ => trivial)

end Import

namespace Ranking

structure Confined (parsed : Parsed) (ranked : List Ranked) : Prop where
  family : ∀ f ∈ parsed.filters, ∀ family, f.field.family? = some family →
    ∀ entry ∈ ranked, entry.entity.family? = some family
  rating : ∀ f ∈ parsed.filters, f.field = .rating → ∀ entry ∈ ranked, entry.entity.family? ≠ some .note
  apart : ∀ f ∈ parsed.filters, ∀ g ∈ parsed.filters, f.field.Apart g.field → ranked = []

theorem ofLinePasses {cap : Option Int} {line : Text} {snapshot : Snapshot} {ranked : List Ranked}
    (ok : ofLine cap line snapshot = .ok ranked) :
    ∃ parsed, Parsed.parse line = .ok parsed ∧ ∀ entry ∈ ranked, entry.entity ∈ snapshot.entities ∧
      ∃ item, entry.entity.toItem = .ok item ∧ ∀ f ∈ parsed.filters, f.passes item = .ok true := by
  obtain ⟨parsed, read, ⟨_, rfl⟩ | ⟨_, entries, made, rfl⟩⟩ := ofLineFound ok
  · exact ⟨parsed, read, by simp⟩
  · refine ⟨parsed, read, fun entry member => ?_⟩
    obtain ⟨held, ranked, relevant⟩ := fullEntry made (upToMem cap member)
    obtain ⟨_, ⟨item, projected, _⟩, _⟩ := ofEntityIff.mp ranked
    obtain ⟨_, _, scored⟩ := (ofEntityScored projected).mp ranked
    have evaluable := Parsed.parseEvaluable read
    have admitted := (Relevance.relevantAdmitted evaluable scored relevant).2
    exact ⟨held, item, projected, Relevance.admittedPasses evaluable admitted⟩

theorem confinedOfReveals {parsed : Parsed} {ranked : List Ranked}
    (each : ∀ entry ∈ ranked, ∃ item : Item, item.Reveals entry.entity ∧ ∀ f ∈ parsed.filters, f.passes item = .ok true) :
    Confined parsed ranked := by
  have family : ∀ f ∈ parsed.filters, ∀ family, f.field.family? = some family →
      ∀ entry ∈ ranked, entry.entity.family? = some family := by
    intro f listed family own entry member
    obtain ⟨item, reveals, passes⟩ := each entry member
    exact Filter.familyOfPasses (passes f listed) reveals own
  have rating : ∀ f ∈ parsed.filters, f.field = .rating → ∀ entry ∈ ranked, entry.entity.family? ≠ some .note := by
    intro f listed own entry member
    obtain ⟨item, reveals, passes⟩ := each entry member
    exact Filter.ratedOfPasses (passes f listed) reveals own
  refine ⟨family, rating, fun f first g second apart => List.eq_nil_iff_forall_not_mem.mpr (fun entry member => ?_)⟩
  generalize field : g.field = other at apart
  cases apart with
  | families left right different =>
    have one := family f first _ left entry member
    have two := family g second _ (field ▸ right) entry member
    exact different (Option.some.inj (one.symm.trans two))
  | rating note => exact rating g second field entry member (family f first _ note entry member)

end Ranking

namespace Engine

theorem importConfined {host : Host} {directory : Text} {collections : Import.Collections}
    (loaded : Import.ofDirectory host directory = .ok collections) {cap : Option Int} {line : Text}
    {ranked : List Ranked} (found : (⟨collections.snapshot, cap⟩ : Engine).search line = .ok ranked) :
    ∃ parsed, Parsed.parse line = .ok parsed ∧ Ranking.Confined parsed ranked := by
  obtain ⟨parsed, read, each⟩ := Ranking.ofLinePasses found
  refine ⟨parsed, read, Ranking.confinedOfReveals (fun entry member => ?_)⟩
  obtain ⟨held, item, projected, passes⟩ := each entry member
  exact ⟨item, Entity.toItemReveals (Import.ofDirectoryNamed loaded _ held) projected, passes⟩

theorem importConfinedOfVisited :
    let media := "\x7b\"id\":1,\"type\":\"movie\",\"title\":\"Zeta\"\x7d"
    let notes := "\x7b\"id\":2,\"title\":\"Zeta\"\x7d"
    let places := "\x7b\"id\":3,\"name\":\"Zeta\",\"rating\":4\x7d"
    let host := Host.standard (.directory [("snap".toText, .directory [(Import.mediaFile, .file media.toUTF8),
      (Import.notesFile, .file notes.toUTF8), (Import.placesFile, .file places.toUTF8)])])
    let one := "zeta rating<5 visited:no".toText
    let two := "zeta is:unread visited:no".toText
    ∃ collections, Import.ofDirectory host "snap".toText = .ok collections ∧ collections.snapshot.size = 3 ∧
      (∃ ranked, (⟨collections.snapshot, none⟩ : Engine).search one = .ok ranked ∧
        ranked.map Ranked.kind = [Vocabulary.placeKind] ∧
        ∃ parsed, Parsed.parse one = .ok parsed ∧ Ranking.Confined parsed ranked) ∧
      ∃ ranked, (⟨collections.snapshot, none⟩ : Engine).search two = .ok ranked ∧ ranked = [] ∧
        ∃ parsed, Parsed.parse two = .ok parsed ∧ Ranking.Confined parsed ranked := by
  intro media notes places host one two
  have shown : (Import.ofDirectory host "snap".toText).toOption.map (fun collections =>
      let engine : Engine := ⟨collections.snapshot, none⟩
      (engine.size, (engine.search one).toOption.map (List.map Ranked.kind),
        (engine.search two).toOption.map (List.map Ranked.kind))) =
      some (3, some [Vocabulary.placeKind], some []) := by decide +kernel
  obtain ⟨collections, loaded, held⟩ := Outcome.okOfShown shown
  obtain ⟨size, searched⟩ := Prod.mk.inj held
  obtain ⟨first, second⟩ := Prod.mk.inj searched
  obtain ⟨places, found, kinds⟩ := Outcome.okOfShown first
  obtain ⟨nothing, foundToo, none⟩ := Outcome.okOfShown second
  exact ⟨collections, loaded, size, ⟨places, found, kinds, importConfined loaded found⟩,
    nothing, foundToo, List.map_eq_nil_iff.mp none, importConfined loaded foundToo⟩

end Engine
end CollectionSearch
