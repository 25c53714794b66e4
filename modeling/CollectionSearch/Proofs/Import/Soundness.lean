import CollectionSearch.Proofs.Catalog
import CollectionSearch.Proofs.Import.Snapshot

/-! What holds of every record that an import made, whatever values it met, and of what is searched in its place. -/
namespace CollectionSearch

def Creator (creator : Option Text) : Prop := ∀ user, creator = some user → user ∈ Vocabulary.users

structure RatingTable (ratings : List (Text × Option Number)) : Prop where
  users : ∀ entry ∈ ratings, entry.1 ∈ Vocabulary.users
  once : (ratings.map Prod.fst).Nodup
  real : ∀ entry ∈ ratings, Import.Real entry.2

structure Media.Sound (record : Media) : Prop where
  id : Text.Filled record.id
  kind : record.kind ∈ Vocabulary.mediaKinds
  title : Text.Filled record.title
  creator : Creator record.creator
  status : record.status ∈ Vocabulary.statuses
  rating : Import.Real record.rating
  ratings : ∀ table, record.ratings = some table → RatingTable table
  overview : Text.Trimmed record.overview
  notes : Text.Trimmed record.notes
  releaseDate : ∀ date, record.releaseDate = some date → Text.Filled date
  genres : ∀ genre ∈ record.genres, Text.Trimmed genre
  posterPath : ∀ path, record.posterPath = some path → Text.Filled path

structure Note.Sound (record : Note) : Prop where
  id : Text.Filled record.id
  title : Text.Trimmed record.title
  content : Text.Trimmed record.content
  tags : ∀ tag ∈ record.tags, Text.Trimmed tag
  creator : Creator record.creator

structure Place.Sound (record : Place) : Prop where
  id : Text.Filled record.id
  name : Text.Filled record.name
  category : record.category ∈ Vocabulary.categories
  notes : Text.Trimmed record.notes
  rating : Import.Real record.rating
  creator : Creator record.creator

structure Item.StandsFor (item : Item) (id kind : Text) : Prop where
  id : item.id = id
  kind : item.kind = kind
  known : item.kind ∈ Vocabulary.kinds
  title : Text.Filled item.title

theorem Media.toItemStands {record : Media} (sound : record.Sound) {item : Item}
    (made : (Entity.media record).toItem = .ok item) : item.StandsFor record.id record.kind := by
  have source := Media.itemSource made
  exact ⟨source.id, source.kind, source.kind ▸ List.mem_append_left _ sound.kind, Entity.toItemTitled made⟩

namespace Import

open Json (Members)

theorem textOfTrimmed (value : Option Json) : Text.Trimmed (textOf value) := by
  unfold textOf
  split
  · exact ⟨nofun, nofun⟩
  · exact ⟨nofun, nofun⟩
  · exact Text.trimTrimmed _

theorem textOfFilled {value : Option Json} {text : Text} (made : textOf value = text) (some : text ≠ []) :
    Text.Filled text := ⟨some, made ▸ textOfTrimmed value⟩

theorem requiredFilled {members : Members} {key : String} {text : Text} (made : required members key = .ok text) :
    Text.Filled text := by
  unfold required at made
  split at made
  · cases made
  · rename_i c rest same
    cases made
    exact textOfFilled same (List.cons_ne_nil c rest)

theorem textOrNoneFilled {value : Option Json} {text : Text} (made : textOrNone value = some text) :
    Text.Filled text := by
  unfold textOrNone at made
  split at made
  · cases made
  · rename_i c rest same
    cases made
    exact textOfFilled same (List.cons_ne_nil c rest)

theorem listOfTrimmed (value : Option Json) : ∀ text ∈ listOf value, Text.Trimmed text := by
  intro text member
  unfold listOf at member
  split at member
  · obtain ⟨item, _, rfl⟩ := List.mem_map.mp member
    exact Text.trimTrimmed _
  · obtain ⟨part, _, rfl⟩ := List.mem_map.mp (List.mem_filter.mp member).1
    exact Text.trimTrimmed _
  · cases member

theorem userOfCreator (value : Option Json) : Creator (userOf value) := by
  intro user made
  unfold userOf at made
  dsimp only at made
  split at made
  · rename_i known
    cases made
    exact List.contains_iff_mem.mp known
  · cases made

theorem ratingsOfUsers {value : Option Json} {ratings : List (Text × Option Number)}
    (made : ratingsOf value = .ok (some ratings)) : (ratings.map Prod.fst).Sublist Vocabulary.users := by
  unfold ratingsOf at made
  split at made
  · obtain ⟨entries, each, same⟩ := Outcome.mapOk.mp made
    cases same
    have named : List.Forall₂ (fun user entry => user = entry.1) _ ratings :=
      (Outcome.eachOk.mp each).imp (fun user entry read => by
        obtain ⟨rating, _, pair⟩ := Outcome.bindOk.mp read
        cases pair
        rfl)
    rw [← List.forall₂_map_right_iff, List.forall₂_eq_eq_eq] at named
    exact named ▸ List.filter_sublist
  · cases made

theorem ratingsOfTable {value : Option Json} {ratings : List (Text × Option Number)}
    (made : ratingsOf value = .ok (some ratings)) : RatingTable ratings := by
  have users := ratingsOfUsers made
  have apart : Vocabulary.users.Nodup := by decide
  exact ⟨fun entry member => users.subset (List.mem_map_of_mem member), apart.sublist users, ratingsOfReal made⟩

theorem mediaSound {members : Members} {record : Media} (made : media members = .ok record) : record.Sound := by
  have source := mediaSource made
  refine ⟨requiredFilled source.id, source.kind, requiredFilled source.title, ?_, source.status,
    numberOfReal source.rating, ?_, ?_, ?_, ?_, ?_, ?_⟩
  · exact source.creator ▸ userOfCreator _
  · exact fun table held => ratingsOfTable (source.ratings.trans (congrArg Except.ok held))
  · exact source.overview ▸ textOfTrimmed _
  · exact source.notes ▸ textOfTrimmed _
  · exact fun date held => textOrNoneFilled (source.releaseDate.symm.trans held)
  · exact source.genres ▸ listOfTrimmed _
  · exact fun path held => textOrNoneFilled (source.posterPath.symm.trans held)

theorem noteSound {members : Members} {record : Note} (made : note members = .ok record) : record.Sound := by
  have source := noteSource made
  refine ⟨requiredFilled source.id, ?_, ?_, ?_, ?_⟩
  · exact source.title ▸ textOfTrimmed _
  · exact source.content ▸ textOfTrimmed _
  · exact source.tags ▸ listOfTrimmed _
  · exact source.creator ▸ userOfCreator _

theorem placeSound {members : Members} {record : Place} (made : place members = .ok record) : record.Sound := by
  have source := placeSource made
  refine ⟨requiredFilled source.id, requiredFilled source.name, source.category, ?_, numberOfReal source.rating, ?_⟩
  · exact source.notes ▸ textOfTrimmed _
  · exact source.creator ▸ userOfCreator _

structure Collections.Sound (collections : Collections) : Prop where
  media : ∀ record ∈ collections.media.records, record.Sound ∧
    ∀ item, (Entity.media record).toItem = .ok item → item.StandsFor record.id record.kind
  notes : ∀ record ∈ collections.notes.records, record.Sound ∧
    ∀ item, (Entity.note record).toItem = .ok item → item.StandsFor record.id Vocabulary.noteKind
  places : ∀ record ∈ collections.places.records, record.Sound ∧
    ∀ item, (Entity.place record).toItem = .ok item → item.StandsFor record.id Vocabulary.placeKind

theorem importSound {host : Host} {directory : Text} {collections : Collections}
    (loaded : ofDirectory host directory = .ok collections) : collections.Sound := by
  obtain ⟨medias, notes, places⟩ := ofDirectoryMade loaded
  refine ⟨fun record member => ?_, fun record member => ?_, fun record member => ?_⟩
  · obtain ⟨members, made⟩ := medias record member
    exact ⟨mediaSound made, fun item => Media.toItemStands (mediaSound made)⟩
  · obtain ⟨members, made⟩ := notes record member
    have known : Vocabulary.noteKind ∈ Vocabulary.kinds := by decide
    refine ⟨noteSound made, fun item projected => ?_⟩
    have titled := Entity.toItemTitled projected
    cases projected
    exact ⟨rfl, rfl, known, titled⟩
  · obtain ⟨members, made⟩ := places record member
    have known : Vocabulary.placeKind ∈ Vocabulary.kinds := by decide
    refine ⟨placeSound made, fun item projected => ?_⟩
    have titled := Entity.toItemTitled projected
    cases projected
    exact ⟨rfl, rfl, known, titled⟩

theorem importSoundOfMixed :
    let media := "\x7b\"id\":7,\"type\":\" TV\",\"title\":[1],\"ratings\":\x7b\"X\":[],\"T\":9\x7d,\"genres\":\"a, ,b\"\x7d"
    let note := "\x7b\"id\":true,\"content\":\" \",\"tags\":[\" x\",0]\x7d"
    let place := "\x7b\"id\":1.5,\"name\":\" Bar\",\"category\":\"pub\"\x7d"
    let host := Host.standard (.directory [("snap".toText, .directory [(mediaFile, .file media.toUTF8),
      (notesFile, .file note.toUTF8), (placesFile, .file place.toUTF8)])])
    ∃ collections, ofDirectory host "snap".toText = .ok collections ∧
      collections.media.records.map Media.genres = [["a".toText, "b".toText]] ∧
      collections.notes.records.map Note.displayTitle = [untitled] ∧
      collections.places.records.map Place.category = [Vocabulary.otherCategory] ∧ collections.Sound := by
  intro media note place host
  have read : (ofDirectory host "snap".toText).toOption.map (fun collections =>
      (collections.media.records.map Media.genres, collections.notes.records.map Note.displayTitle,
        collections.places.records.map Place.category)) =
      some ([["a".toText, "b".toText]], [untitled], [Vocabulary.otherCategory]) := by decide +kernel
  obtain ⟨collections, loaded, shown⟩ := Outcome.okOfShown read
  obtain ⟨genres, others⟩ := Prod.mk.inj shown
  obtain ⟨titles, categories⟩ := Prod.mk.inj others
  exact ⟨collections, loaded, genres, titles, categories, importSound loaded⟩

end Import
end CollectionSearch
