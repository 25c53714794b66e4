import CollectionSearch.Import.Record
import CollectionSearch.Proofs.Number.Range
import CollectionSearch.Proofs.Outcome

/-! Conversion of one object. Every fault in it spoils that record only, apart from a rating beyond all reals, and
every rating in a record is real. -/
namespace CollectionSearch.Import

open Json (Members)

def TooLarge (value : Option Json) : Prop :=
  ∃ n : Int, value = some (.number (.whole n)) ∧ Binary64.beyond ≤ n.natAbs

def Bounded (oversized : Prop) (fault : Fault) : Prop :=
  fault.spoilsRecord = true ∨ (fault = .wholeTooLarge ∧ oversized)

theorem Bounded.imp {before after : Prop} {fault : Fault} (step : before → after) (bounded : Bounded before fault) :
    Bounded after fault := Or.imp_right (And.imp_right step) bounded

theorem requiredError {members : Members} {key : String} {fault : Fault} (failed : required members key = .error fault)
    (oversized : Prop) : Bounded oversized fault := by
  unfold required at failed
  split at failed <;> cases failed
  exact Or.inl rfl

theorem readRealError {s : Text} {fault : Fault} (failed : Number.readReal s = .error fault) : fault = .notReal s := by
  unfold Number.readReal at failed
  split at failed <;> cases failed
  rfl

theorem numberOfError {value : Option Json} {fault : Fault} (failed : numberOf value = .error fault) :
    Bounded (TooLarge value) fault := by
  unfold numberOf at failed
  split at failed
  · cases failed
  · cases failed
  · cases failed
  · cases failed
  · cases readRealError (Outcome.mapError.mp failed)
    exact Or.inl rfl
  · obtain ⟨rfl, n, rfl, large⟩ := Number.toRealError.mp (Outcome.mapError.mp failed)
    exact Or.inr ⟨rfl, n, rfl, large⟩
  · cases failed
    exact Or.inl rfl

theorem ratingsOfError {value : Option Json} {fault : Fault} (failed : ratingsOf value = .error fault) :
    Bounded (∃ ratings, value = some (.object ratings) ∧ ∃ user ∈ Vocabulary.users, TooLarge (ratings.lookup user))
      fault := by
  unfold ratingsOf at failed
  split at failed
  · rename_i ratings
    obtain ⟨user, mentioned, cause⟩ := Outcome.eachError (Outcome.mapError.mp failed)
    rcases Outcome.bindError.mp cause with cause | ⟨rating, _, none⟩
    · exact (numberOfError cause).imp (fun large => ⟨ratings, rfl, user, (List.mem_filter.mp mentioned).1, large⟩)
    · cases none
  · cases failed

inductive Unrated (members : Members) : Prop where
  | shared (large : TooLarge (get members "rating")) : Unrated members
  | own (ratings : Members) (held : get members "ratings" = some (.object ratings)) (user : Text)
      (known : user ∈ Vocabulary.users) (large : TooLarge (ratings.lookup user)) : Unrated members

theorem mediaError {members : Members} {fault : Fault} (failed : media members = .error fault) :
    Bounded (Unrated members) fault := by
  unfold media at failed
  dsimp only at failed
  split at failed
  · cases failed
    exact Or.inl rfl
  split at failed
  · cases failed
    exact Or.inl rfl
  rcases Outcome.bindError.mp failed with first | ⟨ratings, _, failed⟩
  · exact (ratingsOfError first).imp (fun ⟨ratings, held, user, known, large⟩ => .own ratings held user known large)
  rcases Outcome.bindError.mp failed with first | ⟨id, _, failed⟩
  · exact requiredError first _
  rcases Outcome.bindError.mp failed with first | ⟨title, _, failed⟩
  · exact requiredError first _
  rcases Outcome.bindError.mp failed with first | ⟨rating, _, failed⟩
  · exact (numberOfError first).imp .shared
  · cases failed

theorem noteError {members : Members} {fault : Fault} (failed : note members = .error fault) : Bounded False fault := by
  rcases Outcome.bindError.mp failed with first | ⟨id, _, failed⟩
  · exact requiredError first _
  · cases failed

theorem placeError {members : Members} {fault : Fault} (failed : place members = .error fault) :
    Bounded (TooLarge (get members "rating")) fault := by
  rcases Outcome.bindError.mp failed with first | ⟨id, _, failed⟩
  · exact requiredError first _
  rcases Outcome.bindError.mp failed with first | ⟨name, _, failed⟩
  · exact requiredError first _
  rcases Outcome.bindError.mp failed with first | ⟨rating, _, failed⟩
  · exact numberOfError first
  · cases failed

def Real (rating : Option Number) : Prop := ∀ n : Int, rating ≠ some (.whole n)

theorem numberOfReal {value : Option Json} {rating : Option Number} (made : numberOf value = .ok rating) :
    Real rating := by
  unfold numberOf at made
  split at made
  · cases made
    exact nofun
  · cases made
    exact nofun
  · cases made
    exact nofun
  · cases made
    exact nofun
  · obtain ⟨x, _, rfl⟩ := Outcome.mapOk.mp made
    exact nofun
  · obtain ⟨x, _, rfl⟩ := Outcome.mapOk.mp made
    exact nofun
  · cases made

theorem ratingsOfReal {value : Option Json} {ratings : List (Text × Option Number)}
    (made : ratingsOf value = .ok (some ratings)) : ∀ entry ∈ ratings, Real entry.2 := by
  unfold ratingsOf at made
  split at made
  · obtain ⟨entries, each, same⟩ := Outcome.mapOk.mp made
    cases same
    intro entry member
    obtain ⟨user, _, source⟩ := Outcome.eachOkMem each member
    obtain ⟨rating, read, pair⟩ := Outcome.bindOk.mp source
    cases pair
    exact numberOfReal read
  · cases made

structure MediaSource (members : Members) (record : Media) : Prop where
  id : required members "id" = .ok record.id
  kind : record.kind ∈ Vocabulary.mediaKinds
  title : required members "title" = .ok record.title
  creator : record.creator = userOf (either members "createdBy" "created_by")
  status : record.status ∈ Vocabulary.statuses
  rating : numberOf (get members "rating") = .ok record.rating
  ratings : ratingsOf (get members "ratings") = .ok record.ratings
  overview : record.overview = textOf (get members "overview")
  notes : record.notes = textOf (get members "notes")
  releaseDate : record.releaseDate = textOrNone (either members "releaseDate" "release_date")
  genres : record.genres = listOf (get members "genres")
  posterPath : record.posterPath = textOrNone (either members "posterPath" "poster_path")

structure NoteSource (members : Members) (record : Note) : Prop where
  id : required members "id" = .ok record.id
  title : record.title = textOf (get members "title")
  content : record.content = textOf (get members "content")
  tags : record.tags = listOf (get members "tags")
  creator : record.creator = userOf (either members "createdBy" "created_by")

structure PlaceSource (members : Members) (record : Place) : Prop where
  id : required members "id" = .ok record.id
  name : required members "name" = .ok record.name
  category : record.category ∈ Vocabulary.categories
  notes : record.notes = textOf (get members "notes")
  rating : numberOf (get members "rating") = .ok record.rating
  creator : record.creator = userOf (either members "createdBy" "created_by")

theorem mediaSource {members : Members} {record : Media} (made : media members = .ok record) :
    MediaSource members record := by
  unfold media at made
  dsimp only at made
  split at made
  · cases made
  rename_i kind
  split at made
  · cases made
  rename_i status
  obtain ⟨ratings, own, made⟩ := Outcome.bindOk.mp made
  obtain ⟨id, identified, made⟩ := Outcome.bindOk.mp made
  obtain ⟨title, titled, made⟩ := Outcome.bindOk.mp made
  obtain ⟨rating, shared, made⟩ := Outcome.bindOk.mp made
  cases made
  exact ⟨identified, by simpa using kind, titled, rfl, by simpa using status, shared, own, rfl, rfl, rfl, rfl, rfl⟩

theorem noteSource {members : Members} {record : Note} (made : note members = .ok record) :
    NoteSource members record := by
  obtain ⟨id, identified, made⟩ := Outcome.bindOk.mp made
  cases made
  exact ⟨identified, rfl, rfl, rfl, rfl⟩

theorem placeSource {members : Members} {record : Place} (made : place members = .ok record) :
    PlaceSource members record := by
  obtain ⟨id, identified, made⟩ := Outcome.bindOk.mp made
  obtain ⟨name, named, made⟩ := Outcome.bindOk.mp made
  obtain ⟨rating, read, made⟩ := Outcome.bindOk.mp made
  cases made
  refine ⟨identified, named, ?_, rfl, read, rfl⟩
  dsimp only
  split
  · rename_i known
    exact List.contains_iff_mem.mp known
  · decide

structure RealRatings (record : Media) : Prop where
  shared : Real record.rating
  own : ∀ ratings, record.ratings = some ratings → ∀ entry ∈ ratings, Real entry.2

theorem mediaReal {members : Members} {record : Media} (made : media members = .ok record) : RealRatings record := by
  have source := mediaSource made
  refine ⟨numberOfReal source.rating, fun ratings held => ?_⟩
  exact ratingsOfReal (source.ratings.trans (congrArg Except.ok held))

theorem placeReal {members : Members} {record : Place} (made : place members = .ok record) : Real record.rating :=
  numberOfReal (placeSource made).rating

end CollectionSearch.Import
