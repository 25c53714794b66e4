import CollectionSearch.Proofs.Import.Soundness
import Mathlib.Data.List.Nodup

/-! Records in normal form are fixed points: an object that carries the fields of one, in either spelling, is read as
that record. Every rule for a field leaves alone what it could have made itself. -/
namespace CollectionSearch

structure Media.Normal (record : Media) : Prop extends Media.Sound record where
  nonempty : ∀ genre ∈ record.genres, genre ≠ []

structure Note.Normal (record : Note) : Prop extends Note.Sound record where
  nonempty : ∀ tag ∈ record.tags, tag ≠ []

abbrev Ratings := Option (List (Text × Option Number))

/- The same record, if ratings are a map and not a list. -/
structure Media.Same (read record : Media) : Prop where
  fields : read = { record with ratings := read.ratings }
  ratings : Option.Rel List.Perm read.ratings record.ratings

def Media.InOrder (record : Media) : Prop :=
  ∀ table, record.ratings = some table → (table.map Prod.fst).Sublist Vocabulary.users

namespace Import

open Json (Members)

/- A value stands as it is written. Where it is the default of its field, null or nothing stands for it as well. -/
inductive Carried (written : Json) (isDefault : Prop) : Option Json → Prop where
  | written : Carried written isDefault (some written)
  | null (omitted : isDefault) : Carried written isDefault (some .null)
  | absent (omitted : isDefault) : Carried written isDefault none

/- A field with two names, of which an object uses one. -/
inductive Spelled (carries : Option Json → Prop) (members : Members) (first second : String) : Prop where
  | first (here : carries (get members first)) (other : get members second = none) :
    Spelled carries members first second
  | second (other : get members first = none) (here : carries (get members second)) :
    Spelled carries members first second

def textJson (text : Option Text) : Json := text.elim .null .text

def numberJson (number : Option Number) : Json := number.elim .null .number

def listJson (texts : List Text) : Json := .array (texts.map .text)

def CarriedText (text : Text) : Option Json → Prop := Carried (.text text) (text = [])

def CarriedOption (text : Option Text) : Option Json → Prop := Carried (textJson text) (text = none)

def CarriedNumber (number : Option Number) : Option Json → Prop := Carried (numberJson number) (number = none)

def CarriedList (texts : List Text) : Option Json → Prop := Carried (listJson texts) (texts = [])

def CarriedFlag (value : Bool) : Option Json → Prop := Carried (.flag value) (value = false)

inductive CarriedRatings : Ratings → Option Json → Prop where
  | table {ratings : List (Text × Option Number)} {members : Members}
    (each : ∀ user ∈ Vocabulary.users, members.lookup user = (ratings.lookup user).map numberJson) :
    CarriedRatings (some ratings) (some (.object members))
  | null : CarriedRatings none (some .null)
  | absent : CarriedRatings none none

structure MediaCarried (members : Members) (record : Media) : Prop where
  id : get members "id" = some (.text record.id)
  kind : Spelled (· = some (.text record.kind)) members "type" "media_type"
  title : get members "title" = some (.text record.title)
  creator : Spelled (CarriedOption record.creator) members "createdBy" "created_by"
  status : Carried (.text record.status) (record.status = Vocabulary.queued) (get members "status")
  rating : CarriedNumber record.rating (get members "rating")
  ratings : CarriedRatings record.ratings (get members "ratings")
  overview : CarriedText record.overview (get members "overview")
  notes : CarriedText record.notes (get members "notes")
  releaseDate : Spelled (CarriedOption record.releaseDate) members "releaseDate" "release_date"
  genres : CarriedList record.genres (get members "genres")
  posterPath : Spelled (CarriedOption record.posterPath) members "posterPath" "poster_path"

structure NoteCarried (members : Members) (record : Note) : Prop where
  id : get members "id" = some (.text record.id)
  title : CarriedText record.title (get members "title")
  content : CarriedText record.content (get members "content")
  tags : CarriedList record.tags (get members "tags")
  creator : Spelled (CarriedOption record.creator) members "createdBy" "created_by"
  read : CarriedFlag record.read (get members "read")
  archived : CarriedFlag record.archived (get members "archived")

structure PlaceCarried (members : Members) (record : Place) : Prop where
  id : get members "id" = some (.text record.id)
  name : get members "name" = some (.text record.name)
  category : Carried (.text record.category) (record.category = Vocabulary.otherCategory) (get members "category")
  notes : CarriedText record.notes (get members "notes")
  visited : CarriedFlag record.visited (get members "visited")
  rating : CarriedNumber record.rating (get members "rating")
  creator : Spelled (CarriedOption record.creator) members "createdBy" "created_by"

theorem eitherSpelled {carries : Option Json → Prop} {members : Members} {first second : String}
    (spelled : Spelled carries members first second) : carries (either members first second) := by
  unfold either
  cases spelled with
  | first here other => rwa [other, Option.or_none]
  | second other here => rwa [other, Option.none_or]

theorem Carried.reads {α : Type} {written : Json} {isDefault : Prop} {value : Option Json}
    (carried : Carried written isDefault value) (rule : Option Json → α) {result : α} (fixed : rule (some written) = result)
    (null : rule (some .null) = rule none) (absent : isDefault → rule none = result) : rule value = result := by
  cases carried with
  | written => exact fixed
  | null omitted => exact null.trans (absent omitted)
  | absent omitted => exact absent omitted

theorem textOfText {text : Text} (trimmed : Text.Trimmed text) : textOf (some (.text text)) = text :=
  Text.trimmedTrim trimmed

theorem textOfCarried {text : Text} {value : Option Json} (carried : CarriedText text value)
    (trimmed : Text.Trimmed text) : textOf value = text :=
  carried.reads textOf (textOfText trimmed) rfl Eq.symm

theorem requiredText {members : Members} {key : String} {text : Text} (filled : Text.Filled text)
    (held : get members key = some (.text text)) : required members key = .ok text := by
  obtain ⟨c, rest, rfl⟩ := List.exists_cons_of_ne_nil filled.some
  rw [required, held, textOfText filled.trimmed]

theorem textOrNoneCarried {text : Option Text} {value : Option Json} (carried : CarriedOption text value)
    (filled : ∀ held, text = some held → Text.Filled held) : textOrNone value = text := by
  refine carried.reads textOrNone ?_ rfl Eq.symm
  cases text with
  | none => rfl
  | some held =>
    have whole := filled held rfl
    obtain ⟨c, rest, rfl⟩ := List.exists_cons_of_ne_nil whole.some
    rw [textOrNone, textJson, Option.elim_some, textOfText whole.trimmed]

theorem userOfCarried {creator : Option Text} {value : Option Json} (carried : CarriedOption creator value)
    (known : Creator creator) : userOf value = creator := by
  have fixed : ∀ user ∈ Vocabulary.users, userOf (some (.text user)) = some user := by decide
  refine carried.reads userOf ?_ rfl Eq.symm
  cases creator with
  | none => rfl
  | some user => exact fixed user (known user rfl)

theorem listOfCarried {texts : List Text} {value : Option Json} (carried : CarriedList texts value)
    (trimmed : ∀ text ∈ texts, Text.Trimmed text) (nonempty : ∀ text ∈ texts, text ≠ []) : listOf value = texts := by
  refine carried.reads listOf ?_ rfl Eq.symm
  have kept : (texts.map Json.text).filter Json.isPresent = texts.map Json.text := by
    refine List.filter_eq_self.mpr (fun item member => ?_)
    obtain ⟨text, held, rfl⟩ := List.mem_map.mp member
    simpa [Json.isPresent] using nonempty text held
  have same : ∀ text ∈ texts, Text.trim text = id text := fun text held => Text.trimmedTrim (trimmed text held)
  rw [listJson, listOf, kept, List.map_map]
  exact (List.map_congr_left same).trans (List.map_id texts)

theorem flagOfCarried {flag : Bool} {value : Option Json} (carried : CarriedFlag flag value) :
    flagOf value = flag :=
  carried.reads flagOf rfl rfl Eq.symm

theorem numberOfJson {number : Option Number} (real : Real number) :
    numberOf (some (numberJson number)) = .ok number := by
  match number with
  | none => rfl
  | some (.whole n) => exact absurd rfl (real n)
  | some (.real x) => rfl

theorem numberOfCarried {number : Option Number} {value : Option Json} (carried : CarriedNumber number value)
    (real : Real number) : numberOf value = .ok number :=
  carried.reads numberOf (numberOfJson real) rfl (fun none => congrArg Except.ok none.symm)

theorem wordsFixed : ∀ word ∈ Vocabulary.mediaKinds ++ Vocabulary.statuses ++ Vocabulary.categories,
    Json.isPresent (.text word) = true ∧ Text.lower (Text.trim word) = word := by decide +kernel

theorem wordOfCarried {word otherwise : Text} {value : Option Json}
    (known : word ∈ Vocabulary.mediaKinds ++ Vocabulary.statuses ++ Vocabulary.categories)
    (carried : Carried (.text word) (word = otherwise) value) : wordOf otherwise [value] = word := by
  obtain ⟨present, fixed⟩ := wordsFixed word known
  refine carried.reads (fun value => wordOf otherwise [value]) ?_ rfl Eq.symm
  simp [wordOf, present, fixed]

theorem kindOfCarried {members : Members} {kind : Text} (known : kind ∈ Vocabulary.mediaKinds)
    (spelled : Spelled (· = some (.text kind)) members "type" "media_type") :
    wordOf [] [get members "type", get members "media_type"] = kind := by
  have listed : kind ∈ Vocabulary.mediaKinds ++ Vocabulary.statuses ++ Vocabulary.categories := by simp [known]
  obtain ⟨present, fixed⟩ := wordsFixed kind listed
  cases spelled with
  | first here other => simp [here, other, wordOf, present, fixed]
  | second other here => simp [here, other, wordOf, present, fixed]

def byUser (users : List Text) (ratings : List (Text × Option Number)) : List (Text × Option Number) :=
  users.filterMap (fun user => (ratings.lookup user).map (Prod.mk user))

theorem byUserRead {users : List Text} {ratings : List (Text × Option Number)} {members : Members}
    (each : ∀ user ∈ users, members.lookup user = (ratings.lookup user).map numberJson)
    (real : ∀ entry ∈ ratings, Real entry.2) :
    (users.filter (fun user => (members.lookup user).isSome)).mapM
      (fun user => return (user, ← numberOf (members.lookup user))) = (.ok (byUser users ratings) : Except Fault _) := by
  induction users with
  | nil => rfl
  | cons user users ih =>
    obtain ⟨here, behind⟩ := List.forall_mem_cons.mp each
    cases rated : ratings.lookup user with
    | none =>
      have skipped : (members.lookup user).isSome = false := by rw [here, rated]; rfl
      rw [List.filter_cons_of_neg (by simp [skipped]), ih behind, byUser, byUser, List.filterMap_cons, rated]
      rfl
    | some rating =>
      have held : members.lookup user = some (numberJson rating) := by rw [here, rated]; rfl
      have read : numberOf (members.lookup user) = .ok rating :=
        held ▸ numberOfJson (real _ (Sequence.lookupMem rated))
      rw [List.filter_cons_of_pos (by simp [held]), List.mapM_cons, read, ih behind, byUser, byUser,
        List.filterMap_cons, rated]
      rfl

theorem byUserPerm {ratings : List (Text × Option Number)} (table : RatingTable ratings) :
    (byUser Vocabulary.users ratings).Perm ratings := by
  have apart : Vocabulary.users.Nodup := by decide
  have listedOnce : (byUser Vocabulary.users ratings).Nodup := by
    refine List.Nodup.filterMap (fun user other entry here there => ?_) apart
    obtain ⟨_, _, rfl⟩ := Option.map_eq_some_iff.mp here
    obtain ⟨_, _, same⟩ := Option.map_eq_some_iff.mp there
    exact (congrArg Prod.fst same).symm
  refine (List.perm_ext_iff_of_nodup listedOnce (List.Nodup.of_map _ table.once)).mpr (fun entry => ?_)
  constructor
  · intro listed
    obtain ⟨user, _, found⟩ := List.mem_filterMap.mp listed
    obtain ⟨rating, rated, rfl⟩ := Option.map_eq_some_iff.mp found
    exact Sequence.lookupMem rated
  · intro member
    refine List.mem_filterMap.mpr ⟨entry.1, table.users entry member, ?_⟩
    rw [Sequence.lookupOnce table.once member]
    rfl

theorem byUserSame {users : List Text} {ratings : List (Text × Option Number)} (apart : users.Nodup)
    (listed : (ratings.map Prod.fst).Sublist users) : byUser users ratings = ratings := by
  generalize keys : ratings.map Prod.fst = names at listed
  induction listed generalizing ratings with
  | slnil => exact (List.map_eq_nil_iff.mp keys).symm
  | @cons names users user listed ih =>
    obtain ⟨alone, behind⟩ := List.nodup_cons.mp apart
    have unrated : ratings.lookup user = none := by
      refine List.lookup_eq_none_iff.mpr (fun entry member => bne_iff_ne.mpr ?_)
      rintro rfl
      exact alone (listed.subset (keys ▸ List.mem_map_of_mem member))
    rw [byUser, List.filterMap_cons, unrated]
    exact ih behind keys
  | @cons_cons names users user listed ih =>
    obtain ⟨alone, behind⟩ := List.nodup_cons.mp apart
    obtain ⟨entry, rest, rfl, rfl, others⟩ := List.map_eq_cons_iff.mp keys
    have elsewhere : byUser users (entry :: rest) = byUser users rest := by
      refine List.filterMap_congr (fun user member => ?_)
      have different : (user == entry.1) = false := beq_eq_false_iff_ne.mpr (fun same => alone (same ▸ member))
      rw [List.lookup_cons, different]
    rw [byUser, List.filterMap_cons, List.lookup_cons_self]
    exact congrArg (List.cons entry) (elsewhere.trans (ih behind others))

theorem ratingsOfCarried {ratings : Ratings} {value : Option Json} (carried : CarriedRatings ratings value)
    (sound : ∀ table, ratings = some table → RatingTable table) :
    ratingsOf value = .ok (ratings.map (byUser Vocabulary.users)) := by
  cases carried with
  | table each => exact congrArg (Except.map some) (byUserRead each (sound _ rfl).real)
  | null => rfl
  | absent => rfl

theorem mediaCarried {members : Members} {record : Media} (normal : record.Normal)
    (carried : MediaCarried members record) :
    media members = .ok { record with ratings := record.ratings.map (byUser Vocabulary.users) } := by
  have kind := kindOfCarried normal.kind carried.kind
  have status := wordOfCarried (by simp [normal.status]) carried.status
  have knownKind : Vocabulary.mediaKinds.contains record.kind = true := List.contains_iff_mem.mpr normal.kind
  have knownStatus : Vocabulary.statuses.contains record.status = true := List.contains_iff_mem.mpr normal.status
  unfold media
  dsimp only
  rw [kind, status, knownKind, knownStatus, ratingsOfCarried carried.ratings normal.ratings,
    requiredText normal.id carried.id, requiredText normal.title carried.title,
    numberOfCarried carried.rating normal.rating, userOfCarried (eitherSpelled carried.creator) normal.creator,
    textOfCarried carried.overview normal.overview, textOfCarried carried.notes normal.notes,
    textOrNoneCarried (eitherSpelled carried.releaseDate) normal.releaseDate,
    listOfCarried carried.genres normal.genres normal.nonempty,
    textOrNoneCarried (eitherSpelled carried.posterPath) normal.posterPath]
  rfl

theorem noteCarried {members : Members} {record : Note} (normal : record.Normal) (carried : NoteCarried members record) :
    note members = .ok record := by
  unfold note
  rw [requiredText normal.id carried.id, textOfCarried carried.title normal.title,
    textOfCarried carried.content normal.content, listOfCarried carried.tags normal.tags normal.nonempty,
    userOfCarried (eitherSpelled carried.creator) normal.creator, flagOfCarried carried.read,
    flagOfCarried carried.archived]
  rfl

theorem placeCarried {members : Members} {record : Place} (sound : record.Sound)
    (carried : PlaceCarried members record) : place members = .ok record := by
  have category := wordOfCarried (by simp [sound.category]) carried.category
  have known : Vocabulary.categories.contains record.category = true := List.contains_iff_mem.mpr sound.category
  unfold place
  dsimp only
  rw [category, if_pos known, requiredText sound.id carried.id, requiredText sound.name carried.name,
    numberOfCarried carried.rating sound.rating, userOfCarried (eitherSpelled carried.creator) sound.creator,
    textOfCarried carried.notes sound.notes, flagOfCarried carried.visited]
  rfl

theorem sameByUser {record : Media} (normal : record.Normal) :
    Media.Same { record with ratings := record.ratings.map (byUser Vocabulary.users) } record := by
  refine ⟨rfl, ?_⟩
  cases held : record.ratings with
  | none => exact .none
  | some table => exact .some (byUserPerm (normal.ratings table held))

theorem keptInOrder {record : Media} (ordered : record.InOrder) :
    record.ratings.map (byUser Vocabulary.users) = record.ratings := by
  cases held : record.ratings with
  | none => rfl
  | some table => exact congrArg some (byUserSame (by decide) (ordered table held))

theorem normalRead (members : Members) :
    (∀ record : Media, record.Normal → MediaCarried members record →
      ∃ read, media members = .ok read ∧ read.Same record ∧ (record.InOrder → read = record)) ∧
    (∀ record : Note, record.Normal → NoteCarried members record → note members = .ok record) ∧
    ∀ record : Place, record.Sound → PlaceCarried members record → place members = .ok record := by
  refine ⟨fun record normal carried => ?_, fun record => noteCarried, fun record => placeCarried⟩
  refine ⟨_, mediaCarried normal carried, sameByUser normal, fun ordered => ?_⟩
  rw [keptInOrder ordered]

theorem normalReadOfSpellings :
    let eight : Number := .real (.finite false (8 * Binary64.unit))
    let film : Media := ⟨"m1".toText, "movie".toText, "Up, and away".toText, some "Z".toText, Vocabulary.queued, none,
      some [("T".toText, some eight), ("Z".toText, none)], [], "see it".toText, some "2009-05".toText,
      ["fun, short".toText], none⟩
    let shared : Members := [("id".toText, .text film.id), ("title".toText, .text film.title), ("rating".toText, .null),
      ("ratings".toText, .object [("Z".toText, .null), ("T".toText, .number eight), ("X".toText, .array [])]),
      ("notes".toText, .text film.notes), ("genres".toText, listJson film.genres), ("pages".toText, .flag true)]
    let camel : Members := [("type".toText, .text film.kind), ("createdBy".toText, .text "Z".toText),
      ("releaseDate".toText, .text "2009-05".toText), ("posterPath".toText, .null)] ++ shared
    let snake : Members := [("media_type".toText, .text film.kind), ("created_by".toText, .text "Z".toText),
      ("release_date".toText, .text "2009-05".toText), ("status".toText, .text film.status)] ++ shared
    let memo : Note := ⟨"n1".toText, [], "milk".toText, [], none, true, false⟩
    let bar : Place := ⟨"p1".toText, "Bar".toText, Vocabulary.otherCategory, [], false, some eight, some "T".toText⟩
    (∃ read, media camel = .ok read ∧ read.Same film) ∧ (∃ read, media snake = .ok read ∧ read.Same film) ∧
      note [("content".toText, .text memo.content), ("read".toText, .flag true), ("id".toText, .text memo.id)] = .ok memo ∧
      place [("id".toText, .text bar.id), ("name".toText, .text bar.name), ("visited".toText, .null),
        ("rating".toText, .number eight), ("created_by".toText, .text "T".toText)] = .ok bar := by
  intro eight film shared camel snake memo bar
  have real : Real (some eight) := numberOfReal (show numberOf (some (.number eight)) = .ok (some eight) from rfl)
  have normal : film.Normal :=
    { id := by decide
      kind := by decide
      title := by decide
      creator := by rintro user ⟨⟩; decide
      status := by decide
      rating := nofun
      ratings := by
        rintro table ⟨⟩
        refine ⟨by decide, by decide, fun entry member => ?_⟩
        rcases List.mem_pair.mp member with rfl | rfl
        · exact real
        · exact nofun
      overview := by decide
      notes := by decide
      releaseDate := by rintro date ⟨⟩; decide
      genres := by decide
      posterPath := nofun
      nonempty := by decide }
  have rated : CarriedRatings film.ratings (get shared "ratings") := by
    refine .table (fun user known => ?_)
    rcases List.mem_pair.mp known with rfl | rfl
    · rfl
    · rfl
  have camelCarried : MediaCarried camel film :=
    ⟨rfl, .first rfl rfl, rfl, .first .written rfl, .absent rfl, .null rfl, rated, .absent rfl, .written,
      .first .written rfl, .written, .first (.null rfl) rfl⟩
  have snakeCarried : MediaCarried snake film :=
    ⟨rfl, .second rfl rfl, rfl, .second rfl .written, .written, .null rfl, rated, .absent rfl, .written,
      .second rfl .written, .written, .second rfl (.absent rfl)⟩
  have plain : memo.Normal :=
    { id := by decide, title := by decide, content := by decide, tags := nofun, creator := nofun, nonempty := nofun }
  have sound : bar.Sound :=
    { id := by decide
      name := by decide
      category := by decide
      notes := by decide
      rating := real
      creator := by rintro user ⟨⟩; decide }
  obtain ⟨first, made, same, _⟩ := (normalRead camel).1 film normal camelCarried
  obtain ⟨second, madeToo, sameToo, _⟩ := (normalRead snake).1 film normal snakeCarried
  refine ⟨⟨first, made, same⟩, ⟨second, madeToo, sameToo⟩, ?_, ?_⟩
  · exact (normalRead _).2.1 memo plain ⟨rfl, .absent rfl, .written, .absent rfl, .first (.absent rfl) rfl, .written,
      .absent rfl⟩
  · exact (normalRead _).2.2 bar sound ⟨rfl, rfl, .absent rfl, .absent rfl, .null rfl, .written, .second rfl .written⟩

end Import
end CollectionSearch
