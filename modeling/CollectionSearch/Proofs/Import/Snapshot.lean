import CollectionSearch.Proofs.Import.Line

/-! What an import of a directory holds: entities that a conversion made, so that every rating among them is real. -/
namespace CollectionSearch

def Entity.Imported : Entity → Prop
  | .media record => Import.RealRatings record
  | .note _ => True
  | .place record => Import.Real record.rating
  | .unsupported _ => False

namespace Import
variable {α : Type} {limit : Nat} {label : Text} {convert : Json.Members → Except Fault α}
  {oversized : Json.Members → Prop}

theorem ofOptionalRecords
    (bounded : ∀ members fault, convert members = .error fault → Bounded (oversized members) fault)
    {content : Option ByteArray} {loaded : Loaded α} (ok : ofOptional limit label convert content = .ok loaded) :
    ∀ record ∈ loaded.records, ∃ members, convert members = .ok record := by
  cases content with
  | none =>
    cases ok
    simp
  | some bytes =>
    simp only [ofOptional, ofBytes] at ok
    split at ok
    · exact accountedRecords (((ofTextExplained bounded _ label _).loads loaded).mp ok)
    · obtain ⟨_, _, refused⟩ := Outcome.bindOk.mp ok
      cases refused

theorem ofExportOk {files : Export} {collections : Collections} : ofExport limit files = .ok collections ↔
    (∃ content, files.media = .ok content ∧ ofOptional limit mediaLabel media content = .ok collections.media) ∧
    (∃ content, files.notes = .ok content ∧ ofOptional limit noteLabel note content = .ok collections.notes) ∧
    ∃ content, files.places = .ok content ∧ ofOptional limit placeLabel place content = .ok collections.places := by
  constructor
  · intro ok
    obtain ⟨media, mediaFound, ok⟩ := Outcome.bindOk.mp ok
    obtain ⟨medias, mediaRead, ok⟩ := Outcome.bindOk.mp ok
    obtain ⟨note, noteFound, ok⟩ := Outcome.bindOk.mp ok
    obtain ⟨notes, noteRead, ok⟩ := Outcome.bindOk.mp ok
    obtain ⟨place, placeFound, ok⟩ := Outcome.bindOk.mp ok
    obtain ⟨places, placeRead, ok⟩ := Outcome.bindOk.mp ok
    cases ok
    exact ⟨⟨media, mediaFound, mediaRead⟩, ⟨note, noteFound, noteRead⟩, ⟨place, placeFound, placeRead⟩⟩
  · rintro ⟨⟨media, mediaFound, mediaRead⟩, ⟨note, noteFound, noteRead⟩, ⟨place, placeFound, placeRead⟩⟩
    simp only [ofExport, mediaFound, mediaRead, noteFound, noteRead, placeFound, placeRead, bind, Except.bind, pure,
      Except.pure]

theorem ofDirectoryOk {host : Host} {directory : Text} {collections : Collections} :
    ofDirectory host directory = .ok collections ↔
      (∃ entries, host.find (Path.ofText directory) = .node (.directory entries)) ∧
      ofExport host.nesting (exportAt host (Path.ofText directory)) = .ok collections := by
  unfold ofDirectory
  dsimp only
  split
  · rename_i entries found
    exact ⟨fun ok => ⟨⟨entries, found⟩, ok⟩, fun both => both.2⟩
  · rename_i found
    exact ⟨nofun, fun both => by obtain ⟨⟨entries, other⟩, _⟩ := both; cases found.symm.trans other⟩
  · rename_i other _
    exact ⟨nofun, fun both => by obtain ⟨⟨entries, found⟩, _⟩ := both; exact absurd found (other entries)⟩

inductive Unreadable : Fault → Prop where
  | isDirectory (path : Text) : Unreadable (.isDirectory path)
  | nameTooLong (path : Text) : Unreadable (.nameTooLong path)
  | undecodable (refusal : Utf8.Refusal) : Unreadable (.undecodable refusal)
  | nestedTooDeeply (inArray : Bool) : Unreadable (.nestedTooDeeply inArray)
  | wholeTooLarge : Unreadable .wholeTooLarge

theorem contentAtError {host : Host} {path : Path} {fault : Fault}
    (failed : contentAt host path = .error fault) : Unreadable fault := by
  unfold contentAt at failed
  split at failed <;> cases failed
  · exact .isDirectory _
  · exact .nameTooLong _

theorem ofLineError
    (bounded : ∀ members fault, convert members = .error fault → Bounded (oversized members) fault)
    {lines : List Text} {fault : Fault} (failed : lines.mapM (Outcome.ofLine limit convert) = .error fault) :
    Unreadable fault := by
  obtain ⟨line, _, cause⟩ := Outcome.eachError failed
  cases ofLineEnds bounded cause with
  | nested inArray => exact .nestedTooDeeply inArray
  | tooLarge => exact .wholeTooLarge

theorem ofOptionalError
    (bounded : ∀ members fault, convert members = .error fault → Bounded (oversized members) fault)
    {content : Option ByteArray} {fault : Fault} (failed : ofOptional limit label convert content = .error fault) :
    Unreadable fault := by
  cases content with
  | none => cases failed
  | some bytes =>
    simp only [ofOptional, ofBytes] at failed
    split at failed
    · exact ofLineError bounded (Outcome.mapError.mp failed)
    · rcases Outcome.bindError.mp failed with early | ⟨_, _, late⟩
      · exact ofLineError bounded early
      · cases late
        exact .undecodable _

theorem ofExportError {host : Host} {path : Path} {fault : Fault}
    (failed : ofExport limit (exportAt host path) = .error fault) : Unreadable fault := by
  rcases Outcome.bindError.mp failed with found | ⟨_, _, failed⟩
  · exact contentAtError found
  rcases Outcome.bindError.mp failed with read | ⟨_, _, failed⟩
  · exact ofOptionalError (fun _ _ => mediaError) read
  rcases Outcome.bindError.mp failed with found | ⟨_, _, failed⟩
  · exact contentAtError found
  rcases Outcome.bindError.mp failed with read | ⟨_, _, failed⟩
  · exact ofOptionalError (fun _ _ => noteError) read
  rcases Outcome.bindError.mp failed with found | ⟨_, _, failed⟩
  · exact contentAtError found
  rcases Outcome.bindError.mp failed with read | ⟨_, _, failed⟩
  · exact ofOptionalError (fun _ _ => placeError) read
  · cases failed

def Missing (host : Host) (directory : Text) : Prop :=
  host.find (Path.ofText directory) = .nothing ∨
    ∃ content, host.find (Path.ofText directory) = .node (.file content)

theorem ofDirectoryMissing {host : Host} {directory : Text} (absent : Missing host directory) :
    ofDirectory host directory = .error (.missingDirectory (Path.ofText directory).text) := by
  rcases absent with found | ⟨content, found⟩ <;> simp only [ofDirectory, found]

theorem ofDirectoryError {host : Host} {directory : Text} {fault : Fault}
    (failed : ofDirectory host directory = .error fault) :
    (Missing host directory ∧ fault = .missingDirectory (Path.ofText directory).text) ∨
    (¬ Missing host directory ∧ Unreadable fault) := by
  unfold ofDirectory at failed
  unfold Missing
  cases found : host.find (Path.ofText directory) with
  | nothing =>
    simp only [found] at failed
    cases failed
    exact .inl ⟨.inl rfl, rfl⟩
  | nameTooLong =>
    simp only [found] at failed
    cases failed
    exact .inr ⟨by simp, .nameTooLong _⟩
  | node node =>
    cases node with
    | file content =>
      simp only [found] at failed
      cases failed
      exact .inl ⟨.inr ⟨content, rfl⟩, rfl⟩
    | directory entries =>
      simp only [found] at failed
      exact .inr ⟨by simp, ofExportError failed⟩

theorem ofDirectoryMade {host : Host} {directory : Text} {collections : Collections}
    (ok : ofDirectory host directory = .ok collections) :
    (∀ record ∈ collections.media.records, ∃ members, media members = .ok record) ∧
    (∀ record ∈ collections.notes.records, ∃ members, note members = .ok record) ∧
    ∀ record ∈ collections.places.records, ∃ members, place members = .ok record := by
  obtain ⟨⟨_, _, medias⟩, ⟨_, _, notes⟩, ⟨_, _, places⟩⟩ := ofExportOk.mp (ofDirectoryOk.mp ok).2
  exact ⟨ofOptionalRecords (fun _ _ => mediaError) medias, ofOptionalRecords (fun _ _ => noteError) notes,
    ofOptionalRecords (fun _ _ => placeError) places⟩

theorem ofDirectoryEach {host : Host} {directory : Text} {collections : Collections}
    (ok : ofDirectory host directory = .ok collections) {holds : Entity → Prop}
    (medias : ∀ members record, media members = .ok record → holds (.media record))
    (notes : ∀ members record, note members = .ok record → holds (.note record))
    (places : ∀ members record, place members = .ok record → holds (.place record)) :
    ∀ entity ∈ collections.snapshot.entities, holds entity := by
  obtain ⟨mediaMade, noteMade, placeMade⟩ := ofDirectoryMade ok
  intro entity member
  simp only [Snapshot.entities, Collections.snapshot, List.mem_append, List.mem_map] at member
  rcases member with (⟨record, held, rfl⟩ | ⟨record, held, rfl⟩) | ⟨record, held, rfl⟩
  · obtain ⟨members, made⟩ := mediaMade record held
    exact medias members record made
  · obtain ⟨members, made⟩ := noteMade record held
    exact notes members record made
  · obtain ⟨members, made⟩ := placeMade record held
    exact places members record made

theorem ofDirectoryImported {host : Host} {directory : Text} {collections : Collections}
    (ok : ofDirectory host directory = .ok collections) :
    ∀ entity ∈ collections.snapshot.entities, entity.Imported :=
  ofDirectoryEach ok (fun _ _ => mediaReal) (fun _ _ _ => trivial) (fun _ _ => placeReal)

end Import
end CollectionSearch
