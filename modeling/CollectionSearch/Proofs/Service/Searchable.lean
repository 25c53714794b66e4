import CollectionSearch.Proofs.Catalog
import CollectionSearch.Proofs.Import.Snapshot
import CollectionSearch.Proofs.Match.Ranking
import CollectionSearch.Proofs.Number.Numeral
import CollectionSearch.Service.Server

/-! Searches over what an import made. Each of them is answered, and each result shown, unless the release date of a
record starts with digits in the wider sense of which one has no value. -/
namespace CollectionSearch
namespace Media

def dateHead (media : Media) : Text := (Text.trim (media.releaseDate.getD [])).take 4

structure Dated (media : Media) : Prop where
  decimal : (∀ c ∈ media.dateHead, Text.isDigit c = true) → ∀ c ∈ media.dateHead, Text.isDecimal c = true

theorem dateHeadShort (media : Media) : media.dateHead.length ≤ Fault.digitLimit := by
  have taken : media.dateHead.length ≤ 4 := List.length_take_le _ _
  exact Nat.le_trans taken (by decide)

theorem yearRead {media : Media} (filled : media.dateHead ≠ [])
    (digits : ∀ c ∈ media.dateHead, Text.isDigit c = true) :
    media.releaseYear = (some ∘ .whole) <$> Number.wholeOfDigits media.dateHead := by
  have all : media.dateHead.all Text.isDigit = true := List.all_eq_true.mpr digits
  have row : ¬ (media.dateHead.isEmpty || !media.dateHead.all Text.isDigit) = true := by simp [filled, all]
  exact if_neg row

theorem yearNone {media : Media} (other : media.dateHead ≠ [] → ¬ ∀ c ∈ media.dateHead, Text.isDigit c = true) :
    media.releaseYear = .ok none := by
  have plain : (media.dateHead.isEmpty || !media.dateHead.all Text.isDigit) = true := by
    by_cases empty : media.dateHead = []
    · simp [empty]
    · simpa [empty] using other empty
  exact if_pos plain

theorem yearIff {media : Media} : (∃ year, media.releaseYear = .ok year) ↔ media.Dated := by
  have short := media.dateHeadShort
  by_cases row : media.dateHead ≠ [] ∧ ∀ c ∈ media.dateHead, Text.isDigit c = true
  · obtain ⟨filled, digits⟩ := row
    rw [yearRead filled digits]
    constructor
    · rintro ⟨year, ok⟩
      refine ⟨fun _ c member => ?_⟩
      by_contra other
      have failed := Number.wholeOfOthers short ⟨c, member, by simpa using other⟩
      obtain ⟨n, read, _⟩ := Outcome.mapOk.mp ok
      cases failed.symm.trans read
    · rintro ⟨decimal⟩
      have read := Number.wholeOfDecimals filled (decimal digits)
      rw [if_neg (Nat.not_lt.mpr short)] at read
      exact ⟨_, Outcome.mapOk.mpr ⟨_, read, rfl⟩⟩
  · rw [yearNone (fun filled digits => row ⟨filled, digits⟩)]
    refine ⟨fun _ => ⟨fun digits => ?_⟩, fun _ => ⟨_, rfl⟩⟩
    by_cases empty : media.dateHead = []
    · simp [empty]
    · exact absurd ⟨empty, digits⟩ row

theorem ratingByReal {media : Media} (real : Import.RealRatings media) {user : Text} {rating : Number}
    (found : media.ratingBy? user = some rating) : ∃ x, rating = .real x := by
  simp only [ratingBy?, bind, Option.bind_eq_some_iff] at found
  obtain ⟨ratings, held, entry, listed, same⟩ := found
  have loaded := real.own ratings held _ (Sequence.lookupMem listed)
  cases rating with
  | real x => exact ⟨x, rfl⟩
  | whole n => exact absurd same (loaded n)

theorem displayReal {media : Media} (real : Import.RealRatings media) :
    ∃ rating, media.displayRating = .ok rating ∧ Import.Real rating := by
  have given : ∀ rating ∈ Vocabulary.users.filterMap media.ratingBy?, ∃ x, rating = .real x := by
    intro rating member
    obtain ⟨user, _, found⟩ := List.mem_filterMap.mp member
    exact ratingByReal real found
  unfold displayRating
  split
  · exact ⟨_, rfl, real.shared⟩
  · rename_i one same
    obtain ⟨x, rfl⟩ := given one (by simp [same])
    exact ⟨_, rfl, nofun⟩
  · rename_i one two rest same
    obtain ⟨x, rfl⟩ := given one (by simp [same])
    obtain ⟨y, rfl⟩ := given two (by simp [same])
    exact ⟨_, rfl, nofun⟩

end Media

def Entity.Dated : Entity → Prop
  | .media record => record.Dated
  | _ => True

namespace Entity

theorem toItemIff {entity : Entity} (imported : entity.Imported) :
    (∃ item, entity.toItem = .ok item) ↔ entity.Dated := by
  cases entity with
  | media record =>
    obtain ⟨rating, shown, _⟩ := Media.displayReal imported
    refine Iff.trans ?_ Media.yearIff
    constructor
    · rintro ⟨item, made⟩
      exact ⟨item.year, (Media.itemSource made).year⟩
    · rintro ⟨year, read⟩
      exact Media.itemFromSources shown read
  | note record | place record => exact ⟨fun _ => trivial, fun _ => ⟨_, rfl⟩⟩
  | unsupported value => exact imported.elim

end Entity

namespace Row

theorem ratingOfError {intake : Intake} {rating : Option Number} {fault : Fault}
    (failed : ratingOf intake rating = .error fault) :
    ∃ n message, rating = some (.whole n) ∧ Binary64.ofInt? n = none ∧ fault = .refusedRating message := by
  cases rating with
  | none => cases failed
  | some rating =>
    cases rating with
    | real x => cases failed
    | whole n =>
      cases near : Binary64.ofInt? n with
      | none =>
        cases taken : intake.ofWhole n with
        | ok x => simp [ratingOf, taken, Except.map, Except.mapError] at failed
        | error message =>
          refine ⟨n, message, rfl, near, ?_⟩
          simpa [ratingOf, taken, Except.map, Except.mapError] using failed.symm
      | some x => simp [ratingOf, intake.nearest n x near, Except.map, Except.mapError] at failed

theorem ratingOfReal (intake : Intake) {rating : Option Number} (real : Import.Real rating) :
    ∃ shown, ratingOf intake rating = .ok shown := by
  cases outcome : ratingOf intake rating with
  | ok shown => exact ⟨shown, rfl⟩
  | error fault =>
    obtain ⟨n, _, rfl, _⟩ := ratingOfError outcome
    exact absurd rfl (real n)

theorem ofRankedDated (intake : Intake) {entry : Ranked} (imported : entry.entity.Imported)
    (dated : entry.entity.Dated) : ∃ row, ofRanked intake entry = .ok row := by
  obtain ⟨kind, entity, score⟩ := entry
  obtain ⟨item, projected⟩ := (Entity.toItemIff imported).mpr dated
  cases entity with
  | media record =>
    obtain ⟨rating, displayed, real⟩ := Media.displayReal imported
    obtain ⟨shown, rated⟩ := ratingOfReal intake real
    obtain ⟨year, read⟩ := Media.yearIff.mpr dated
    simp [ofRanked, projected, displayed, rated, read, bind, Except.bind, pure, Except.pure]
  | note record => exact ⟨_, rfl⟩
  | place record =>
    obtain ⟨shown, rated⟩ := ratingOfReal intake imported
    simp [ofRanked, projected, rated, bind, Except.bind, pure, Except.pure]
  | unsupported value => exact imported.elim

end Row

namespace Engine

def Answers (engine : Engine) (intake : Intake) (line : Text) : Prop :=
  ∃ ranked, engine.search line = .ok ranked ∧ ∀ entry ∈ ranked, ∃ row, Row.ofRanked intake entry = .ok row

theorem mediaDated (collections : Import.Collections) :
    (∀ entity ∈ collections.snapshot.entities, entity.Dated) ↔ ∀ record ∈ collections.media.records, record.Dated := by
  simp [Snapshot.entities, Import.Collections.snapshot, or_imp, forall_and, Entity.Dated]

theorem importSearchable {host : Host} {directory : Text} {collections : Import.Collections}
    (loaded : Import.ofDirectory host directory = .ok collections) {line : Text} {parsed : Parsed}
    (read : Parsed.parse line = .ok parsed) (cap : Option Int) (intake : Intake) :
    (⟨collections.snapshot, cap⟩ : Engine).Answers intake line ↔
      parsed.hasCriteria = false ∨ ∀ record ∈ collections.media.records, record.Dated := by
  have imported := Import.ofDirectoryImported loaded
  rw [← mediaDated]
  constructor
  · rintro ⟨ranked, found, _⟩
    cases asks : parsed.hasCriteria with
    | false => exact Or.inl rfl
    | true =>
      refine Or.inr (fun entity member => ?_)
      simp only [search, Ranking.ofLine, read, Ranking.ofParsed, asks, bind, Except.bind, if_true] at found
      obtain ⟨entries, full, _⟩ := Outcome.mapOk.mp found
      exact (Entity.toItemIff (imported entity member)).mp (Ranking.fullProjects full entity member)
  · intro sound
    cases asks : parsed.hasCriteria with
    | false =>
      have empty : search ⟨collections.snapshot, cap⟩ line = .ok [] := by
        simp [search, Ranking.ofLine, read, Ranking.ofParsed, asks, bind, Except.bind]
      exact ⟨[], empty, by simp⟩
    | true =>
      have dated := sound.resolve_left (by simp [asks])
      obtain ⟨ranked, _, full⟩ := Ranking.fullPlaced (Parsed.parseEvaluable read)
        (fun entity member => (Entity.toItemIff (imported entity member)).mpr (dated entity member))
      refine ⟨_, Ranking.ofLineCut read asks collections.snapshot full cap, fun entry member => ?_⟩
      have inside := Ranking.fullMem full (Ranking.upToMem cap member)
      exact Row.ofRankedDated intake (imported _ inside) (dated _ inside)

theorem importSearchableOfYear :
    let content := "\x7b\"id\": \"m\", \"type\": \"movie\", \"title\": \"T\", \"releaseDate\": \"2005\"\x7d\n"
    let host := Host.standard (.directory [("snap".toText, .directory [("media.jsonl".toText, .file content.toUTF8)])])
    let line := "t".toText
    let parsed : Parsed := {
      raw := line, kinds := [], filters := [], phrases := [], groups := [[line]], excluded := [] }
    ∃ collections, Import.ofDirectory host "snap".toText = .ok collections ∧ Parsed.parse line = .ok parsed ∧
      (∀ record ∈ collections.media.records, record.Dated) ∧
      (⟨collections.snapshot, none⟩ : Engine).Answers (.refusing (fun _ => [])) line := by
  intro content host line parsed
  have read : Parsed.parse line = .ok parsed := Outcome.okOfToOption (by decide +kernel)
  have records : (Import.ofDirectory host "snap".toText).toOption.map (·.media.records.map Media.dateHead) =
    some ["2005".toText] := by decide +kernel
  obtain ⟨collections, found, heads⟩ := Option.map_eq_some_iff.mp records
  have loaded := Outcome.okOfToOption found
  have dated : ∀ record ∈ collections.media.records, record.Dated := by
    intro record member
    have head : record.dateHead = "2005".toText :=
      List.mem_singleton.mp (heads ▸ List.mem_map_of_mem member)
    exact ⟨fun _ => by rw [head]; decide +kernel⟩
  exact ⟨collections, loaded, read, dated, (importSearchable loaded read none _).mpr (Or.inr dated)⟩

theorem importUndated :
    let content := "\x7b\"id\": \"m\", \"type\": \"movie\", \"title\": \"T\", \"releaseDate\": \"²005\"\x7d\n"
    let host := Host.standard (.directory [("snap".toText, .directory [("media.jsonl".toText, .file content.toUTF8)])])
    (∃ parsed, Parsed.parse "t".toText = .ok parsed) ∧
    ∃ collections, Import.ofDirectory host "snap".toText = .ok collections ∧
      ∃ fault, (Engine.ofSnapshot collections.snapshot).search "t".toText = .error fault ∧
        fault.message = "invalid literal for int() with base 10: '²005'".toText := by
  intro content host
  obtain ⟨parsed, read⟩ := Option.isSome_iff_exists.mp
    (by decide +kernel : (Parsed.parse "t".toText).toOption.isSome = true)
  have some : (Import.ofDirectory host "snap".toText).toOption.isSome = true := by decide +kernel
  obtain ⟨collections, found⟩ := Option.isSome_iff_exists.mp some
  have loaded := Outcome.okOfToOption found
  refine ⟨⟨parsed, Outcome.okOfToOption read⟩, collections, loaded, ?_⟩
  have searched : ∃ fault, (Import.ofDirectory host "snap".toText >>= fun collections =>
      (Engine.ofSnapshot collections.snapshot).search "t".toText) = .error fault ∧
      fault.message = "invalid literal for int() with base 10: '²005'".toText :=
    Import.errorOfMessage (by decide +kernel)
  rw [loaded] at searched
  exact searched

end Engine
end CollectionSearch
