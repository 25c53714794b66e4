import CollectionSearch.Proofs.Import.Normal
import CollectionSearch.Proofs.Json
import CollectionSearch.Proofs.Text.Splitting

/-! The two spellings of a list of texts. With commas between them blank texts are left out after trimming, in a list
only empty ones are left out before it; so the spellings agree unless a text is blank and not empty, and only such a
text in a list puts an empty one into a record. -/
namespace CollectionSearch.Import

open Json (Members)

abbrev comma : CodePoint := .char ','

theorem listOfJoined {xs : List Text} (free : ∀ x ∈ xs, comma ∉ x) :
    listOf (some (.text (Text.joinWith [comma] xs))) = (xs.map Text.trim).filter (!·.isEmpty) := by
  cases xs with
  | nil => rfl
  | cons x rest => rw [listOf, Text.splitOnJoined (List.cons_ne_nil x rest) free]

theorem listOfListed (xs : List Text) :
    listOf (some (listJson xs)) = (xs.filter (!·.isEmpty)).map Text.trim := by
  rw [listJson, listOf, List.filter_map, List.map_map]
  rfl

theorem trimmedSome (xs : List Text) :
    (xs.map Text.trim).filter (!·.isEmpty) = (xs.filter (!Text.isBlankOnly ·)).map Text.trim := by
  have same : (fun text : Text => !text.isEmpty) ∘ Text.trim = (!Text.isBlankOnly ·) := by
    funext x
    rw [Function.comp_apply, Bool.not_inj_iff, Bool.eq_iff_iff, List.isEmpty_iff, Text.trimNilIff]
  rw [List.filter_map, same]

theorem listedFilled (xs : List Text) :
    ((xs.filter (!·.isEmpty)).map Text.trim).filter (!·.isEmpty) = (xs.map Text.trim).filter (!·.isEmpty) := by
  rw [trimmedSome, trimmedSome, List.filter_filter]
  congr 1
  refine List.filter_congr (fun x _ => ?_)
  cases x with
  | nil => rfl
  | cons c rest => simp

theorem spellingsAgree {xs : List Text} (free : ∀ x ∈ xs, comma ∉ x) :
    listOf (some (listJson xs)) = listOf (some (.text (Text.joinWith [comma] xs))) ↔
      ∀ x ∈ xs, Text.isBlankOnly x = true → x = [] := by
  rw [listOfJoined free, listOfListed, ← listedFilled, eq_comm, List.filter_eq_self, List.forall_mem_map]
  constructor
  · intro some x member blank
    by_contra filled
    have kept : x ∈ xs.filter (!·.isEmpty) := List.mem_filter.mpr ⟨member, by simpa using filled⟩
    simpa [(Text.trimNilIff x).mpr blank] using some x kept
  · intro none x kept
    obtain ⟨member, filled⟩ := List.mem_filter.mp kept
    have seen : ¬ Text.isBlankOnly x = true := fun blank => by simp [none x member blank] at filled
    simpa [Text.trimNilIff] using seen

def HoldsBlank (value : Option Json) : Prop :=
  ∃ items text, value = some (.array items) ∧ .text text ∈ items ∧ text ≠ [] ∧ Text.isBlankOnly text = true

theorem listOfEmpty {value : Option Json} : [] ∈ listOf value ↔ HoldsBlank value := by
  constructor
  · intro empty
    unfold listOf at empty
    split at empty
    · rename_i items
      obtain ⟨item, kept, trimmed⟩ := List.mem_map.mp empty
      obtain ⟨member, present⟩ := List.mem_filter.mp kept
      obtain ⟨text, rfl, blank⟩ := Json.displayBlank ((Text.trimNilIff item.display).mp trimmed)
      exact ⟨items, text, rfl, member, by simpa [Json.isPresent] using present, blank⟩
    · simp at empty
    · cases empty
  · rintro ⟨items, text, rfl, member, some, blank⟩
    have present : Json.isPresent (.text text) = true := by simpa [Json.isPresent] using some
    have trimmed : Text.trim (Json.text text).display = [] := (Text.trimNilIff text).mpr blank
    exact List.mem_map.mpr ⟨.text text, List.mem_filter.mpr ⟨member, present⟩, trimmed⟩

structure Cleaned (value : Option Json) (texts : List Text) : Prop where
  trimmed : ∀ text ∈ texts, Text.Trimmed text
  empty : [] ∈ texts ↔ HoldsBlank value

theorem listOfCleaned (value : Option Json) : Cleaned value (listOf value) := ⟨listOfTrimmed value, listOfEmpty⟩

theorem listsSpelled {xs : List Text} (free : ∀ x ∈ xs, comma ∉ x) :
    let listed := listOf (some (listJson xs))
    let joined := listOf (some (.text (Text.joinWith [comma] xs)))
    joined = (xs.filter (!Text.isBlankOnly ·)).map Text.trim ∧
    listed = (xs.filter (!·.isEmpty)).map Text.trim ∧
    joined = listed.filter (!·.isEmpty) ∧
    (listed = joined ↔ ∀ x ∈ xs, Text.isBlankOnly x = true → x = []) ∧
    (∀ members record, media members = .ok record → Cleaned (get members "genres") record.genres) ∧
    ∀ members record, note members = .ok record → Cleaned (get members "tags") record.tags := by
  refine ⟨?_, listOfListed xs, ?_, spellingsAgree free, fun members record made => ?_, fun members record made => ?_⟩
  · rw [listOfJoined free, trimmedSome]
  · rw [listOfJoined free, listOfListed, listedFilled]
  · exact (mediaSource made).genres ▸ listOfCleaned _
  · exact (noteSource made).tags ▸ listOfCleaned _

theorem listsSpelledOfPadded :
    let xs := [" a b".toText, [], "c\u3000".toText]
    let listed := listOf (some (listJson xs))
    let joined := listOf (some (.text (Text.joinWith [comma] xs)))
    (∀ x ∈ xs, comma ∉ x) ∧ joined = ["a b".toText, "c".toText] ∧ listed = joined ∧
    ∃ record, note [("id".toText, .text "1".toText), ("tags".toText, listJson xs)] = .ok record ∧
      Cleaned (some (listJson xs)) record.tags := by
  intro xs listed joined
  have free : ∀ x ∈ xs, comma ∉ x := by decide
  obtain ⟨filled, _, _, agree, _, notes⟩ := listsSpelled free
  refine ⟨free, filled.trans (by decide), agree.mpr (by decide), _, rfl, ?_⟩
  exact notes [("id".toText, .text "1".toText), ("tags".toText, listJson xs)] _ rfl

theorem listsBlank :
    let xs := ["a".toText, " ".toText]
    (∀ x ∈ xs, comma ∉ x) ∧ listOf (some (listJson xs)) = ["a".toText, []] ∧
    listOf (some (.text (Text.joinWith [comma] xs))) = ["a".toText] ∧
    ∃ record, note [("id".toText, .text "1".toText), ("tags".toText, listJson xs)] = .ok record ∧
      record.tags = ["a".toText, []] :=
  ⟨by decide, by decide, by decide, _, rfl, by decide⟩

end CollectionSearch.Import
