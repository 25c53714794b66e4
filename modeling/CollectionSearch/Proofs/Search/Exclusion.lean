import CollectionSearch.Proofs.Catalog
import CollectionSearch.Proofs.Match.Ranking
import CollectionSearch.Proofs.Query.Plain
import CollectionSearch.Service.Engine

/-! A word that a line excludes stands in no text of any entity that the search returns. Wherever it stands in the
line it is read as an exclusion, and whichever text of an entity has it, a field of the projected item has it too. -/
namespace CollectionSearch

inductive Entity.HasText : Entity → Text → Prop where
  | mediaTitle (record : Media) : HasText (.media record) record.title
  | overview (record : Media) : HasText (.media record) record.overview
  | mediaNotes (record : Media) : HasText (.media record) record.notes
  | genre (record : Media) (genre : Text) (member : genre ∈ record.genres) : HasText (.media record) genre
  | noteTitle (record : Note) : HasText (.note record) record.title
  | content (record : Note) : HasText (.note record) record.content
  | tag (record : Note) (tag : Text) (member : tag ∈ record.tags) : HasText (.note record) tag
  | placeName (record : Place) : HasText (.place record) record.name
  | placeNotes (record : Place) : HasText (.place record) record.notes
  | category (record : Place) : HasText (.place record) record.category

namespace Text

theorem joinInfix (separator : Text) {part : Text} {parts : List Text} (member : part ∈ parts) :
    part <:+: joinWith separator parts := by
  induction parts with
  | nil => contradiction
  | cons first rest ih =>
    cases rest with
    | nil =>
      rw [List.mem_singleton.mp member]
      exact ⟨[], [], by simp [joinWith]⟩
    | cons second rest =>
      have split : joinWith separator (first :: second :: rest) =
          first ++ separator ++ joinWith separator (second :: rest) := by simp [joinWith, List.intercalate]
      rw [split]
      rcases List.mem_cons.mp member with rfl | later
      · exact ⟨[], separator ++ joinWith separator (second :: rest), by simp⟩
      · exact List.infix_append_of_infix_right (ih later)

structure Mentions (word text : Text) : Prop where
  some : word ≠ []
  full : ∀ c ∈ word, isBlank c = false
  inside : fold word <:+: fold text

theorem mentionsWider {word text wider : Text} (mentions : Mentions word text) (part : text <:+: wider) :
    Mentions word wider := ⟨mentions.some, mentions.full, mentions.inside.trans (foldInfix part)⟩

theorem mentionsTrim {word text : Text} (mentions : Mentions word text) : Mentions word (trim text) :=
  ⟨mentions.some, mentions.full, foldInfixTrim mentions.some mentions.full mentions.inside⟩

theorem mentionsNotNil {word text : Text} (mentions : Mentions word text) : text ≠ [] := by
  intro empty
  have nothing : fold word = [] := List.eq_nil_of_infix_nil (by simpa [empty] using mentions.inside)
  exact mentions.some (foldNilIff.mp nothing)

end Text

theorem mentionsUntitled {word title : Text} (mentions : Text.Mentions word title) :
    Text.Mentions word (orUntitled title) := by
  have trimmed := Text.mentionsTrim mentions
  unfold orUntitled
  split
  · rename_i empty
    exact absurd empty (Text.mentionsNotNil trimmed)
  · rename_i same
    exact same ▸ trimmed

theorem mentionsJoined {word part : Text} {parts : List Text} (mentions : Text.Mentions word part)
    (member : part ∈ parts) : Text.Mentions word (joinParts parts) := by
  have trimmed := Text.mentionsTrim mentions
  refine Text.mentionsWider trimmed (Text.joinInfix _ (List.mem_filter.mpr ⟨List.mem_map_of_mem member, ?_⟩))
  simpa using Text.mentionsNotNil trimmed

namespace Item

theorem mentionsTitle {item : Item} {word : Text} (mentions : Text.Mentions word item.title) :
    item.mentions word = true :=
  (item.mentionsIff word).mpr ⟨_, ⟨Text.mentionsNotNil mentions, .inl rfl⟩, mentions.inside⟩

theorem mentionsContent {item : Item} {word : Text} (mentions : Text.Mentions word item.content) :
    item.mentions word = true :=
  (item.mentionsIff word).mpr ⟨_, ⟨Text.mentionsNotNil mentions, .inr (.inl rfl)⟩, mentions.inside⟩

theorem mentionsLabel {item : Item} {word label : Text} (mentions : Text.Mentions word label)
    (member : label ∈ item.genres ++ item.tags) : item.mentions word = true := by
  have joined := Text.mentionsWider mentions (Text.joinInfix [.char ' '] member)
  refine (item.mentionsIff word).mpr ⟨_, ⟨Text.mentionsNotNil joined, .inr (.inr ⟨?_, rfl⟩)⟩, joined.inside⟩
  rcases List.mem_append.mp member with genre | tag
  · exact .inl (List.ne_nil_of_mem genre)
  · exact .inr (List.ne_nil_of_mem tag)

end Item

namespace Note

theorem mentionsDisplayed {note : Note} {word : Text} (mentions : Text.Mentions word note.title) :
    Text.Mentions word note.displayTitle := by
  have trimmed := Text.mentionsTrim mentions
  unfold displayTitle
  split
  · rename_i empty
    exact absurd empty (Text.mentionsNotNil trimmed)
  · rename_i same
    exact same ▸ trimmed

end Note

theorem Entity.mentionsProjected {entity : Entity} {item : Item} {word text : Text}
    (projected : entity.toItem = .ok item) (has : entity.HasText text) (mentions : Text.Mentions word text) :
    item.mentions word = true := by
  cases has with
  | mediaTitle record =>
    have title := (Media.itemSource projected).title
    exact Item.mentionsTitle (title ▸ mentionsUntitled mentions)
  | overview record =>
    have content := (Media.itemSource projected).content
    exact Item.mentionsContent (content ▸ mentionsJoined mentions List.mem_cons_self)
  | mediaNotes record =>
    have content := (Media.itemSource projected).content
    exact Item.mentionsContent (content ▸ mentionsJoined mentions (List.mem_cons_of_mem _ List.mem_cons_self))
  | genre record genre member =>
    have genres := (Media.itemSource projected).genres
    exact Item.mentionsLabel mentions (List.mem_append_left _ (genres ▸ member))
  | noteTitle record =>
    cases projected
    exact Item.mentionsTitle (Note.mentionsDisplayed mentions)
  | content record =>
    cases projected
    exact Item.mentionsContent mentions
  | tag record tag member =>
    cases projected
    exact Item.mentionsLabel mentions (List.mem_append_right _ member)
  | placeName record =>
    cases projected
    exact Item.mentionsTitle (mentionsUntitled mentions)
  | placeNotes record =>
    cases projected
    exact Item.mentionsContent mentions
  | category record =>
    cases projected
    have some : record.category.isEmpty = false := by simpa using Text.mentionsNotNil mentions
    exact Item.mentionsLabel mentions (by simp [Place.toItem, some])

namespace Parsed

theorem parseExcluded {line word : Text} {before after : List Text} {parsed : Parsed}
    (unquoted : Piece.quote ∉ line) (stands : Text.words line = before ++ (.char '-' :: word) :: after)
    (free : before.getLast? ≠ some Segment.notWord) (ok : parse line = .ok parsed) (some : word ≠ []) :
    Text.lower word ∈ parsed.excluded := by
  obtain ⟨tokens, scanned, rfl⟩ := parseOk.mp ok
  have dashed : CodePoint.char '-' :: word ≠ Segment.notWord := fun same => absurd (List.cons.inj same).1 (by decide)
  have segments : .word (.char '-' :: word) ∈ Segment.ofPieces (Piece.scan line) := by
    rw [Piece.scanWords unquoted, stands, List.map_append, Segment.ofPiecesAppend (Piece.wordsLast free), List.map_cons,
      Segment.ofPiecesWord dashed]
    exact List.mem_append_right _ List.mem_cons_self
  obtain ⟨token, present, read⟩ := Outcome.eachOkOf scanned segments
  cases (Token.ofWordExcluded some).symm.trans read
  have plain : Token.excluded (Text.lower word) ≠ .either := nofun
  have settled : Token.excluded (Text.lower word) ∈ (Clause.ofTokens false tokens).map Clause.token :=
    Clause.clauseOfToken plain present
  obtain ⟨clause, inside, same⟩ := List.mem_map.mp settled
  refine Text.memDistinct.mpr (List.mem_filterMap.mpr ⟨clause, inside, ?_⟩)
  cases clause with
  | excluded text => exact congrArg Option.some (Token.excluded.inj same)
  | term text | alternative text | phrase text | kinds names | filter f => cases same

end Parsed

namespace Engine

theorem searchExcludes {line word : Text} {before after : List Text} (unquoted : Piece.quote ∉ line)
    (stands : Text.words line = before ++ (.char '-' :: word) :: after)
    (free : before.getLast? ≠ some Segment.notWord) (some : word ≠ []) {snapshot : Snapshot} {cap : Option Int}
    {ranked : List Ranked} (found : (⟨snapshot, cap⟩ : Engine).search line = .ok ranked) :
    ∀ entry ∈ ranked, ∀ text, entry.entity.HasText text → ¬ Text.fold word <:+: Text.fold text := by
  intro entry member text has inside
  obtain ⟨parsed, read, each⟩ := Ranking.ofLineEntry found
  obtain ⟨made, relevant⟩ := each entry member
  obtain ⟨_, ⟨item, projected, _⟩, _⟩ := Ranking.ofEntityIff.mp made
  obtain ⟨_, _, scored⟩ := (Ranking.ofEntityScored projected).mp made
  have listed : (.char '-' :: word) ∈ Text.words line := stands ▸ List.mem_append_right _ List.mem_cons_self
  have full := (List.forall_mem_cons.mp (Text.wordsFilled listed).2).2
  have mentioned := Entity.mentionsProjected projected has ⟨some, full, inside⟩
  -- the line looks for the lower case of the word, which folds to the same
  obtain ⟨field, isField, folded⟩ := (item.mentionsIff word).mp mentioned
  rw [← Text.foldLower word] at folded
  have blocked := Relevance.Blocked.excluded _ (Parsed.parseExcluded unquoted stands free read some) field isField folded
  rw [Relevance.scoreBlocked (Parsed.parseEvaluable read) blocked] at scored
  have nothing : 0 = entry.score := Except.ok.inj scored
  omega

theorem searchExcludesOfTags :
    let word := "ΟΔΟΣ".toText
    let before := ["NOT".toText, "x".toText, "zeta".toText, "OR".toText]
    let line := "NOT x zeta OR  -ΟΔΟΣ".toText
    let note (tags : List Text) : Entity := .note ⟨[], "Zeta or Rho".toText, [], tags, none, false, false⟩
    let ranked : List Ranked := [⟨Vocabulary.noteKind, note ["οδός".toText], 85⟩]
    let snapshot : Snapshot := ⟨[], [note ["Ho Οδοσ".toText], note ["οδός".toText]], []⟩
    Piece.quote ∉ line ∧ Text.words line = before ++ (.char '-' :: word) :: [] ∧
    before.getLast? ≠ some Segment.notWord ∧ word ≠ [] ∧
    (⟨snapshot, some 5⟩ : Engine).search line = .ok ranked ∧
    ∀ entry ∈ ranked, ∀ text, entry.entity.HasText text → ¬ Text.fold word <:+: Text.fold text := by
  intro word before line note ranked snapshot
  have unquoted : Piece.quote ∉ line := by decide
  have stands : Text.words line = before ++ (.char '-' :: word) :: [] := by decide +kernel
  have free : before.getLast? ≠ some Segment.notWord := by decide
  have found : (⟨snapshot, some 5⟩ : Engine).search line = .ok ranked := by
    let parsed : Parsed := {
      raw := line, kinds := [], filters := [], phrases := [], groups := [["zeta".toText], ["or".toText]]
      excluded := ["x".toText, "οδος".toText] }
    have read : Parsed.parse line = .ok parsed := Outcome.okOfToOption (by decide +kernel)
    have out : Ranking.ofEntity parsed (note ["Ho Οδοσ".toText]) = .ok ⟨Vocabulary.noteKind, note ["Ho Οδοσ".toText], 0⟩ :=
      (Ranking.ofEntityScored rfl).mpr ⟨rfl, rfl, Outcome.okOfToOption (by decide +kernel)⟩
    have kept : Ranking.ofEntity parsed (note ["οδός".toText]) = .ok ranked[0] :=
      (Ranking.ofEntityScored rfl).mpr ⟨rfl, rfl, Outcome.okOfToOption (by decide +kernel)⟩
    have made : Ranking.full parsed snapshot.entities = .ok ranked :=
      Outcome.bindOk.mpr ⟨_, Outcome.eachOk.mpr (.cons out (.cons kept .nil)),
        congrArg Except.ok (List.mergeSort_singleton _)⟩
    exact Ranking.ofLineCut read (by decide) snapshot made (some 5)
  exact ⟨unquoted, stands, free, by decide, found, searchExcludes unquoted stands free (by decide) found⟩

end Engine
end CollectionSearch
