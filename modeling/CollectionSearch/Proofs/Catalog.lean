import CollectionSearch.Catalog
import CollectionSearch.Proofs.Outcome
import CollectionSearch.Proofs.Text.Trimming

/-! Items by what they stand for. A year is a whole number, and every title says something: an entity is shown by
its own name, a note without one by the start of the first line of its content, and the placeholder stands only
where there is nothing else to show. -/
namespace CollectionSearch
namespace Media

structure ItemSource (record : Media) (item : Item) : Prop where
  id : item.id = record.id
  kind : item.kind = record.kind
  title : item.title = orUntitled record.title
  content : item.content = joinParts [record.overview, record.notes]
  status : item.status = some record.status
  rating : record.displayRating = .ok item.rating
  year : record.releaseYear = .ok item.year
  creator : item.creator = record.creator
  genres : item.genres = record.genres

theorem itemSource {record : Media} {item : Item} (made : record.toItem = .ok item) : ItemSource record item := by
  obtain ⟨rating, rated, made⟩ := Outcome.bindOk.mp made
  obtain ⟨year, read, made⟩ := Outcome.bindOk.mp made
  cases made
  exact ⟨rfl, rfl, rfl, rfl, rfl, rated, read, rfl, rfl⟩

theorem itemFromSources {record : Media} {rating year : Option Number} (rated : record.displayRating = .ok rating)
    (read : record.releaseYear = .ok year) : ∃ item, record.toItem = .ok item :=
  ⟨_, Outcome.bindOk.mpr ⟨rating, rated, Outcome.bindOk.mpr ⟨year, read, rfl⟩⟩⟩

theorem releaseYearWhole {record : Media} {year : Number} (read : record.releaseYear = .ok (some year)) :
    ∃ n, year = .whole n := by
  unfold releaseYear at read
  dsimp only at read
  split at read
  · cases read
  · obtain ⟨n, _, same⟩ := Outcome.mapOk.mp read
    cases same
    exact ⟨n, rfl⟩

end Media

theorem orUntitledFilled (title : Text) : Text.Filled (orUntitled title) := by
  unfold orUntitled
  split
  · exact Text.trimFilled (by decide : Text.trim untitled = untitled) (by decide)
  · rename_i c rest same
    exact Text.trimFilled same (List.cons_ne_nil c rest)

theorem Note.displayTitleFilled (note : Note) : Text.Filled note.displayTitle := by
  unfold displayTitle
  split
  · exact orUntitledFilled _
  · rename_i c rest same
    exact Text.trimFilled same (List.cons_ne_nil c rest)

namespace Entity

theorem toItemTitled {entity : Entity} {item : Item} (made : entity.toItem = .ok item) : Text.Filled item.title := by
  cases entity with
  | media record => exact (Media.itemSource made).title ▸ orUntitledFilled record.title
  | note record =>
    cases made
    exact record.displayTitleFilled
  | place record =>
    cases made
    exact orUntitledFilled record.name
  | unsupported value => cases made

theorem toItemYear {entity : Entity} {item : Item} (made : entity.toItem = .ok item) {year : Number}
    (shown : item.year = some year) : ∃ n, year = .whole n := by
  cases entity with
  | media record => exact Media.releaseYearWhole (shown ▸ (Media.itemSource made).year)
  | note record | place record =>
    cases made
    cases shown
  | unsupported value => cases made

end Entity
namespace Text

structure FirstLine (text line : Text) : Prop where
  single : ∀ c ∈ line, isLineEnd c = false
  ends : ∃ rest, text = line ++ rest ∧ ∀ c, rest.head? = some c → isLineEnd c = true

theorem firstLineTaken (text : Text) : FirstLine text (text.takeWhile (!isLineEnd ·)) where
  single c member := by simpa using List.mem_takeWhile_imp member
  ends := by
    refine ⟨text.dropWhile (!isLineEnd ·), List.takeWhile_append_dropWhile.symm, fun c starts => ?_⟩
    have stops := List.head?_dropWhile_not (!isLineEnd ·) text
    rw [starts] at stops
    simpa using stops

theorem firstLineUnique {text line : Text} (first : FirstLine text line) : text.takeWhile (!isLineEnd ·) = line := by
  obtain ⟨single, rest, rfl, ends⟩ := first
  have kept : line.takeWhile (!isLineEnd ·) = line :=
    List.takeWhile_eq_self_iff.mpr (fun c member => by simp [single c member])
  cases rest with
  | nil => rw [List.append_nil, kept]
  | cons c more => rw [Sequence.takeWhileStopped (by simp [ends c rfl]), kept]

theorem firstLineStarts {text line : Text} (filled : Filled text) (first : FirstLine text line) :
    ∃ c rest, line = c :: rest ∧ isBlank c = false := by
  obtain ⟨_, rest, split, ends⟩ := first
  obtain ⟨c, more, shape⟩ := List.exists_cons_of_ne_nil filled.some
  have full := filled.trimmed.first c (by rw [shape]; rfl)
  cases line with
  | nil =>
    have blank := lineEndBlank (ends c (by rw [← List.nil_append rest, ← split, shape]; rfl))
    rw [full] at blank
    contradiction
  | cons d others =>
    have same : c = d := (List.cons.inj (shape.symm.trans split)).1
    exact ⟨d, others, rfl, same ▸ full⟩

end Text

theorem orUntitledBlank {title : Text} (blank : Text.isBlankOnly title = true) : orUntitled title = untitled := by
  unfold orUntitled
  rw [(Text.trimNilIff title).mpr blank]

theorem orUntitledTrim {title : Text} (some : Text.isBlankOnly title = false) : orUntitled title = Text.trim title := by
  unfold orUntitled
  split
  · rename_i nothing
    rw [(Text.trimNilIff title).mp nothing] at some
    contradiction
  · rename_i same
    exact same.symm

theorem orUntitledIff {title : Text} :
    orUntitled title = untitled ↔ Text.isBlankOnly title = true ∨ Text.trim title = untitled := by
  cases blank : Text.isBlankOnly title with
  | true => simp [orUntitledBlank blank]
  | false => simp [orUntitledTrim blank]

namespace Note

theorem displayTitleOwn {note : Note} (own : Text.isBlankOnly note.title = false) :
    note.displayTitle = orUntitled note.title := by
  rw [orUntitledTrim own]
  unfold displayTitle
  split
  · rename_i nothing
    rw [(Text.trimNilIff note.title).mp nothing] at own
    contradiction
  · rename_i same
    exact same.symm

theorem displayTitleTaken {note : Note} (none : Text.isBlankOnly note.title = true) {line : Text}
    (first : Text.FirstLine (Text.trim note.content) line) :
    note.displayTitle = orUntitled (line.take borrowedLength) := by
  unfold displayTitle
  rw [(Text.trimNilIff note.title).mpr none, Text.firstLineUnique first]

structure Borrowed (content title : Text) : Prop where
  some : title ≠ []
  front : title <+: Text.trim content
  short : title.length ≤ 60
  single : ∀ c ∈ title, Text.isLineEnd c = false
  line : ∃ line, Text.FirstLine (Text.trim content) line ∧ ((Text.trim line).length ≤ 60 → title = Text.trim line)

/- A line that starts with no blank is cut behind its first character, so that trimming takes from its end only. -/
theorem displayTitleBorrowed {note : Note} (none : Text.isBlankOnly note.title = true)
    (some : Text.isBlankOnly note.content = false) : Borrowed note.content note.displayTitle := by
  have line := Text.firstLineTaken (Text.trim note.content)
  generalize (Text.trim note.content).takeWhile (!Text.isLineEnd ·) = taken at line
  obtain ⟨c, rest, rfl, full⟩ := Text.firstLineStarts (Text.filledTrim some) line
  let cut : Text := (c :: rest).take borrowedLength
  have starts (more : Text) : ∀ x, (c :: more).head? = Option.some x → Text.isBlank x = false := by
    rintro x ⟨⟩
    exact full
  have title : note.displayTitle = Text.trim cut := by
    rw [displayTitleTaken none line]
    exact orUntitledTrim (by simp [Text.isBlankOnly, borrowedLength, full])
  have ofCut : note.displayTitle <+: cut := title ▸ Text.trimPrefix (starts (rest.take 59))
  have ofLine : note.displayTitle <+: c :: rest := ofCut.trans (List.take_prefix _ _)
  obtain ⟨more, split, _⟩ := line.ends
  refine ⟨note.displayTitleFilled.some, ?_, ?_, fun x member => line.single x (ofLine.subset member), _, line, ?_⟩
  · exact ofLine.trans ⟨more, split.symm⟩
  · exact ofCut.length_le.trans (List.length_take_le _ _)
  · exact fun fits => title.trans (Text.trimTake (starts rest) fits)

end Note

namespace Entity

/- What an entity is called by: its own name or, for a note without one, the first line of its content up to a bound. -/
inductive CalledBy : Entity → Text → Prop where
  | media (record : Media) : CalledBy (.media record) record.title
  | place (record : Place) : CalledBy (.place record) record.name
  | note (record : Note) (own : Text.isBlankOnly record.title = false) : CalledBy (.note record) record.title
  | content (record : Note) (none : Text.isBlankOnly record.title = true) (line : Text)
      (first : Text.FirstLine (Text.trim record.content) line) :
      CalledBy (.note record) (line.take Note.borrowedLength)

inductive Nameless : Entity → Prop where
  | media (record : Media) (blank : Text.isBlankOnly record.title = true) : Nameless (.media record)
  | place (record : Place) (blank : Text.isBlankOnly record.name = true) : Nameless (.place record)
  | note (record : Note) (none : Text.isBlankOnly record.title = true)
      (blank : Text.isBlankOnly record.content = true) : Nameless (.note record)

theorem calledBySome {entity : Entity} {item : Item} (made : entity.toItem = .ok item) :
    ∃ text, entity.CalledBy text := by
  cases entity with
  | media record => exact ⟨_, .media record⟩
  | place record => exact ⟨_, .place record⟩
  | note record =>
    cases blank : Text.isBlankOnly record.title with
    | false => exact ⟨_, .note record blank⟩
    | true => exact ⟨_, .content record blank _ (Text.firstLineTaken _)⟩
  | unsupported value => cases made

theorem toItemCalled {entity : Entity} {item : Item} (made : entity.toItem = .ok item) {text : Text}
    (called : entity.CalledBy text) : item.title = orUntitled text := by
  cases called with
  | media record => exact (Media.itemSource made).title
  | place record =>
    cases made
    rfl
  | note record own =>
    cases made
    exact Note.displayTitleOwn own
  | content record none line first =>
    cases made
    exact Note.displayTitleTaken none first

theorem calledByBlank {entity : Entity} {text : Text} (called : entity.CalledBy text)
    (blank : Text.isBlankOnly text = true) : entity.Nameless := by
  cases called with
  | media record => exact .media record blank
  | place record => exact .place record blank
  | note record own =>
    rw [blank] at own
    contradiction
  | content record none line first =>
    refine .note record none ?_
    by_contra some
    obtain ⟨c, rest, rfl, full⟩ := Text.firstLineStarts (Text.filledTrim (Bool.not_eq_true _ ▸ some)) first
    simp [Text.isBlankOnly, Note.borrowedLength, full] at blank

theorem namelessUntitled {entity : Entity} {item : Item} (made : entity.toItem = .ok item)
    (nameless : entity.Nameless) : item.title = untitled := by
  cases nameless with
  | media record blank => exact (toItemCalled made (.media record)).trans (orUntitledBlank blank)
  | place record blank => exact (toItemCalled made (.place record)).trans (orUntitledBlank blank)
  | note record none blank =>
    have first := Text.firstLineTaken (Text.trim record.content)
    refine (toItemCalled made (.content record none _ first)).trans ?_
    rw [(Text.trimNilIff record.content).mpr blank]
    rfl

theorem titleShown {entity : Entity} {item : Item} (made : entity.toItem = .ok item) :
    Text.Filled item.title ∧
    (∀ record, entity = .note record → Text.isBlankOnly record.title = true →
      Text.isBlankOnly record.content = false → Note.Borrowed record.content item.title) ∧
    (item.title = untitled ↔ entity.Nameless ∨ ∃ text, entity.CalledBy text ∧ Text.trim text = untitled) := by
  refine ⟨toItemTitled made, ?_, fun shown => ?_, ?_⟩
  · rintro record rfl none some
    cases made
    exact Note.displayTitleBorrowed none some
  · obtain ⟨text, called⟩ := calledBySome made
    rcases orUntitledIff.mp ((toItemCalled made called).symm.trans shown) with blank | reads
    · exact .inl (calledByBlank called blank)
    · exact .inr ⟨text, called, reads⟩
  · rintro (nameless | ⟨text, called, reads⟩)
    · exact namelessUntitled made nameless
    · exact (toItemCalled made called).trans (orUntitledIff.mpr (.inr reads))

theorem titleShownOfLines :
    let line := List.replicate 59 (CodePoint.char 'a') ++ " b".toText
    let note : Note := ⟨"7".toText, "\t".toText, "\n".toText ++ line ++ " \u2028c".toText, [], none, false, false⟩
    (Entity.note note).toItem = .ok note.toItem ∧ note.toItem.title = List.replicate 59 (.char 'a') ∧
    Text.Filled note.toItem.title ∧ Note.Borrowed note.content note.toItem.title ∧
    ¬ (Nameless (.note note) ∨ ∃ text, CalledBy (.note note) text ∧ Text.trim text = untitled) := by
  intro line note
  have title : note.toItem.title = List.replicate 59 (.char 'a') := by decide +kernel
  obtain ⟨filled, borrowed, placeholder⟩ := titleShown (rfl : (Entity.note note).toItem = .ok note.toItem)
  refine ⟨rfl, title, filled, borrowed note rfl (by decide +kernel) (by decide +kernel), ?_⟩
  rw [← placeholder, title]
  decide

end Entity
end CollectionSearch
