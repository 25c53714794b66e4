import CollectionSearch.Host
import CollectionSearch.Proofs.Text.Splitting

/-! A path is what its text denotes: reading the text of a path in normal form gives the path again. -/
namespace CollectionSearch.Path

abbrev slash : CodePoint := .char '/'

structure Normal (path : Path) : Prop where
  root : path.root = [] ∨ path.root = [slash] ∨ path.root = [slash, slash]
  parts : ∀ part ∈ path.parts, isPart part = true ∧ slash ∉ part

theorem ofTextNormal (s : Text) : Normal (ofText s) where
  root := by
    unfold ofText rootOf
    split <;> simp [slash]
  parts := by
    intro part member
    obtain ⟨split, kept⟩ := List.mem_filter.mp member
    exact ⟨kept, Text.splitOnFree slash s part split⟩

theorem childNormal {path : Path} (normal : Normal path) {name : Text} (proper : isPart name = true)
    (free : slash ∉ name) : Normal (path.child name) where
  root := normal.root
  parts := by
    intro part member
    rcases List.mem_append.mp member with above | named
    · exact normal.parts part above
    · cases List.mem_singleton.mp named
      exact ⟨proper, free⟩

def read (s : Text) : List Text := (Text.splitOn slash s).filter isPart

theorem readSlash (s : Text) : read (slash :: s) = read s := by
  unfold read
  rw [Text.splitOnBehind slash s, List.filter_cons_of_neg (by decide)]

theorem readJoined {parts : List Text} (each : ∀ part ∈ parts, isPart part = true ∧ slash ∉ part) :
    read (Text.joinWith [slash] parts) = parts := by
  cases parts with
  | nil => rfl
  | cons part rest =>
    unfold read
    rw [Text.splitOnJoined (List.cons_ne_nil part rest) (fun s member => (each s member).2)]
    exact List.filter_eq_self.mpr (fun s member => (each s member).1)

theorem joinedStart {parts : List Text} (each : ∀ part ∈ parts, isPart part = true ∧ slash ∉ part) :
    (Text.joinWith [slash] parts).takeWhile (· = slash) = [] := by
  cases parts with
  | nil => rfl
  | cons part rest =>
    obtain ⟨proper, free⟩ := each part List.mem_cons_self
    obtain ⟨c, more, rfl⟩ : ∃ c more, part = c :: more :=
      List.exists_cons_of_ne_nil (fun none => by rw [none] at proper; exact absurd proper (by decide))
    have other : c ≠ slash := fun same => free (same ▸ List.mem_cons_self)
    cases rest with
    | nil => simp [Text.joinWith, other]
    | cons second others => simp [Text.joinWith, other]

theorem rootOfText {path : Path} (normal : Normal path) :
    rootOf (path.root ++ Text.joinWith [slash] path.parts) = path.root := by
  have slashes : ∀ c ∈ path.root, decide (c = slash) = true := by
    rcases normal.root with same | same | same <;> simp [same]
  have counted : (path.root ++ Text.joinWith [slash] path.parts).takeWhile (· = slash) = path.root := by
    rw [List.takeWhile_append_of_pos slashes, joinedStart normal.parts, List.append_nil]
  unfold rootOf
  rw [counted]
  rcases normal.root with same | same | same <;> rw [same] <;> rfl

theorem readRoot {path : Path} (normal : Normal path) (s : Text) : read (path.root ++ s) = read s := by
  rcases normal.root with same | same | same <;> simp [same, readSlash]

theorem ofTextText {path : Path} (normal : Normal path) : ofText path.text = path := by
  unfold text
  split
  · rename_i bare
    obtain ⟨root, parts⟩ := path
    obtain ⟨rfl, rfl⟩ : root = [] ∧ parts = [] := by simpa using bare
    decide
  · have parts := (readRoot normal _).trans (readJoined normal.parts)
    show Path.mk (rootOf (path.root ++ Text.joinWith [slash] path.parts)) (read (path.root ++ _)) = path
    rw [rootOfText normal, parts]

end CollectionSearch.Path
