import CollectionSearch.Text.Basic

/-! A text taken apart, at a separator and put together again, and at its blanks. Its words together hold all of it
that is not blank, in order. -/
namespace CollectionSearch.Text

theorem splitOnList (separator : CodePoint) (s : Text) : splitOn separator s = List.splitOn separator s := by
  induction s with
  | nil => rfl
  | cons c rest ih =>
    obtain ⟨part, parts, split⟩ := List.exists_cons_of_ne_nil (List.splitOn_ne_nil separator rest)
    rw [splitOn, List.splitOn_cons_eq_if_modifyHead, ih, split]
    by_cases same : c = separator <;> simp [same]

theorem splitOnBehind (separator : CodePoint) (s : Text) :
    splitOn separator (separator :: s) = [] :: splitOn separator s := by
  rw [splitOnList, splitOnList, List.splitOn_cons_eq_if_modifyHead, if_pos (beq_self_eq_true separator)]

theorem splitOnFree (separator : CodePoint) (s : Text) : ∀ part ∈ splitOn separator s, separator ∉ part := by
  induction s with
  | nil => simp [splitOn]
  | cons c rest ih =>
    obtain ⟨part, parts, split⟩ := List.exists_cons_of_ne_nil (List.splitOn_ne_nil separator rest)
    rw [splitOnList, split] at ih
    obtain ⟨here, behind⟩ := List.forall_mem_cons.mp ih
    rw [splitOnList, List.splitOn_cons_eq_if_modifyHead, split]
    by_cases same : c = separator
    · rw [if_pos (beq_iff_eq.mpr same)]
      exact List.forall_mem_cons.mpr ⟨List.not_mem_nil, ih⟩
    · rw [if_neg (by simp [same])]
      exact List.forall_mem_cons.mpr ⟨by simp [Ne.symm same, here], behind⟩

theorem splitOnJoined {separator : CodePoint} {parts : List Text} (some : parts ≠ [])
    (free : ∀ part ∈ parts, separator ∉ part) : splitOn separator (joinWith [separator] parts) = parts := by
  rw [splitOnList]
  exact List.splitOn_intercalate separator free some

def words (s : Text) : List Text := (s.splitOnP isBlank).filter (!·.isEmpty)

@[simp] theorem wordsNil : words [] = [] := by simp [words]

theorem wordsAppend {c : CodePoint} (blank : isBlank c = true) (front rest : Text) :
    words (front ++ c :: rest) = words front ++ words rest := by
  unfold words
  rw [List.splitOnP_append_cons front rest blank, List.filter_append]

theorem wordsBehind {c : CodePoint} (blank : isBlank c = true) (rest : Text) : words (c :: rest) = words rest := by
  simpa using wordsAppend blank [] rest

theorem wordsUndivided {s : Text} (some : s ≠ []) (full : ∀ c ∈ s, isBlank c = false) : words s = [s] := by
  unfold words
  rw [List.splitOnP_eq_singleton full]
  simp [some]

theorem wordsFlatten (s : Text) : (words s).flatten = s.filter (!isBlank ·) := by
  have whole : (s.splitOnP isBlank).flatten = s.filter (!isBlank ·) := by
    induction s with
    | nil => simp
    | cons c rest ih =>
      obtain ⟨part, parts, split⟩ := List.exists_cons_of_ne_nil (List.splitOnP_ne_nil isBlank rest)
      rw [List.splitOnP_cons_eq_if_modifyHead, List.filter_cons, ← ih, split]
      cases isBlank c <;> simp
  rw [← whole]
  exact List.flatten_filter_not_isEmpty

theorem wordsFilled {s word : Text} (member : word ∈ words s) : word ≠ [] ∧ ∀ c ∈ word, isBlank c = false := by
  have flattened : ∀ c ∈ (words s).flatten, isBlank c = false := by
    rw [wordsFlatten]
    intro c inside
    simpa using (List.mem_filter.mp inside).2
  refine ⟨by simpa [words] using (List.mem_filter.mp member).2, fun c inside => ?_⟩
  exact flattened c (List.mem_flatten.mpr ⟨word, member, inside⟩)

end CollectionSearch.Text
