import CollectionSearch.Proofs.Text.Agreement
import Mathlib.Data.List.TakeWhile

/-! Trimming takes blanks only. Whatever has none of them and stands in a text stands in the trimmed text as well,
and folding both makes no difference to that. -/
namespace CollectionSearch.Text

theorem trimSplit (s : Text) : ∃ front behind, s = front ++ trim s ++ behind ∧
    (∀ c ∈ front, isBlank c = true) ∧ ∀ c ∈ behind, isBlank c = true := by
  refine ⟨s.takeWhile isBlank, ((trimStart s).reverse.takeWhile isBlank).reverse, ?_, ?_, ?_⟩
  · have back : trimStart s = trim s ++ ((trimStart s).reverse.takeWhile isBlank).reverse := by
      unfold trim trimEnd
      rw [← List.reverse_append, List.takeWhile_append_dropWhile, List.reverse_reverse]
    rw [List.append_assoc, ← back]
    exact List.takeWhile_append_dropWhile.symm
  · exact fun c member => List.mem_takeWhile_imp member
  · exact fun c member => List.mem_takeWhile_imp (List.mem_reverse.mp member)

structure Trimmed (s : Text) : Prop where
  first : ∀ c, s.head? = some c → isBlank c = false
  last : ∀ c, s.getLast? = some c → isBlank c = false

structure Filled (s : Text) : Prop where
  some : s ≠ []
  trimmed : Trimmed s

theorem blanksDropped {s : Text} {c : CodePoint} (starts : (s.dropWhile isBlank).head? = some c) :
    isBlank c = false := by
  have stops := List.head?_dropWhile_not isBlank s
  rw [starts] at stops
  simpa using stops

theorem trimTrimmed (s : Text) : Trimmed (trim s) where
  first := by
    intro c starts
    have front : trim s <+: trimStart s := by
      rw [← List.reverse_suffix, trim, trimEnd, List.reverse_reverse]
      exact List.dropWhile_suffix isBlank
    have single := List.singleton_prefix_iff_head?_eq_some.mpr starts
    exact blanksDropped (List.singleton_prefix_iff_head?_eq_some.mp (single.trans front))
  last := by
    intro c ends
    rw [trim, trimEnd, List.getLast?_reverse] at ends
    exact blanksDropped ends

theorem trimFilled {s filled : Text} (trimmed : trim s = filled) (some : filled ≠ []) : Filled filled :=
  ⟨some, trimmed ▸ trimTrimmed s⟩

theorem filledTrim {s : Text} (some : isBlankOnly s = false) : Filled (trim s) :=
  trimFilled rfl (fun none => by simp [(trimNilIff s).mp none] at some)

theorem blanksNone {s : Text} (first : ∀ c, s.head? = some c → isBlank c = false) : s.dropWhile isBlank = s := by
  cases s with
  | nil => rfl
  | cons c rest => exact List.dropWhile_cons_of_neg (by simp [first c rfl])

theorem trimmedTrim {s : Text} (trimmed : Trimmed s) : trim s = s := by
  have back : s.reverse.dropWhile isBlank = s.reverse :=
    blanksNone (fun c ends => trimmed.last c (List.head?_reverse ▸ ends))
  rw [trim, trimStart, blanksNone trimmed.first, trimEnd, back, List.reverse_reverse]

instance (s : Text) : Decidable (Trimmed s) :=
  decidable_of_iff (trim s = s) ⟨fun same => same ▸ trimTrimmed s, trimmedTrim⟩

instance (s : Text) : Decidable (Filled s) :=
  decidable_of_iff (s ≠ [] ∧ Trimmed s) ⟨fun both => ⟨both.1, both.2⟩, fun filled => ⟨filled.some, filled.trimmed⟩⟩

theorem filledSays {s : Text} (filled : Filled s) : isBlankOnly s = false := by
  rw [← Bool.not_eq_true, ← trimNilIff, trimmedTrim filled.trimmed]
  exact filled.some

theorem trimInfix (s : Text) : trim s <:+: s := by
  obtain ⟨front, behind, split, _⟩ := trimSplit s
  exact ⟨front, behind, split.symm⟩

theorem trimAround {front middle behind : Text} (before : ∀ c ∈ front, isBlank c = true) (trimmed : Trimmed middle)
    (after : ∀ c ∈ behind, isBlank c = true) : trim (front ++ middle ++ behind) = middle := by
  by_cases none : middle = []
  · rw [none, trimNilIff, isBlankOnly, List.all_eq_true]
    simpa [or_imp, forall_and] using ⟨before, after⟩
  · have start : trimStart (front ++ middle ++ behind) = middle ++ behind := by
      rw [List.append_assoc, trimStart, List.dropWhile_append_of_pos before]
      obtain ⟨c, rest, shape⟩ := List.exists_cons_of_ne_nil none
      exact blanksNone (fun x starts => trimmed.first x (by rw [shape] at starts ⊢; exact starts))
    have back : (middle ++ behind).reverse.dropWhile isBlank = middle.reverse := by
      rw [List.reverse_append, List.dropWhile_append_of_pos (fun c member => after c (List.mem_reverse.mp member))]
      exact blanksNone (fun c ends => trimmed.last c (List.head?_reverse ▸ ends))
    rw [trim, start, trimEnd, back, List.reverse_reverse]

theorem trimPadded {front behind : Text} (before : ∀ c ∈ front, isBlank c = true)
    (after : ∀ c ∈ behind, isBlank c = true) (s : Text) : trim (front ++ s ++ behind) = trim s := by
  obtain ⟨start, rest, split, startBlank, restBlank⟩ := trimSplit s
  have around : front ++ s ++ behind = (front ++ start) ++ trim s ++ (rest ++ behind) := by
    conv => lhs; rw [split]
    simp only [List.append_assoc]
  rw [around]
  exact trimAround (List.forall_mem_append.mpr ⟨before, startBlank⟩) (trimTrimmed s)
    (List.forall_mem_append.mpr ⟨restBlank, after⟩)

theorem trimSplitFront {s : Text} (first : ∀ c, s.head? = some c → isBlank c = false) :
    ∃ behind, s = trim s ++ behind ∧ ∀ c ∈ behind, isBlank c = true := by
  obtain ⟨front, behind, split, before, after⟩ := trimSplit s
  cases front with
  | nil => exact ⟨behind, split, after⟩
  | cons c rest =>
    have full := first c (by rw [split]; rfl)
    rw [before c List.mem_cons_self] at full
    contradiction

theorem trimPrefix {s : Text} (first : ∀ c, s.head? = some c → isBlank c = false) : trim s <+: s := by
  obtain ⟨behind, split, _⟩ := trimSplitFront first
  exact ⟨behind, split.symm⟩

theorem trimTake {s : Text} (first : ∀ c, s.head? = some c → isBlank c = false) {n : Nat}
    (fits : (trim s).length ≤ n) : trim (s.take n) = trim s := by
  obtain ⟨behind, split, after⟩ := trimSplitFront first
  have cut : s.take n = [] ++ trim s ++ behind.take (n - (trim s).length) := by
    conv => lhs; rw [split, List.take_append, List.take_of_length_le fits]
    rw [List.nil_append]
  rw [cut]
  exact trimAround nofun (trimTrimmed s) (fun c member => after c (List.mem_of_mem_take member))

theorem infixPast {needle front rest : Text} (some : needle ≠ []) (full : ∀ c ∈ needle, isBlank c = false)
    (blank : ∀ c ∈ front, isBlank c = true) (inside : needle <:+: front ++ rest) : needle <:+: rest := by
  induction front with
  | nil => exact inside
  | cons c front ih =>
    obtain ⟨here, behind⟩ := List.forall_mem_cons.mp blank
    rcases List.infix_cons_iff.mp inside with starts | later
    · obtain ⟨x, tail, rfl⟩ := List.exists_cons_of_ne_nil some
      have same : x = c := (List.cons_prefix_cons.mp starts).1
      have filled := full x List.mem_cons_self
      rw [same, here] at filled
      contradiction
    · exact ih behind later

theorem infixBefore {needle front behind : Text} (some : needle ≠ []) (full : ∀ c ∈ needle, isBlank c = false)
    (blank : ∀ c ∈ behind, isBlank c = true) (inside : needle <:+: front ++ behind) : needle <:+: front := by
  rw [← List.reverse_infix, List.reverse_append] at inside
  rw [← List.reverse_infix]
  refine infixPast (mt List.reverse_eq_nil_iff.mp some) ?_ ?_ inside
  · exact fun c member => full c (List.mem_reverse.mp member)
  · exact fun c member => blank c (List.mem_reverse.mp member)

theorem foldInfixTrim {word s : Text} (some : word ≠ []) (full : ∀ c ∈ word, isBlank c = false)
    (inside : fold word <:+: fold s) : fold word <:+: fold (trim s) := by
  obtain ⟨front, behind, split, before, after⟩ := trimSplit s
  have someFolded : fold word ≠ [] := mt foldNilIff.mp some
  have fullFolded := foldBlankless full
  rw [split, foldAppend, foldAppend, foldBlanks before, foldBlanks after] at inside
  exact infixPast someFolded fullFolded before (infixBefore someFolded fullFolded after inside)

end CollectionSearch.Text
