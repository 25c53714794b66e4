import Mathlib.Data.List.Forall2

/-! Outcomes that may be faults: what a pass over a list gives if every member is to succeed. -/
namespace CollectionSearch.Outcome
variable {α β ε : Type}

/- Outcomes have no decidable equality where faults have none, but their values do. -/
theorem okOfToOption {outcome : Except ε α} {value : α} (found : outcome.toOption = some value) :
    outcome = .ok value := by
  cases outcome with
  | error fault => cases found
  | ok other => exact congrArg Except.ok (Option.some.inj found)

theorem okOfShown {γ : Type} {display : α → γ} {outcome : Except ε α} {image : γ}
    (found : outcome.toOption.map display = some image) : ∃ value, outcome = .ok value ∧ display value = image := by
  obtain ⟨value, ok, same⟩ := Option.map_eq_some_iff.mp found
  exact ⟨value, okOfToOption ok, same⟩

theorem bindOk {outcome : Except ε α} {next : α → Except ε β} {result : β} :
    outcome >>= next = .ok result ↔ ∃ value, outcome = .ok value ∧ next value = .ok result := by
  cases outcome with
  | error fault => simp [bind, Except.bind]
  | ok value => simp [bind, Except.bind]

theorem bindError {outcome : Except ε α} {next : α → Except ε β} {fault : ε} :
    outcome >>= next = .error fault ↔
      outcome = .error fault ∨ ∃ value, outcome = .ok value ∧ next value = .error fault := by
  cases outcome with
  | error other => simp [bind, Except.bind]
  | ok value => simp [bind, Except.bind]

theorem bindFails {γ : Type} {outcome : Except ε α} {next : α → Except ε β} {other : α → Except ε γ} {fault : ε}
    (alike : ∀ value, next value = .error fault ↔ other value = .error fault) :
    outcome >>= next = .error fault ↔ outcome >>= other = .error fault := by
  rw [bindError, bindError]
  exact or_congr_right (exists_congr (fun value => and_congr_right (fun _ => alike value)))

theorem mapOk {γ : Type} {f : α → γ} {outcome : Except ε α} {result : γ} :
    outcome.map f = .ok result ↔ ∃ value, outcome = .ok value ∧ f value = result := by
  cases outcome with
  | error fault => simp [Except.map]
  | ok value => simp [Except.map]

theorem mapError {γ : Type} {f : α → γ} {outcome : Except ε α} {fault : ε} :
    outcome.map f = .error fault ↔ outcome = .error fault := by
  cases outcome with
  | error other => simp [Except.map]
  | ok value => simp [Except.map]

theorem alikeCases {γ : Type} {h : α → γ} {first second : Except ε α} (alike : first.map h = second.map h) :
    (∃ fault, first = .error fault ∧ second = .error fault) ∨
      ∃ a b, first = .ok a ∧ second = .ok b ∧ h a = h b := by
  cases first with
  | error fault => exact .inl ⟨fault, rfl, mapError.mp alike.symm⟩
  | ok a =>
    obtain ⟨b, same, value⟩ := mapOk.mp alike.symm
    exact .inr ⟨a, b, rfl, same, value.symm⟩

theorem eachOk {f : α → Except ε β} {xs : List α} {ys : List β} :
    xs.mapM f = .ok ys ↔ List.Forall₂ (fun x y => f x = .ok y) xs ys := by
  induction xs generalizing ys with
  | nil =>
    rw [List.mapM_nil, List.forall₂_nil_left_iff]
    exact ⟨fun same => (Except.ok.inj same).symm, fun empty => congrArg Except.ok empty.symm⟩
  | cons x xs ih =>
    rw [List.mapM_cons, List.forall₂_cons_left_iff]
    constructor
    · intro ok
      cases head : f x with
      | error fault => simp [head, bind, Except.bind] at ok
      | ok y =>
        cases tail : xs.mapM f with
        | error fault => simp [head, tail, bind, Except.bind] at ok
        | ok rest =>
          simp only [head, tail, bind, Except.bind, pure, Except.pure, Except.ok.injEq] at ok
          exact ⟨y, rest, rfl, ih.mp tail, ok.symm⟩
    · rintro ⟨y, rest, head, tail, rfl⟩
      simp only [head, ih.mpr tail, bind, Except.bind, pure, Except.pure]

theorem eachOkAt {f : α → Except ε β} {xs : List α} {ys : List β} (ok : xs.mapM f = .ok ys) (i : Nat) (y : β) :
    ys[i]? = some y ↔ ∃ x, xs[i]? = some x ∧ f x = .ok y := by
  have each := eachOk.mp ok
  induction each generalizing i with
  | nil => simp
  | @cons x z xs ys head tail ih =>
    cases i with
    | zero =>
      simp only [List.getElem?_cons_zero, Option.some.injEq]
      constructor
      · rintro rfl
        exact ⟨x, rfl, head⟩
      · rintro ⟨_, rfl, same⟩
        exact Except.ok.inj (head.symm.trans same)
    | succ i => simpa using ih (eachOk.mpr tail) i

theorem eachOkMem {f : α → Except ε β} {xs : List α} {ys : List β} (ok : xs.mapM f = .ok ys) {y : β}
    (member : y ∈ ys) : ∃ x ∈ xs, f x = .ok y := by
  obtain ⟨i, position⟩ := List.mem_iff_getElem?.mp member
  obtain ⟨x, source, value⟩ := (eachOkAt ok i y).mp position
  exact ⟨x, List.mem_of_getElem? source, value⟩

theorem eachOkRelated {f : α → Except ε β} {xs : List α} {ys : List β} (ok : xs.mapM f = .ok ys)
    {related : α → β → Prop} (each : ∀ x ∈ xs, ∀ y, f x = .ok y → related x y) : List.Forall₂ related xs ys := by
  have values := eachOk.mp ok
  clear ok
  induction values with
  | nil => exact .nil
  | cons head tail ih =>
    obtain ⟨here, behind⟩ := List.forall_mem_cons.mp each
    exact .cons (here _ head) (ih behind)

theorem eachOkOf {f : α → Except ε β} {xs : List α} {ys : List β} (ok : xs.mapM f = .ok ys) {x : α}
    (member : x ∈ xs) : ∃ y ∈ ys, f x = .ok y := by
  have each := eachOk.mp ok
  clear ok
  induction each with
  | nil => cases member
  | @cons head y xs ys here behind ih =>
    rcases List.mem_cons.mp member with rfl | later
    · exact ⟨y, List.mem_cons_self, here⟩
    · obtain ⟨z, present, value⟩ := ih later
      exact ⟨z, List.mem_cons_of_mem _ present, value⟩

theorem eachOkPairwise {f : α → Except ε β} {xs : List α} {ys : List β} (ok : xs.mapM f = .ok ys)
    {apart : α → α → Prop} {apartToo : β → β → Prop}
    (carried : ∀ a b y z, apart a b → f a = .ok y → f b = .ok z → apartToo y z) (each : xs.Pairwise apart) :
    ys.Pairwise apartToo := by
  have values := eachOk.mp ok
  clear ok
  induction values with
  | nil => exact .nil
  | @cons x y xs ys head tail ih =>
    obtain ⟨first, rest⟩ := List.pairwise_cons.mp each
    refine List.pairwise_cons.mpr ⟨fun z member => ?_, ih rest⟩
    obtain ⟨b, present, value⟩ := eachOkMem (eachOk.mpr tail) member
    exact carried x b y z (first b present) head value

theorem eachOkExists {f : α → Except ε β} {xs : List α} (each : ∀ x ∈ xs, ∃ y, f x = .ok y) :
    ∃ ys, xs.mapM f = .ok ys := by
  induction xs with
  | nil => exact ⟨[], rfl⟩
  | cons x xs ih =>
    obtain ⟨y, head⟩ := each x List.mem_cons_self
    obtain ⟨ys, tail⟩ := ih (fun x member => each x (List.mem_cons_of_mem _ member))
    exact ⟨y :: ys, eachOk.mpr (.cons head (eachOk.mp tail))⟩

theorem eachOkPerm {f : α → Except ε β} {xs order : List α} {ys : List β} (ok : xs.mapM f = .ok ys)
    (permuted : order.Perm xs) : ∃ values, order.mapM f = .ok values ∧ ∀ y, y ∈ ys ↔ y ∈ values := by
  have each : ∀ x ∈ order, ∃ y, f x = .ok y := by
    intro x member
    obtain ⟨y, _, value⟩ := eachOkOf ok (permuted.mem_iff.mp member)
    exact ⟨y, value⟩
  obtain ⟨values, read⟩ := eachOkExists each
  refine ⟨values, read, fun y => ⟨fun member => ?_, fun member => ?_⟩⟩
  · obtain ⟨x, present, value⟩ := eachOkMem ok member
    obtain ⟨z, listed, same⟩ := eachOkOf read (permuted.mem_iff.mpr present)
    exact Except.ok.inj (value.symm.trans same) ▸ listed
  · obtain ⟨x, present, value⟩ := eachOkMem read member
    obtain ⟨z, listed, same⟩ := eachOkOf ok (permuted.mem_iff.mp present)
    exact Except.ok.inj (value.symm.trans same) ▸ listed

theorem eachAlike {γ : Type} {f g : α → Except ε β} {h : β → γ} {xs : List α}
    (alike : ∀ x ∈ xs, (f x).map h = (g x).map h) : (xs.mapM f).map (List.map h) = (xs.mapM g).map (List.map h) := by
  induction xs with
  | nil => rfl
  | cons x xs ih =>
    obtain ⟨here, behind⟩ := List.forall_mem_cons.mp alike
    rw [List.mapM_cons, List.mapM_cons]
    rcases alikeCases here with ⟨fault, first, second⟩ | ⟨y, z, first, second, same⟩
    · rw [first, second]
      rfl
    · rw [first, second]
      rcases alikeCases (ih behind) with ⟨fault, left, right⟩ | ⟨ys, zs, left, right, rest⟩
      · rw [left, right]
        rfl
      · rw [left, right]
        exact congrArg Except.ok (congrArg₂ List.cons same rest)

theorem eachError {f : α → Except ε β} {xs : List α} {fault : ε} (failed : xs.mapM f = .error fault) :
    ∃ x ∈ xs, f x = .error fault := by
  induction xs with
  | nil => cases failed
  | cons x xs ih =>
    rw [List.mapM_cons] at failed
    cases head : f x with
    | error other =>
      simp only [head, bind, Except.bind, Except.error.injEq] at failed
      exact ⟨x, List.mem_cons_self, failed ▸ head⟩
    | ok y =>
      cases tail : xs.mapM f with
      | error other =>
        simp only [head, tail, bind, Except.bind, Except.error.injEq] at failed
        obtain ⟨later, member, same⟩ := ih (failed ▸ tail)
        exact ⟨later, List.mem_cons_of_mem _ member, same⟩
      | ok ys => simp [head, tail, bind, Except.bind, pure, Except.pure] at failed

end CollectionSearch.Outcome
