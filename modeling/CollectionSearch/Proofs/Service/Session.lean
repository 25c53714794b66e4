import CollectionSearch.Service.Engine
import Mathlib.Data.List.Induction

/-! What a session serves is what was set last. A step either sets something, whatever there was before, or leaves all
as it was; so every answer is that of a state made from the last request that set one. -/
namespace CollectionSearch.Session
variable {State View Request Reply : Type}

section Latest
variable (sets : Request → View → Prop)

def Quiet (request : Request) : Prop := ∀ view, ¬ sets request view

inductive Latest (first : View) : List Request → View → Prop where
  | first (past : List Request) (quiet : ∀ request ∈ past, Quiet sets request) : Latest first past first
  | set (before : List Request) (request : Request) (after : List Request) (view : View) (made : sets request view)
      (quiet : ∀ later ∈ after, Quiet sets later) : Latest first (before ++ request :: after) view

end Latest

variable {sets : Request → View → Prop} {first : View}

theorem latestNil {view : View} : Latest sets first [] view ↔ view = first := by
  constructor
  · intro latest
    generalize empty : ([] : List Request) = past at latest
    cases latest with
    | first => rfl
    | set before request after => exact absurd empty.symm (by simp)
  · rintro rfl
    exact .first [] (by simp)

theorem latestBehind {past : List Request} {request : Request} {view : View} :
    Latest sets first (past ++ [request]) view ↔
      sets request view ∨ (Quiet sets request ∧ Latest sets first past view) := by
  constructor
  · intro latest
    generalize whole : past ++ [request] = requests at latest
    cases latest with
    | first _ quiet =>
      subst whole
      exact .inr ⟨quiet request (by simp), .first past (fun earlier member => quiet earlier (by simp [member]))⟩
    | set before other after _ made quiet =>
      rcases List.eq_nil_or_concat after with rfl | ⟨front, last, rfl⟩
      · obtain ⟨_, same⟩ := List.append_inj' whole rfl
        cases same
        exact .inl made
      · rw [List.concat_eq_append, ← List.cons_append, ← List.append_assoc] at whole
        obtain ⟨same, end'⟩ := List.append_inj' whole rfl
        cases end'
        refine .inr ⟨quiet _ (by simp), same ▸ .set before other front view made (fun later member => quiet later ?_)⟩
        simp [member]
  · rintro (made | ⟨quiet, latest⟩)
    · exact .set past request [] view made (by simp)
    · cases latest with
      | first _ none => exact .first _ (by simpa [or_imp, forall_and] using ⟨none, quiet⟩)
      | set before other after _ made none =>
        rw [List.append_assoc, List.cons_append]
        exact .set before other (after ++ [request]) view made (by simpa [or_imp, forall_and] using ⟨none, quiet⟩)

theorem latestUnique (alone : ∀ request a b, sets request a → sets request b → a = b) {past : List Request}
    {a b : View} (left : Latest sets first past a) (right : Latest sets first past b) : a = b := by
  induction past using List.reverseRecOn with
  | nil => exact (latestNil.mp left).trans (latestNil.mp right).symm
  | append_singleton past request ih =>
    rcases latestBehind.mp left with made | ⟨quiet, earlier⟩
    · rcases latestBehind.mp right with again | ⟨quiet, _⟩
      · exact alone request a b made again
      · exact absurd made (quiet a)
    · rcases latestBehind.mp right with made | ⟨_, before⟩
      · exact absurd made (quiet b)
      · exact ih earlier before

section Run
variable {step : State → Request → State × Reply}

theorem runAppend (state : State) (past rest : List Request) :
    run step state (past ++ rest) =
      ((run step (run step state past).1 rest).1, (run step state past).2 ++ (run step (run step state past).1 rest).2) := by
  induction past generalizing state with
  | nil => rfl
  | cons request past ih => simp only [List.cons_append, run, ih]

theorem runBehind (state : State) (past : List Request) (request : Request) :
    (run step state (past ++ [request])).1 = (step (run step state past).1 request).1 := by
  rw [runAppend]
  rfl

theorem runReply (state : State) (past : List Request) (request : Request) (rest : List Request) :
    (run step state (past ++ request :: rest)).2[past.length]? = some (step (run step state past).1 request).2 := by
  have length := runReplies step state past
  rw [runAppend]
  simp [length, run]

end Run

abbrev Turns (View Request Reply : Type) := View → Request → Reply → View → Prop

/- Sessions from a state on: at any time the state is seen as what was set last, and every request is replied to from
that view alone. -/
structure Follows (step : State → Request → State × Reply) (view : State → View) (sets : Request → View → Prop)
    (turns : Turns View Request Reply) (state : State) : Prop where
  latest : ∀ past seen, Latest sets (view state) past seen ↔ view (run step state past).1 = seen
  replies : ∀ past request rest, ∃ reply, (run step state (past ++ request :: rest)).2[past.length]? = some reply ∧
    turns (view (run step state past).1) request reply (view (run step state (past ++ [request])).1)

structure Obeys (step : State → Request → State × Reply) (view : State → View) (sets : Request → View → Prop)
    (turns : Turns View Request Reply) (kept : State → Prop) : Prop where
  alone : ∀ request a b, sets request a → sets request b → a = b
  keeps : ∀ state request, kept state → kept (step state request).1
  settles : ∀ state request, kept state → sets request (view (step state request).1) ∨
    (Quiet sets request ∧ view (step state request).1 = view state)
  turns : ∀ state request, kept state →
    turns (view state) request (step state request).2 (view (step state request).1)

section Obeys
variable {step : State → Request → State × Reply} {view : State → View} {turns : Turns View Request Reply}
  {kept : State → Prop}

theorem runKept (obeys : Obeys step view sets turns kept) {state : State} (start : kept state) (past : List Request) :
    kept (run step state past).1 := by
  induction past using List.reverseRecOn with
  | nil => exact start
  | append_singleton past request ih => exact runBehind state past request ▸ obeys.keeps _ request ih

theorem runLatest (obeys : Obeys step view sets turns kept) {state : State} (start : kept state)
    (past : List Request) : Latest sets (view state) past (view (run step state past).1) := by
  induction past using List.reverseRecOn with
  | nil => exact .first [] (by simp)
  | append_singleton past request ih =>
    rw [runBehind]
    rcases obeys.settles _ request (runKept obeys start past) with made | ⟨quiet, same⟩
    · exact latestBehind.mpr (.inl made)
    · exact latestBehind.mpr (.inr ⟨quiet, same.symm ▸ ih⟩)

theorem followsOfObeys (obeys : Obeys step view sets turns kept) {state : State} (start : kept state) :
    Follows step view sets turns state where
  latest past seen := by
    have last := runLatest obeys start past
    exact ⟨fun other => latestUnique obeys.alone last other, fun same => same ▸ last⟩
  replies past request rest := by
    refine ⟨_, runReply state past request rest, ?_⟩
    rw [runBehind]
    exact obeys.turns _ request (runKept obeys start past)

end Obeys
end CollectionSearch.Session
