import CollectionSearch.Number.Reading
import Mathlib.Tactic.SplitIfs

/-! The whole numbers beyond all reals. They start halfway between the largest real and the power of two after it,
where a tie would go to that power. -/
namespace CollectionSearch

theorem twoToAdd (m n : Nat) : twoTo (m + n) = twoTo m * twoTo n := Nat.pow_add 2 m n

theorem twoToSucc (n : Nat) : twoTo (n + 1) = 2 * twoTo n := Nat.pow_succ'

theorem twoToMono {m n : Nat} (le : m ≤ n) : twoTo m ≤ twoTo n := Nat.pow_le_pow_right (by decide) le

theorem logLt {n k : Nat} (some : n ≠ 0) : n.log2 < k ↔ n < twoTo k := Nat.log2_lt some

theorem leLog {n k : Nat} (some : n ≠ 0) : k ≤ n.log2 ↔ twoTo k ≤ n := Nat.le_log2 some

namespace Binary64

theorem nearestAbove (n d : Nat) : n / d ≤ nearest n d := by
  unfold nearest
  dsimp only
  split_ifs <;> omega

theorem nearestWithin (n d : Nat) : 2 * (d * nearest n d) ≤ 2 * n + d := by
  have whole := Nat.div_add_mod n d
  unfold nearest
  dsimp only
  split_ifs
  · omega
  · rw [Nat.mul_add]
    omega
  · rcases Nat.mod_two_eq_zero_or_one (n / d) with even | odd
    · rw [even, Nat.add_zero]
      omega
    · rw [odd, Nat.mul_add]
      omega

theorem nearestEven {n d k : Nat} (even : k % 2 = 0) (above : 2 * (d * k) ≤ 2 * n + d) (pos : 0 < d) :
    k ≤ nearest n d := by
  rcases Nat.lt_or_ge (n / d) k with below | reached
  · have whole := Nat.div_add_mod n d
    have rest := Nat.mod_lt n pos
    have last : k = n / d + 1 := by
      have close : d * k < d * (n / d + 2) := by
        rw [Nat.mul_add]
        omega
      have := Nat.lt_of_mul_lt_mul_left close
      omega
    have half : d ≤ 2 * (n % d) := by
      rw [last, Nat.mul_add] at above
      omega
    unfold nearest
    dsimp only
    split_ifs <;> omega
  · exact Nat.le_trans reached (nearestAbove n d)

def brink : Nat := bound - twoTo 2044

theorem boundDoubled : bound = 2 * twoTo 2097 := twoToSucc 2097

theorem boundStepped : bound = twoTo 53 * twoTo 2045 := twoToAdd 53 2045

theorem stepHalved : twoTo 2045 = 2 * twoTo 2044 := twoToSucc 2044

def beyond : Nat := twoTo 1024 - twoTo 970

theorem brinkScaled : brink = beyond * unit := by
  simp only [brink, beyond, bound, unit, depth, Nat.sub_mul, ← twoToAdd, Nat.reduceAdd]

theorem roundedBelow {quanta : Nat} (below : quanta < brink) :
    nearest quanta (spacing quanta) * spacing quanta < bound := by
  have close := nearestWithin quanta (spacing quanta)
  rw [Nat.mul_comm (spacing quanta)] at close
  have log : quanta.log2 < 2098 := by
    by_cases zero : quanta = 0
    · simp [zero]
    · exact (logLt zero).mpr (Nat.lt_of_lt_of_le below (Nat.sub_le _ _))
  have step : spacing quanta ≤ twoTo 2045 := twoToMono (by omega)
  have halves := stepHalved
  unfold brink at below
  omega

theorem roundedAbove {quanta : Nat} (above : brink ≤ quanta) :
    bound ≤ nearest quanta (spacing quanta) * spacing quanta := by
  unfold brink at above
  have large : twoTo 2097 ≤ quanta := by
    have double := boundDoubled
    have small : twoTo 2044 ≤ twoTo 2097 := twoToMono (by decide)
    omega
  have some : quanta ≠ 0 := fun zero => Nat.not_lt.mpr large (zero ▸ twoToPos 2097)
  have log : 2097 ≤ quanta.log2 := (leLog some).mpr large
  rcases Nat.eq_or_lt_of_le log with last | beyond
  · have step : spacing quanta = twoTo 2045 := by
      unfold spacing
      congr 1
      omega
    have up : twoTo 53 ≤ nearest quanta (twoTo 2045) := by
      have halves := stepHalved
      have stepped := boundStepped
      rw [Nat.mul_comm] at stepped
      exact nearestEven (by decide) (by omega) (twoToPos 2045)
    rw [step, boundStepped]
    exact Nat.mul_le_mul_right _ up
  · have power : twoTo quanta.log2 = twoTo 52 * spacing quanta := by
      rw [spacing, ← twoToAdd]
      congr 1
      omega
    have front : twoTo 52 ≤ quanta / spacing quanta :=
      (Nat.le_div_iff_mul_le (twoToPos _)).mpr (power ▸ (leLog some).mp (Nat.le_refl _))
    calc bound ≤ twoTo quanta.log2 := twoToMono beyond
      _ = twoTo 52 * spacing quanta := power
      _ ≤ nearest quanta (spacing quanta) * spacing quanta :=
        Nat.mul_le_mul_right _ (Nat.le_trans front (nearestAbove _ _))

theorem roundedFinite (negative : Bool) {quanta : Nat} (below : quanta < brink) :
    ∃ near, rounded negative quanta 1 = .finite negative near := by
  unfold rounded
  dsimp only
  rw [Nat.div_one, Nat.one_mul]
  exact ⟨_, if_pos (roundedBelow below)⟩

theorem roundedInfinite (negative : Bool) {quanta : Nat} (above : brink ≤ quanta) :
    rounded negative quanta 1 = .infinite negative := by
  have outside : ¬ nearest quanta (spacing quanta) * spacing quanta < bound := Nat.not_lt_of_le (roundedAbove above)
  unfold rounded
  dsimp only
  rw [Nat.div_one, Nat.one_mul]
  exact if_neg outside

theorem ofIntNone {n : Int} : ofInt? n = none ↔ beyond ≤ n.natAbs := by
  have scaled : brink ≤ n.natAbs * unit ↔ beyond ≤ n.natAbs := by
    rw [brinkScaled]
    exact Nat.mul_le_mul_right_iff unitPos
  rw [← scaled]
  unfold ofInt?
  rcases Nat.lt_or_ge (n.natAbs * unit) brink with below | above
  · obtain ⟨near, finite⟩ := roundedFinite (n < 0) below
    rw [finite]
    exact ⟨nofun, fun above => absurd above (Nat.not_le_of_lt below)⟩
  · rw [roundedInfinite (n < 0) above]
    exact ⟨fun _ => above, fun _ => rfl⟩

end Binary64

namespace Number

theorem toRealError {x : Number} {fault : Fault} :
    x.toReal = .error fault ↔ fault = .wholeTooLarge ∧ ∃ n : Int, x = .whole n ∧ Binary64.beyond ≤ n.natAbs := by
  cases x with
  | real x => exact ⟨nofun, fun ⟨_, n, other, _⟩ => nomatch other⟩
  | whole n =>
    simp only [toReal]
    cases made : Binary64.ofInt? n with
    | some x =>
      refine ⟨nofun, fun ⟨_, m, same, above⟩ => ?_⟩
      cases same
      cases made.symm.trans (Binary64.ofIntNone.mpr above)
    | none =>
      have above := Binary64.ofIntNone.mp made
      constructor
      · intro failed
        cases failed
        exact ⟨rfl, n, rfl, above⟩
      · rintro ⟨rfl, _⟩
        rfl

end Number
end CollectionSearch
