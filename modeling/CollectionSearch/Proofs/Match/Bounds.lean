import CollectionSearch.Proofs.Match.Comparison
import CollectionSearch.Proofs.Match.Evaluable
import Mathlib.Algebra.Order.Field.Basic
import Mathlib.Algebra.Order.Field.Rat

/-! Numeric filters as bounds. A number has an exact value, a fraction between two infinities, unless it is none, and
filters compare these values. So nothing is rounded, the five comparisons are those of one order, and what has no value
passes none of them. -/
namespace CollectionSearch

namespace Comparator

instance {α : Type} [LinearOrder α] (comparator : Comparator) (left right : α) :
    Decidable (comparator.Holds left right) :=
  match comparator with
  | .equal => inferInstanceAs (Decidable (left = right))
  | .above => inferInstanceAs (Decidable (right < left))
  | .below => inferInstanceAs (Decidable (left < right))
  | .atLeast => inferInstanceAs (Decidable (right ≤ left))
  | .atMost => inferInstanceAs (Decidable (left ≤ right))
  | .other _ => inferInstanceAs (Decidable False)

theorem holdsMono {α β : Type} [LinearOrder α] [LinearOrder β] {f : α → β} (mono : StrictMono f)
    (comparator : Comparator) (left right : α) :
    comparator.Holds (f left) (f right) ↔ comparator.Holds left right := by
  cases comparator with
  | equal => exact mono.injective.eq_iff
  | above | below => exact mono.lt_iff_lt
  | atLeast | atMost => exact mono.le_iff_le
  | other symbol => exact Iff.rfl

end Comparator

namespace Number

abbrev Value := WithBot (WithTop ℚ)

def Value.ofRat (q : ℚ) : Value := ((q : WithTop ℚ) : Value)

def Value.top : Value := ((⊤ : WithTop ℚ) : Value)

def value? : Number → Option Value
  | .whole n => some (.ofRat n)
  | .real .nan => none
  | .real (.infinite negative) => some (if negative then ⊥ else .top)
  | .real (.finite negative quanta) => some (.ofRat (Binary64.signed negative quanta / Binary64.unit))

def isFinite : Number → Bool
  | .whole _ => true
  | .real x => x.isFinite

theorem valueNone {number : Number} : number.value? = none ↔ number = .real .nan := by
  cases number with
  | whole n => exact iff_of_false nofun nofun
  | real x =>
    cases x with
    | nan => exact iff_of_true rfl rfl
    | infinite | finite => exact iff_of_false nofun nofun

theorem valueFinite {number : Number} (finite : number.isFinite = true) :
    ∃ q : ℚ, number.value? = some (.ofRat q) := by
  cases number with
  | whole n => exact ⟨n, rfl⟩
  | real x =>
    cases x with
    | nan | infinite => cases finite
    | finite negative quanta => exact ⟨_, rfl⟩

def fraction (quanta : Int) : ℚ := quanta / Binary64.unit

theorem unitPositive : (0 : ℚ) < Binary64.unit := Nat.cast_pos.mpr Binary64.unitPos

theorem fractionLess {a b : Int} (less : a < b) : fraction a < fraction b :=
  div_lt_div_of_pos_right (Int.cast_lt.mpr less) unitPositive

theorem valueRank (number : Number) : number.value? = number.rank?.map (WithBot.map (WithTop.map fraction)) := by
  cases number with
  | whole n =>
    have same : fraction (n * Binary64.unit) = n := by
      rw [fraction, Int.cast_mul, Int.cast_natCast, mul_div_cancel_right₀ _ unitPositive.ne']
    show some (Value.ofRat n) = some (Value.ofRat (fraction (n * Binary64.unit)))
    rw [same]
  | real x =>
    cases x with
    | nan | finite negative quanta => rfl
    | infinite negative => cases negative <;> rfl

theorem acceptsValue {comparator : Comparator} {a b : Number} :
    comparator.accepts? (a.compare? b) = some true ↔
      ∃ left right, a.value? = some left ∧ b.value? = some right ∧ comparator.Holds left right := by
  have scale : StrictMono fraction := fun _ _ => fractionLess
  have mono : StrictMono (WithBot.map (WithTop.map fraction)) := scale.withTop_map.withBot_map
  rw [acceptsRank, valueRank, valueRank]
  constructor
  · rintro ⟨left, right, first, second, holds⟩
    exact ⟨_, _, by rw [first]; rfl, by rw [second]; rfl, (Comparator.holdsMono mono _ _ _).mpr holds⟩
  · rintro ⟨_, _, first, second, holds⟩
    obtain ⟨left, here, rfl⟩ := Option.map_eq_some_iff.mp first
    obtain ⟨right, there, rfl⟩ := Option.map_eq_some_iff.mp second
    exact ⟨left, right, here, there, (Comparator.holdsMono mono _ _ _).mp holds⟩

end Number

namespace Item

inductive Shows (item : Item) : Field → Option Number → Prop where
  | year : Shows item .year item.year
  | rating : Shows item .rating item.rating

end Item

namespace Filter
open Number (Value)
variable {item : Item} {field : Field} {actual : Option Number}

theorem passesShown (shows : item.Shows field actual) (comparator : Comparator) (value : FilterValue) :
    passes ⟨field, comparator, value⟩ item = compares ⟨field, comparator, value⟩ actual := by
  cases shows <;> rfl

theorem passesMeets (shows : item.Shows field actual) {comparator : Comparator} (known : comparator.Known)
    (x : Number) : ∃ passed, passes ⟨field, comparator, .number x⟩ item = .ok passed ∧
      (passed = true ↔ ∃ a v, actual.bind Number.value? = some a ∧ x.value? = some v ∧ comparator.Holds a v) := by
  obtain ⟨passed, tried⟩ := comparesDecided (f := ⟨field, comparator, .number x⟩) known rfl actual
  refine ⟨passed, by rw [passesShown shows, tried], ?_⟩
  have accepted : compares ⟨field, comparator, .number x⟩ actual = .ok true ↔ _ := comparesIff rfl
  rw [tried, Except.ok.injEq] at accepted
  rw [accepted]
  cases actual with
  | none => simp
  | some present => simp [Number.acceptsValue]

theorem passesPlaced (shows : item.Shows field actual) {comparator : Comparator} (known : comparator.Known)
    {x : Number} {v : Value} (value : x.value? = some v) :
    passes ⟨field, comparator, .number x⟩ item =
      .ok ((actual.bind Number.value?).any (comparator.Holds · v)) := by
  obtain ⟨passed, tried, meets⟩ := passesMeets shows known x
  rw [tried, Except.ok.injEq, Bool.eq_iff_iff, meets, Option.any_eq_true]
  simp [value]

theorem passesIff (shows : item.Shows field actual) {comparator : Comparator} (known : comparator.Known)
    {x : Number} {v : Value} (value : x.value? = some v) :
    passes ⟨field, comparator, .number x⟩ item = .ok true ↔
      ∃ a, actual.bind Number.value? = some a ∧ comparator.Holds a v := by
  rw [passesPlaced shows known value, Except.ok.injEq, Option.any_eq_true]
  simp

theorem passesNothing (shows : item.Shows field actual) (nowhere : actual.bind Number.value? = none)
    {comparator : Comparator} (known : comparator.Known) (x : Number) :
    passes ⟨field, comparator, .number x⟩ item = .ok false := by
  obtain ⟨passed, tried, meets⟩ := passesMeets shows known x
  rw [tried, Except.ok.injEq, ← Bool.not_eq_true, meets, nowhere]
  simp

def tried (item : Item) (field : Field) (x : Number) (comparator : Comparator) : Except Fault Bool :=
  passes ⟨field, comparator, .number x⟩ item

structure Compared (outcome : Comparator → Except Fault Bool) (a v : Value) : Prop where
  exact : ∀ comparator : Comparator, comparator.Known → outcome comparator = .ok (decide (comparator.Holds a v))
  one : (outcome .below = .ok true ∧ outcome .equal = .ok false ∧ outcome .above = .ok false) ∨
    (outcome .below = .ok false ∧ outcome .equal = .ok true ∧ outcome .above = .ok false) ∨
    (outcome .below = .ok false ∧ outcome .equal = .ok false ∧ outcome .above = .ok true)
  atLeast : outcome .atLeast = (outcome .below).map (!·)
  atMost : outcome .atMost = (outcome .above).map (!·)

theorem comparedExact {outcome : Comparator → Except Fault Bool} {a v : Value}
    (exact : ∀ comparator : Comparator, comparator.Known → outcome comparator = .ok (decide (comparator.Holds a v))) :
    Compared outcome a v := by
  have equal : outcome .equal = .ok (decide (a = v)) := exact .equal nofun
  have above : outcome .above = .ok (decide (v < a)) := exact .above nofun
  have below : outcome .below = .ok (decide (a < v)) := exact .below nofun
  have atLeast : outcome .atLeast = .ok (decide (v ≤ a)) := exact .atLeast nofun
  have atMost : outcome .atMost = .ok (decide (a ≤ v)) := exact .atMost nofun
  refine ⟨exact, ?_, ?_, ?_⟩
  · rw [equal, above, below]
    rcases lt_trichotomy a v with less | rfl | more
    · simp [less, less.ne, less.not_gt]
    · simp
    · simp [more, more.ne', more.not_gt]
  · rw [atLeast, below, Except.map, ← decide_not]
    exact congrArg Except.ok (decide_eq_decide.mpr not_lt.symm)
  · rw [atMost, above, Except.map, ← decide_not]
    exact congrArg Except.ok (decide_eq_decide.mpr not_lt.symm)

theorem admitsBoth {parsed : Parsed} (any : parsed.kinds = []) {f g : Filter} (both : parsed.filters = [f, g])
    {first second : Bool} (left : f.passes item = .ok first) (right : g.passes item = .ok second) :
    parsed.admits item = .ok (first && second) := by
  have allowed : parsed.allowsKind item.kind = true := (parsed.allowsKindIff item.kind).mpr (.inl any)
  rw [Parsed.admits, if_pos allowed, both]
  cases first with
  | false => simp [allPass, left, bind, Except.bind, pure, Except.pure]
  | true => cases second <;> simp [allPass, left, right, bind, Except.bind, pure, Except.pure]

theorem numericOrdered (shows : item.Shows field actual) :
    let place := actual.bind Number.value?
    (place = none ↔ actual = none ∨ actual = some (.real .nan)) ∧
    (place = none → ∀ x comparator, comparator.Known → tried item field x comparator = .ok false) ∧
    (∀ x, x.isFinite = true → ∃ q, x.value? = some (.ofRat q) ∧
      ∀ a, place = some a → Compared (tried item field x) a (.ofRat q)) ∧
    ∀ x y v w, x.value? = some v → y.value? = some w →
      (v ≤ w → (tried item field y .above = .ok true → tried item field x .above = .ok true) ∧
        (tried item field x .below = .ok true → tried item field y .below = .ok true)) ∧
      ∀ lower upper, lower.Known → upper.Known → ∀ parsed : Parsed, parsed.kinds = [] →
        parsed.filters = [⟨field, lower, .number x⟩, ⟨field, upper, .number y⟩] →
        parsed.admits item = .ok (place.any (fun a => lower.Holds a v ∧ upper.Holds a w)) := by
  intro place
  refine ⟨?_, fun nowhere x comparator known => passesNothing shows nowhere known x, ?_, ?_⟩
  · cases actual with
    | none => simp [place]
    | some number => simp [place, Number.valueNone]
  · intro x finite
    obtain ⟨q, value⟩ := Number.valueFinite finite
    refine ⟨q, value, fun a here => comparedExact (fun comparator known => ?_)⟩
    have placed := passesPlaced shows known value
    rwa [show actual.bind Number.value? = some a from here, Option.any_some] at placed
  · intro x y v w first second
    have above : Comparator.above.Known := nofun
    have below : Comparator.below.Known := nofun
    refine ⟨fun least => ⟨fun passed => ?_, fun passed => ?_⟩,
      fun lower upper knownLower knownUpper parsed any both => ?_⟩
    · obtain ⟨a, here, more⟩ := (passesIff shows above second).mp passed
      exact (passesIff shows above first).mpr ⟨a, here, lt_of_le_of_lt least more⟩
    · obtain ⟨a, here, less⟩ := (passesIff shows below first).mp passed
      exact (passesIff shows below second).mpr ⟨a, here, lt_of_lt_of_le less least⟩
    · rw [admitsBoth any both (passesPlaced shows knownLower first) (passesPlaced shows knownUpper second)]
      show Except.ok (place.any _ && place.any _) = _
      cases place <;> simp

/- A real number and the whole one right above it, which rounding would take for the same. -/
theorem numericOrderedOfNeighbours :
    let item : Item := {
      id := [], kind := "place".toText, title := "Bar".toText, content := [], status := none
      rating := some (.real (.ofDecimal false 9007199254740992 0)), year := none, creator := none, genres := []
      tags := [], archived := none, read := none, visited := none }
    let next : Number := .whole 9007199254740993
    let second : Number := .whole 9007199254740994
    let parsed : Parsed := {
      raw := [], kinds := [], phrases := [], groups := [], excluded := []
      filters := [⟨.rating, .atLeast, .number next⟩, ⟨.rating, .below, .number second⟩] }
    tried item .rating next .below = .ok true ∧ tried item .rating next .equal = .ok false ∧
    tried item .rating next .atLeast = .ok false ∧ tried item .rating second .below = .ok true ∧
    parsed.admits item = .ok false ∧ tried item .year next .atMost = .ok false := by
  intro item next second parsed
  have below : tried item .rating next .below = .ok true := Outcome.okOfToOption (by decide +kernel)
  obtain ⟨absent, _, compared, bounds⟩ := numericOrdered (@Item.Shows.rating item)
  obtain ⟨_, nothing, _, _⟩ := numericOrdered (@Item.Shows.year item)
  obtain ⟨q, value, laws⟩ := compared next rfl
  have present : item.rating.bind Number.value? ≠ none := by
    intro none
    rcases absent.mp none with missing | nan
    · cases missing
    · exact absurd nan (by decide +kernel)
  obtain ⟨a, here⟩ := Option.ne_none_iff_exists'.mp present
  have law := laws a here
  have less : a < .ofRat q := of_decide_eq_true (Except.ok.inj ((law.exact .below nofun).symm.trans below))
  have equal : tried item .rating next .equal = .ok false := by
    rcases law.one with ⟨_, equal, _⟩ | ⟨other, _⟩ | ⟨other, _⟩
    · exact equal
    · cases below.symm.trans other
    · cases below.symm.trans other
  have order : Number.Value.ofRat q ≤ .ofRat (9007199254740994 : Int) := by
    have same : ((9007199254740993 : Int) : ℚ) = q :=
      WithTop.coe_injective (WithBot.coe_injective (Option.some.inj value))
    exact same ▸ WithBot.coe_le_coe.mpr (WithTop.coe_le_coe.mpr (Int.cast_le.mpr (by decide)))
  obtain ⟨wider, between⟩ := bounds next second _ _ value rfl
  have admitted := between .atLeast .below nofun nofun parsed rfl rfl
  rw [here] at admitted
  refine ⟨below, equal, law.atLeast.trans (by rw [below]; rfl), (wider order).2 below, ?_,
    nothing rfl next .atMost nofun⟩
  exact admitted.trans (congrArg Except.ok (decide_eq_false (fun both => absurd less (not_lt.mpr both.1))))

end Filter
end CollectionSearch
