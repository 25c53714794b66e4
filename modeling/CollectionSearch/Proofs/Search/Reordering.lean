import CollectionSearch.Proofs.Match.Ranking
import CollectionSearch.Proofs.Query.Composition
import CollectionSearch.Proofs.Query.Plain
import CollectionSearch.Service.Engine

/-! The order of the words of a line. Without `OR` and `NOT`, and with one filter of each slot, a line asks for what
its words ask for one by one, and a search that asks for the same in another order has the same results. -/
namespace CollectionSearch
namespace Parsed

structure Alike (a b : Parsed) : Prop where
  kinds : ∀ name, name ∈ a.kinds ↔ name ∈ b.kinds
  filters : ∀ f, f ∈ a.filters ↔ f ∈ b.filters
  phrases : ∀ text, text ∈ a.phrases ↔ text ∈ b.phrases
  groups : ∀ group, group ∈ a.groups ↔ group ∈ b.groups
  excluded : ∀ text, text ∈ a.excluded ↔ text ∈ b.excluded

theorem alikeSymm {a b : Parsed} (alike : Alike a b) : Alike b a where
  kinds name := (alike.kinds name).symm
  filters f := (alike.filters f).symm
  phrases text := (alike.phrases text).symm
  groups group := (alike.groups group).symm
  excluded text := (alike.excluded text).symm

theorem criteriaAlike {a b : Parsed} (alike : Alike a b) : a.hasCriteria = b.hasCriteria := by
  have same {α : Type} {xs ys : List α} (members : ∀ x, x ∈ xs ↔ x ∈ ys) : xs.isEmpty = ys.isEmpty := by
    rw [Bool.eq_iff_iff, List.isEmpty_iff, List.isEmpty_iff, List.eq_nil_iff_forall_not_mem,
      List.eq_nil_iff_forall_not_mem]
    exact forall_congr' (fun x => not_congr (members x))
  unfold hasCriteria
  rw [same alike.kinds, same alike.filters, same alike.phrases, same alike.groups]

end Parsed

namespace Relevance

theorem blockedAlike {a b : Parsed} (alike : Parsed.Alike a b) {item : Item} (blocked : Blocked a item) :
    Blocked b item := by
  cases blocked with
  | kind some other =>
    obtain ⟨name, present⟩ := List.exists_mem_of_ne_nil _ some
    exact .kind (List.ne_nil_of_mem ((alike.kinds name).mp present)) (mt (alike.kinds _).mpr other)
  | filter f member fails => exact .filter f ((alike.filters f).mp member) fails
  | excluded term member text field inside => exact .excluded term ((alike.excluded term).mp member) text field inside
  | phrase text member title content => exact .phrase text ((alike.phrases text).mp member) title content

theorem declaredAlike {a b : Parsed} (alike : Parsed.Alike a b) {item : Item} {value : Nat}
    (declared : Declared a item value) : Declared b item value := by
  have back := Parsed.alikeSymm alike
  cases declared with
  | blocked blocked => exact .blocked (blockedAlike alike blocked)
  | free admitted none =>
    refine .free (mt (blockedAlike back) admitted) (List.eq_nil_iff_forall_not_mem.mpr (fun group member => ?_))
    have listed := (alike.groups group).mpr member
    rw [none] at listed
    contradiction
  | weakest _ admitted some least =>
    obtain ⟨group, present⟩ := List.exists_mem_of_ne_nil _ some
    have same : {best | ∃ group ∈ a.groups, IsBest item group best} =
        {best | ∃ group ∈ b.groups, IsBest item group best} := by simp only [alike.groups]
    exact .weakest _ (mt (blockedAlike back) admitted) (List.ne_nil_of_mem ((alike.groups group).mp present))
      (same ▸ least)

theorem scoreAlike {a b : Parsed} (aTried : a.Evaluable) (bTried : b.Evaluable) (alike : Parsed.Alike a b)
    (item : Item) : score a item = score b item := by
  obtain ⟨value, scored, _, declared⟩ := scoreDecided aTried item
  obtain ⟨other, otherScored, _, otherDeclared⟩ := scoreDecided bTried item
  rw [scored, otherScored, declaredUnique (declaredAlike alike declared) otherDeclared]

end Relevance

namespace Filter

theorem latestFresh {filters : List Filter} (fresh : filters.Pairwise (fun a b => sameSlot a b = false)) :
    latest filters = filters := by
  induction filters with
  | nil => rfl
  | cons f rest ih =>
    obtain ⟨here, behind⟩ := List.pairwise_cons.mp fresh
    have alone : rest.any (sameSlot f) = false := List.any_eq_false.mpr (fun g member => by simp [here g member])
    simp [latest, alone, ih behind]

end Filter

namespace Clause

def single? : Clause → Option (List Text)
  | .term text => some [text]
  | _ => none

theorem chainsSingle {clauses : List Clause} (single : ∀ clause ∈ clauses, ∀ text, clause ≠ .alternative text) :
    chains clauses = ([], clauses.filterMap single?) := by
  induction clauses with
  | nil => rfl
  | cons clause rest ih =>
    obtain ⟨here, behind⟩ := List.forall_mem_cons.mp single
    cases clause with
    | alternative text => exact absurd rfl (here text)
    | term text => simp [chains, ih behind, single?, Text.distinct]
    | phrase text | kinds names | filter f | excluded text =>
      simp [chains, ih behind, List.filterMap_cons, single?]

end Clause

namespace Token

theorem clauseSingle (token : Token) (text : Text) : token.clause ≠ .alternative text := by
  cases token <;> exact nofun

theorem clausesAlike {line other : Text} {front rest : List Token} (members : ∀ token, token ∈ front ↔ token ∈ rest)
    (fresh : ((front.map clause).filterMap Clause.filter?).Pairwise (fun a b => Filter.sameSlot a b = false))
    (freshToo : ((rest.map clause).filterMap Clause.filter?).Pairwise (fun a b => Filter.sameSlot a b = false)) :
    Parsed.Alike (Parsed.ofClauses line (front.map clause)) (Parsed.ofClauses other (rest.map clause)) := by
  have clauses : ∀ c, c ∈ front.map clause ↔ c ∈ rest.map clause := by
    intro c
    simp only [List.mem_map, members]
  have single (tokens : List Token) : ∀ c ∈ tokens.map clause, ∀ text, c ≠ .alternative text := by
    intro c member text
    obtain ⟨token, _, rfl⟩ := List.mem_map.mp member
    exact clauseSingle token text
  refine { kinds := ?_, filters := ?_, phrases := ?_, groups := ?_, excluded := ?_ }
  · intro name
    simp only [Parsed.ofClauses, Text.memDistinct, List.mem_flatMap, clauses]
  · intro f
    simp only [Parsed.ofClauses, Filter.latestFresh fresh, Filter.latestFresh freshToo, List.mem_filterMap, clauses]
  · intro text
    simp only [Parsed.ofClauses, Text.memDistinct, List.mem_filterMap, clauses]
  · intro group
    simp only [Parsed.ofClauses, Clause.groups, Clause.chainsSingle (single front), Clause.chainsSingle (single rest),
      List.mem_filterMap, clauses]
  · intro text
    simp only [Parsed.ofClauses, Text.memDistinct, List.mem_filterMap, clauses]

/- No two words ask for a filter of the same slot. -/
def OneEach (words : List Text) : Prop :=
  words.Pairwise (fun a b => ∀ f g, ofWord a = .ok (.filter f) → ofWord b = .ok (.filter g) →
    ¬ (f.field = g.field ∧ f.comparator = g.comparator))

def filter? (word : Text) : Option Filter :=
  match ofWord word with
  | .ok (.filter f) => some f
  | _ => none

theorem filterIff {word : Text} {f : Filter} : filter? word = some f ↔ ofWord word = .ok (.filter f) := by
  unfold filter?
  split
  · rename_i g read
    rw [read, Option.some.injEq, Except.ok.injEq, Token.filter.injEq]
  · rename_i other
    exact ⟨nofun, fun read => absurd read (other f)⟩

instance (words : List Text) : Decidable (OneEach words) :=
  decidable_of_iff (words.Pairwise (fun a b => ∀ f ∈ filter? a, ∀ g ∈ filter? b,
    ¬ (f.field = g.field ∧ f.comparator = g.comparator))) (by
      unfold OneEach
      simp only [Option.mem_def, filterIff]
      exact ⟨fun apart => apart.imp (fun each f g read readToo => each f read g readToo),
        fun apart => apart.imp (fun each f read g readToo => each f g read readToo)⟩)

theorem oneEachOrder {words order : List Text} (one : OneEach words) (permuted : order.Perm words) : OneEach order := by
  refine (permuted.pairwise_iff ?_).mpr one
  intro a b apart f g read readToo same
  exact apart g f readToo read ⟨same.1.symm, same.2.symm⟩

theorem filterOfClause {token : Token} {f : Filter} (found : Clause.filter? token.clause = some f) :
    token = .filter f := by
  cases token with
  | filter g => exact congrArg _ (Option.some.inj found)
  | either | term text | phrase text | kinds names | excluded text => cases found

theorem oneEachFresh {words : List Text} {tokens : List Token} (one : OneEach words)
    (read : words.mapM ofWord = .ok tokens) :
    ((tokens.map clause).filterMap Clause.filter?).Pairwise (fun a b => Filter.sameSlot a b = false) := by
  rw [List.filterMap_map, List.pairwise_filterMap]
  refine Outcome.eachOkPairwise read (fun a b y z apart first second f isFilter g isFilterToo => ?_) one
  rw [filterOfClause isFilter] at first
  rw [filterOfClause isFilterToo] at second
  simpa [Filter.sameSlot] using apart f g first second

end Token

namespace Parsed

theorem parseWords {line : Text} (unquoted : Piece.quote ∉ line)
    (plain : ∀ word ∈ Text.words line, word ≠ Token.orWord ∧ word ≠ Segment.notWord) {tokens : List Token}
    (read : (Text.words line).mapM Token.ofWord = .ok tokens) :
    parse line = .ok (ofClauses line (tokens.map Token.clause)) := by
  have scanned := Token.scanWords unquoted (fun word member => (plain word member).2)
  refine parseOk.mpr ⟨tokens, scanned.trans read, ?_⟩
  have settled : ∀ token ∈ tokens, token ≠ .either := by
    intro token member same
    obtain ⟨word, present, value⟩ := Outcome.eachOkMem read member
    exact (plain word present).1 (Token.ofWordEither (same ▸ value))
  unfold ofTokens
  rw [Clause.ofTokensPlain settled]

theorem quoteOfWords {line other : Text} (permuted : (Text.words other).Perm (Text.words line))
    (unquoted : Piece.quote ∉ line) : Piece.quote ∉ other := by
  have inWords (s : Text) : Piece.quote ∈ (Text.words s).flatten ↔ Piece.quote ∈ s := by
    rw [Text.wordsFlatten, List.mem_filter]
    simp [Piece.quoteNotBlank]
  exact fun member => unquoted ((inWords line).mp (permuted.flatten.mem_iff.mp ((inWords other).mpr member)))

theorem parseReordered {line other : Text} {parsed : Parsed} (unquoted : Piece.quote ∉ line)
    (plain : ∀ word ∈ Text.words line, word ≠ Token.orWord ∧ word ≠ Segment.notWord)
    (one : Token.OneEach (Text.words line)) (permuted : (Text.words other).Perm (Text.words line))
    (ok : parse line = .ok parsed) : ∃ reordered, parse other = .ok reordered ∧ Alike parsed reordered := by
  obtain ⟨tokens, scanned, _⟩ := parseOk.mp ok
  rw [Token.scanWords unquoted (fun word member => (plain word member).2)] at scanned
  obtain ⟨values, read, members⟩ := Outcome.eachOkPerm scanned permuted
  have plainToo : ∀ word ∈ Text.words other, word ≠ Token.orWord ∧ word ≠ Segment.notWord :=
    fun word member => plain word (permuted.mem_iff.mp member)
  have own := parseWords unquoted plain scanned
  cases own.symm.trans ok
  exact ⟨_, parseWords (quoteOfWords permuted unquoted) plainToo read,
    Token.clausesAlike members (Token.oneEachFresh one scanned)
      (Token.oneEachFresh (Token.oneEachOrder one permuted) read)⟩

end Parsed

namespace Engine

theorem searchReordered {line other : Text} {parsed : Parsed} (unquoted : Piece.quote ∉ line)
    (read : Parsed.parse line = .ok parsed)
    (plain : ∀ word ∈ Text.words line, word ≠ Token.orWord ∧ word ≠ Segment.notWord)
    (one : Token.OneEach (Text.words line)) (permuted : (Text.words other).Perm (Text.words line))
    (snapshot : Snapshot) (cap : Option Int) :
    (⟨snapshot, cap⟩ : Engine).search other = (⟨snapshot, cap⟩ : Engine).search line := by
  obtain ⟨reordered, readToo, alike⟩ := Parsed.parseReordered unquoted plain one permuted read
  have scores := Relevance.scoreAlike (Parsed.parseEvaluable read) (Parsed.parseEvaluable readToo) alike
  simp only [search, Ranking.ofLine, read, readToo, bind, Except.bind]
  exact (Ranking.ofParsedScores (Parsed.criteriaAlike alike) scores cap snapshot).symm

theorem searchReorderedOfBounds :
    let line := "zeta @film year>1999 -old year<2010".toText
    let other := " year<2010 -old  zeta year>1999\t@film".toText
    let parsed : Parsed := {
      raw := line, kinds := ["movie".toText]
      filters := [⟨.year, .above, .number (.whole 1999)⟩, ⟨.year, .below, .number (.whole 2010)⟩]
      phrases := [], groups := [["zeta".toText]], excluded := ["old".toText] }
    let film (year : Text) : Entity := .media ⟨[], "movie".toText, "Zeta".toText, none, Vocabulary.queued, none, none,
      [], [], some year, [], none⟩
    let ranked : List Ranked := [⟨"movie".toText, film "2004".toText, 100⟩]
    let snapshot : Snapshot := ⟨[film "2004".toText, film "2010".toText], [], []⟩
    Piece.quote ∉ line ∧ Parsed.parse line = .ok parsed ∧
    (∀ word ∈ Text.words line, word ≠ Token.orWord ∧ word ≠ Segment.notWord) ∧ Token.OneEach (Text.words line) ∧
    (Text.words other).Perm (Text.words line) ∧ (⟨snapshot, none⟩ : Engine).search line = .ok ranked ∧
    (⟨snapshot, none⟩ : Engine).search other = (⟨snapshot, none⟩ : Engine).search line := by
  intro line other parsed film ranked snapshot
  have unquoted : Piece.quote ∉ line := by decide
  have read : Parsed.parse line = .ok parsed := Outcome.okOfToOption (by decide +kernel)
  have plain : ∀ word ∈ Text.words line, word ≠ Token.orWord ∧ word ≠ Segment.notWord := by decide +kernel
  have one : Token.OneEach (Text.words line) := by decide +kernel
  have permuted : (Text.words other).Perm (Text.words line) := by decide +kernel
  have kept : Ranking.ofEntity parsed (film "2004".toText) = .ok ranked[0] :=
    (Ranking.ofEntityScored rfl).mpr ⟨rfl, rfl, Outcome.okOfToOption (by decide +kernel)⟩
  have out : Ranking.ofEntity parsed (film "2010".toText) = .ok ⟨"movie".toText, film "2010".toText, 0⟩ :=
    (Ranking.ofEntityScored rfl).mpr ⟨rfl, rfl, Outcome.okOfToOption (by decide +kernel)⟩
  have made : Ranking.full parsed snapshot.entities = .ok ranked :=
    Outcome.bindOk.mpr ⟨_, Outcome.eachOk.mpr (.cons kept (.cons out .nil)),
      congrArg Except.ok (List.mergeSort_singleton _)⟩
  have found : (⟨snapshot, none⟩ : Engine).search line = .ok ranked :=
    Ranking.ofLineCut read (by decide) snapshot made none
  exact ⟨unquoted, read, plain, one, permuted, found, searchReordered unquoted read plain one permuted snapshot none⟩

end Engine
end CollectionSearch
