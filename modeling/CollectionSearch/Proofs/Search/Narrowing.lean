import CollectionSearch.Proofs.Match.Ranking
import CollectionSearch.Proofs.Query.Composition
import CollectionSearch.Proofs.Query.Plain
import CollectionSearch.Proofs.Query.WellFormed
import CollectionSearch.Proofs.Text.Agreement

/-! A constraint written behind a line: an exclusion, a phrase, or a filter of a slot that the line leaves free. It
takes from the ranking the entities that do not satisfy it and leaves scores and order of all others. -/
namespace CollectionSearch

inductive Constraint (first : Parsed) : Text → (Item → Prop) → Prop where
  | excluded (word : Text) (some : word ≠ []) (full : ∀ c ∈ word, Text.isBlank c = false) :
      Constraint first (.char '-' :: word)
        (fun item => ∀ text, item.IsField text → ¬ Text.fold word <:+: Text.fold text)
  | phrase (text : Text) (some : text ≠ []) (unquoted : Piece.quote ∉ text) :
      Constraint first (Piece.phrase text).written
        (fun item => Text.fold text <:+: Text.fold item.title ∨ Text.fold text <:+: Text.fold item.content)
  | filter (word : Text) (some : word ≠ []) (full : ∀ c ∈ word, Text.isBlank c = false) (f : Filter)
      (read : Token.ofWord word = .ok (.filter f))
      (fresh : ∀ g ∈ first.filters, ¬ (g.field = f.field ∧ g.comparator = f.comparator)) :
      Constraint first word (fun item => f.passes item = .ok true)

namespace Piece

theorem scanPhrase {text : Text} (some : text ≠ []) (unquoted : quote ∉ text) :
    scan (Piece.phrase text).written = [.phrase text] := by
  have all : ∀ c ∈ text, decide (c ≠ quote) = true :=
    fun c member => decide_eq_true (fun same => unquoted (same ▸ member))
  have opened : span? (text ++ [quote]) = .some (text, []) := by
    obtain ⟨c, rest, rfl⟩ := List.exists_cons_of_ne_nil some
    unfold span?
    rw [List.takeWhile_append_of_pos all, List.dropWhile_append_of_pos all]
    simp
  show scan (quote :: (text ++ [quote])) = [.phrase text]
  rw [scan, if_neg (by simp [quoteNotBlank]), next, if_pos rfl, opened]
  simp [scan]

end Piece

namespace Token

theorem ofWordQuoted (rest : Text) :
    ofWord (Piece.quote :: rest) = .ok (.term (Text.lower (Piece.quote :: rest))) := by
  have keyless : splitKey? (Piece.quote :: rest) = none := by
    have stops : isLetter Piece.quote = false := by decide
    simp [splitKey?, stops]
  have other {sign : CodePoint} {more : Text} (different : Piece.quote ≠ sign) : Piece.quote :: rest ≠ sign :: more :=
    fun same => different (List.cons.inj same).1
  exact ofWordShapeless ⟨other (by decide), fun _ _ => other (by decide), fun _ _ => other (by decide),
    by simp [comparison?, keyless], by simp [assignment?, keyless]⟩

end Token

namespace Relevance

/- Two lines put behind each other block what either of them blocks, if only the first one asks for kinds and no
filter of the second one replaces any of the first. -/
theorem blockedFollowed {first second joined : Parsed} (followed : Parsed.Followed first second joined)
    (unkinded : second.kinds = [])
    (fresh : ∀ f ∈ first.filters, ∀ g ∈ second.filters, Filter.sameSlot f g = false) (item : Item) :
    Blocked joined item ↔ Blocked first item ∨ Blocked second item := by
  have kinds : ∀ name, name ∈ joined.kinds ↔ name ∈ first.kinds := by
    intro name
    simp [followed.kinds, unkinded]
  have filters : ∀ f, f ∈ joined.filters ↔ f ∈ first.filters ∨ f ∈ second.filters := by
    intro f
    have stays : f ∈ first.filters → second.filters.any (Filter.sameSlot f) = false :=
      fun member => List.any_eq_false.mpr (fun g present => by simp [fresh f member g present])
    simp only [followed.filters, List.mem_append, List.mem_filter, Bool.not_eq_true', and_iff_left_of_imp stays]
  have phrases : ∀ text, text ∈ joined.phrases ↔ text ∈ first.phrases ∨ text ∈ second.phrases := by
    intro text
    rw [followed.phrases]
    by_cases held : text ∈ first.phrases <;> simp [held]
  constructor
  · intro blocked
    cases blocked with
    | kind some other =>
      obtain ⟨name, present⟩ := List.exists_mem_of_ne_nil _ some
      exact .inl (.kind (List.ne_nil_of_mem ((kinds name).mp present)) (mt (kinds _).mpr other))
    | filter f member fails =>
      exact ((filters f).mp member).imp (.filter f · fails) (.filter f · fails)
    | excluded term member text field inside =>
      exact ((followed.excluded term).mp member).imp (.excluded term · text field inside)
        (.excluded term · text field inside)
    | phrase text member title content =>
      exact ((phrases text).mp member).imp (.phrase text · title content) (.phrase text · title content)
  · intro either
    cases either with
    | inl blocked =>
      cases blocked with
      | kind some other =>
        obtain ⟨name, present⟩ := List.exists_mem_of_ne_nil _ some
        exact .kind (List.ne_nil_of_mem ((kinds name).mpr present)) (mt (kinds _).mp other)
      | filter f member fails => exact .filter f ((filters f).mpr (.inl member)) fails
      | excluded term member text field inside =>
        exact .excluded term ((followed.excluded term).mpr (.inl member)) text field inside
      | phrase text member title content => exact .phrase text ((phrases text).mpr (.inl member)) title content
    | inr blocked =>
      cases blocked with
      | kind some other => exact absurd unkinded some
      | filter f member fails => exact .filter f ((filters f).mpr (.inr member)) fails
      | excluded term member text field inside =>
        exact .excluded term ((followed.excluded term).mpr (.inr member)) text field inside
      | phrase text member title content => exact .phrase text ((phrases text).mpr (.inr member)) title content

theorem blockedExcluded (line text : Text) (item : Item) :
    Blocked (Parsed.ofClauses line [.excluded text]) item ↔
      ∃ field, item.IsField field ∧ Text.fold text <:+: Text.fold field := by
  have single : (Parsed.ofClauses line [.excluded text]).excluded = [text] := rfl
  constructor
  · intro blocked
    cases blocked with
    | kind some other => exact absurd rfl some
    | filter f member fails => exact absurd member List.not_mem_nil
    | excluded term member field isField inside =>
      rw [single, List.mem_singleton] at member
      exact ⟨field, isField, member ▸ inside⟩
    | phrase phrase member title content => exact absurd member List.not_mem_nil
  · intro ⟨field, isField, inside⟩
    exact .excluded text (single ▸ List.mem_singleton_self text) field isField inside

theorem blockedPhrase (line text : Text) (item : Item) :
    Blocked (Parsed.ofClauses line [.phrase text]) item ↔
      ¬ (Text.fold text <:+: Text.fold item.title ∨ Text.fold text <:+: Text.fold item.content) := by
  have single : (Parsed.ofClauses line [.phrase text]).phrases = [text] := rfl
  rw [not_or]
  constructor
  · intro blocked
    cases blocked with
    | kind some other => exact absurd rfl some
    | filter f member fails => exact absurd member List.not_mem_nil
    | excluded term member field isField inside => exact absurd member List.not_mem_nil
    | phrase phrase member title content =>
      rw [single, List.mem_singleton] at member
      exact member ▸ ⟨title, content⟩
  · intro ⟨title, content⟩
    exact .phrase text (single ▸ List.mem_singleton_self text) title content

theorem blockedFilter (line : Text) {f : Filter} (evaluable : f.Evaluable) (item : Item) :
    Blocked (Parsed.ofClauses line [.filter f]) item ↔ ¬ f.passes item = .ok true := by
  have single : (Parsed.ofClauses line [.filter f]).filters = [f] := rfl
  obtain ⟨passed, tried⟩ := Filter.passesDecided evaluable item
  constructor
  · intro blocked
    cases blocked with
    | kind some other => exact absurd rfl some
    | filter g member fails =>
      rw [single, List.mem_singleton] at member
      intro passes
      cases (member ▸ fails).symm.trans passes
    | excluded term member field isField inside => exact absurd member List.not_mem_nil
    | phrase phrase member title content => exact absurd member List.not_mem_nil
  · intro fails
    cases passed with
    | true => exact absurd tried fails
    | false => exact .filter f (single ▸ List.mem_singleton_self f) tried

theorem scoreKept {first joined : Parsed} (firstTried : first.Evaluable) (joinedTried : joined.Evaluable)
    (groups : joined.groups = first.groups) {item : Item}
    (blocked : Blocked joined item ↔ Blocked first item) : score joined item = score first item := by
  by_cases out : Blocked first item
  · rw [scoreBlocked firstTried out, scoreBlocked joinedTried (blocked.mpr out)]
  · rw [scoreAdmitted firstTried out, scoreAdmitted joinedTried (mt blocked.mp out), groups]

end Relevance

namespace Constraint

structure Read (first : Parsed) (written : Text) (keeps : Item → Prop) (token : Token) : Prop where
  apart : token.Apart
  scanned : Token.scan written = .ok [token]
  unkinded : (Parsed.ofClauses written [token.clause]).kinds = []
  fresh : ∀ f ∈ first.filters, ∀ g ∈ (Parsed.ofClauses written [token.clause]).filters, Filter.sameSlot f g = false
  blocked : ∀ item, Relevance.Blocked (Parsed.ofClauses written [token.clause]) item ↔ ¬ keeps item

theorem excludedRead (first : Parsed) {word : Text} (some : word ≠ [])
    (full : ∀ c ∈ word, Text.isBlank c = false) :
    Read first (.char '-' :: word)
      (fun item => ∀ text, item.IsField text → ¬ Text.fold word <:+: Text.fold text)
      (.excluded (Text.lower word)) := by
  have filled : ∀ x ∈ .char '-' :: word, Text.isBlank x = false := List.forall_mem_cons.mpr ⟨by decide, full⟩
  have scanned := Token.scanWord (by decide) filled (Token.ofWordExcluded some)
  refine ⟨⟨nofun, nofun⟩, scanned, rfl, fun f _ g member => ?_, fun item => ?_⟩
  · exact absurd member List.not_mem_nil
  · rw [Token.clause, Relevance.blockedExcluded, Text.foldLower]
    simp only [not_forall, not_not, exists_prop]

theorem phraseRead (first : Parsed) {text : Text} (some : text ≠ []) (unquoted : Piece.quote ∉ text) :
    Read first (Piece.phrase text).written
      (fun item => Text.fold text <:+: Text.fold item.title ∨ Text.fold text <:+: Text.fold item.content)
      (.phrase (Text.lower text)) := by
  have scanned : Token.scan (Piece.phrase text).written = .ok [.phrase (Text.lower text)] := by
    unfold Token.scan
    rw [Piece.scanPhrase some unquoted]
    rfl
  refine ⟨⟨nofun, nofun⟩, scanned, rfl, fun f _ g member => ?_, fun item => ?_⟩
  · exact absurd member List.not_mem_nil
  · rw [Token.clause, Relevance.blockedPhrase, Text.foldLower]

theorem filterRead {first : Parsed} {word : Text} (some : word ≠ []) (full : ∀ c ∈ word, Text.isBlank c = false)
    {f : Filter} (read : Token.ofWord word = .ok (.filter f))
    (fresh : ∀ g ∈ first.filters, ¬ (g.field = f.field ∧ g.comparator = f.comparator)) :
    Read first word (fun item => f.passes item = .ok true) (.filter f) := by
  have written : f.Written := Token.ofSegmentWritten (show Token.ofSegment (.word word) = .ok (.filter f) from read)
  have scanned : Token.scan word = .ok [.filter f] := by
    obtain ⟨c, rest, rfl⟩ := List.exists_cons_of_ne_nil some
    refine Token.scanWord (fun same => ?_) full read
    rw [same, Token.ofWordQuoted] at read
    cases read
  refine ⟨⟨nofun, nofun⟩, scanned, rfl, fun g present h member => ?_, fun item => ?_⟩
  · have same : h = f := List.mem_singleton.mp member
    have other := fresh g present
    simpa [Filter.sameSlot, same] using other
  · exact Relevance.blockedFilter word (Filter.writtenEvaluable written) item

theorem read {first : Parsed} {written : Text} {keeps : Item → Prop} (constraint : Constraint first written keeps) :
    ∃ token, Read first written keeps token := by
  cases constraint with
  | excluded word some full => exact ⟨_, excludedRead first some full⟩
  | phrase text some unquoted => exact ⟨_, phraseRead first some unquoted⟩
  | filter word some full f read fresh => exact ⟨_, filterRead some full read fresh⟩

end Constraint

namespace Parsed

theorem criteriaFollowed {first second joined : Parsed} (followed : Followed first second joined)
    (fresh : ∀ f ∈ first.filters, ∀ g ∈ second.filters, Filter.sameSlot f g = false)
    (asks : first.hasCriteria = true) : joined.hasCriteria = true := by
  by_contra nothing
  obtain ⟨kinds, filters, phrases, groups⟩ := criteriaNone.mp (by simpa using nothing)
  have noKinds : first.kinds = [] := by
    refine List.eq_nil_iff_forall_not_mem.mpr (fun name member => ?_)
    have listed := (followed.kinds name).mpr (.inl member)
    exact absurd (kinds ▸ listed) List.not_mem_nil
  have noPhrases : first.phrases = [] := (List.append_eq_nil_iff.mp (followed.phrases ▸ phrases)).1
  have noGroups : first.groups = [] := (List.append_eq_nil_iff.mp (followed.groups ▸ groups)).1
  have noFilters : first.filters = [] := by
    have none := (List.append_eq_nil_iff.mp (followed.filters ▸ filters)).1
    rw [List.filter_eq_self.mpr] at none
    · exact none
    · intro f member
      simpa using fresh f member
  rw [criteriaNone.mpr ⟨noKinds, noFilters, noPhrases, noGroups⟩] at asks
  cases asks

structure Narrowed (first joined : Parsed) (keeps : Item → Prop) : Prop where
  asks : first.hasCriteria = true → joined.hasCriteria = true
  groups : joined.groups = first.groups
  blocked : ∀ item, Relevance.Blocked joined item ↔ Relevance.Blocked first item ∨ ¬ keeps item

theorem parseNarrowed {line written : Text} {first : Parsed} {keeps : Item → Prop} (unquoted : Piece.quote ∉ line)
    (free : (Text.words line).getLast? ≠ some Segment.notWord) (ok : parse line = .ok first)
    (constraint : Constraint first written keeps) :
    ∃ joined, parse (line ++ .char ' ' :: written) = .ok joined ∧ Narrowed first joined keeps := by
  obtain ⟨token, apart, scanned, unkinded, fresh, blocked⟩ := constraint.read
  obtain ⟨front, frontScanned, rfl⟩ := parseOk.mp ok
  have last : (Piece.scan line).getLast? ≠ some (.word Segment.notWord) :=
    Piece.scanWords unquoted ▸ Piece.wordsLast free
  have blank : ∀ c ∈ [CodePoint.char ' '], Text.isBlank c = true := by decide
  have both := Token.scanJoined (.inl unquoted) (List.cons_ne_nil _ _) blank last frontScanned scanned
  rw [List.append_assoc, List.singleton_append] at both
  have alone : (Clause.chains [token.clause]).1 = [] := by cases token <;> rfl
  have followed := clausesFollowed line written (line ++ .char ' ' :: written) (Clause.ofTokens false front) alone
  rw [← Clause.ofTokensLast apart] at followed
  refine ⟨_, parseOk.mpr ⟨_, both, rfl⟩, criteriaFollowed followed fresh, ?_, fun item => ?_⟩
  · have none : (ofClauses written [token.clause]).groups = [] := by
      cases token with
      | either => exact absurd rfl apart.1
      | term text => exact absurd rfl (apart.2 text)
      | phrase text | kinds names | filter f | excluded text => rfl
    rw [ofTokens, followed.groups, none, List.append_nil]
    rfl
  · rw [ofTokens, Relevance.blockedFollowed followed unkinded fresh item, blocked item]
    rfl

end Parsed

namespace Ranking

def reduced (keep : Ranked → Bool) (entry : Ranked) : Ranked := if keep entry then entry else { entry with score := 0 }

theorem reducedRelevant (keep : Ranked → Bool) (entries : List Ranked) :
    (entries.map (reduced keep)).filter (0 < ·.score) = (entries.filter (0 < ·.score)).filter keep := by
  induction entries with
  | nil => rfl
  | cons entry rest ih =>
    cases kept : keep entry <;> by_cases relevant : 0 < entry.score <;> simp [reduced, kept, relevant, ih]

theorem fullReduced {first joined : Parsed} {keep : Ranked → Bool} {entities : List Entity} {ranked : List Ranked}
    (each : ∀ entity entry, ofEntity first entity = .ok entry → ofEntity joined entity = .ok (reduced keep entry))
    (ok : full first entities = .ok ranked) : full joined entities = .ok (ranked.filter keep) := by
  obtain ⟨entries, read, same⟩ := Outcome.bindOk.mp ok
  cases same
  have both : entities.mapM (ofEntity joined) = .ok (entries.map (reduced keep)) := by
    rw [Outcome.eachOk, List.forall₂_map_right_iff]
    exact (Outcome.eachOk.mp read).imp (fun entity entry => each entity entry)
  refine Outcome.bindOk.mpr ⟨_, both, ?_⟩
  rw [reducedRelevant]
  refine congrArg Except.ok (Sequence.sortFilter _ ?_ ?_ keep _)
  · intro a b c
    simp only [decide_eq_true_eq]
    omega
  · intro a b
    simp only [Bool.or_eq_true, decide_eq_true_eq]
    omega

open Classical in
theorem fullNarrowed {first joined : Parsed} {keeps : Item → Prop} (firstTried : first.Evaluable)
    (joinedTried : joined.Evaluable) (narrowed : Parsed.Narrowed first joined keeps) {entities : List Entity}
    {ranked : List Ranked} (ok : full first entities = .ok ranked) :
    ∃ keep : Ranked → Bool,
      (∀ entry, keep entry = true ↔ ∃ item, entry.entity.toItem = .ok item ∧ keeps item) ∧
      full joined entities = .ok (ranked.filter keep) := by
  refine ⟨fun entry => decide (∃ item, entry.entity.toItem = .ok item ∧ keeps item), fun entry => by simp, ?_⟩
  refine fullReduced (fun entity entry made => ?_) ok
  obtain ⟨same, ⟨item, projected, kind⟩, _⟩ := ofEntityIff.mp made
  obtain ⟨_, _, scored⟩ := (ofEntityScored projected).mp made
  unfold reduced
  by_cases satisfied : keeps item
  · have alike : Relevance.Blocked joined item ↔ Relevance.Blocked first item := by simp [narrowed.blocked, satisfied]
    have unchanged := Relevance.scoreKept firstTried joinedTried narrowed.groups alike
    have kept : ∃ item, entry.entity.toItem = .ok item ∧ keeps item := ⟨item, same ▸ projected, satisfied⟩
    rw [if_pos (by simpa using kept)]
    exact (ofEntityScored projected).mpr ⟨same, kind, unchanged.trans scored⟩
  · have out : Relevance.Blocked joined item := (narrowed.blocked item).mpr (.inr satisfied)
    have dropped : ¬ ∃ item, entry.entity.toItem = .ok item ∧ keeps item := by
      intro ⟨other, found, kept⟩
      rw [same] at found
      exact satisfied (Except.ok.inj (projected.symm.trans found) ▸ kept)
    rw [if_neg (by simpa using dropped)]
    exact (ofEntityScored projected).mpr ⟨same, kind, Relevance.scoreBlocked joinedTried out⟩

theorem appendedFilters {line written : Text} {parsed : Parsed} {keeps : Item → Prop}
    (unquoted : Piece.quote ∉ line) (read : Parsed.parse line = .ok parsed) (asks : parsed.hasCriteria = true)
    (free : (Text.words line).getLast? ≠ some Segment.notWord) (constraint : Constraint parsed written keeps)
    {snapshot : Snapshot} {ranked : List Ranked} (found : ofLine none line snapshot = .ok ranked) :
    ∃ keep : Ranked → Bool,
      (∀ entry, keep entry = true ↔ ∃ item, entry.entity.toItem = .ok item ∧ keeps item) ∧
      ofLine none (line ++ .char ' ' :: written) snapshot = .ok (ranked.filter keep) := by
  obtain ⟨joined, joinedRead, narrowed⟩ := Parsed.parseNarrowed unquoted free read constraint
  simp only [ofLine, read, ofParsed, asks, bind, Except.bind, if_true] at found
  obtain ⟨entries, made, rfl⟩ := Outcome.mapOk.mp found
  obtain ⟨keep, decides, both⟩ :=
    fullNarrowed (Parsed.parseEvaluable read) (Parsed.parseEvaluable joinedRead) narrowed made
  exact ⟨keep, decides, ofLineCut joinedRead (narrowed.asks asks) snapshot both none⟩

theorem appendedFiltersOfNotes :
    let line := "alpha OR zeta by:Z OR".toText
    let parsed : Parsed := {
      raw := line, kinds := [], filters := [⟨.creator, .equal, .text "Z".toText⟩], phrases := []
      groups := [["alpha".toText, "zeta".toText], ["or".toText]], excluded := [] }
    let note (title : Text) (archived : Bool) : Entity := .note ⟨[], title, [], [], some "Z".toText, false, archived⟩
    let ranked : List Ranked := [⟨Vocabulary.noteKind, note "Or alpha".toText true, 85⟩,
      ⟨Vocabulary.noteKind, note "Zeta or old".toText false, 85⟩]
    let snapshot : Snapshot := ⟨[], ranked.map (·.entity), []⟩
    let written := ["-old".toText, "\"zeta or\"".toText, "archived:no".toText]
    Piece.quote ∉ line ∧ Parsed.parse line = .ok parsed ∧ parsed.hasCriteria = true ∧
    (Text.words line).getLast? ≠ some Segment.notWord ∧ ofLine none line snapshot = .ok ranked ∧
    ∀ x ∈ written, ∃ keeps, Constraint parsed x keeps ∧ ∃ keep : Ranked → Bool,
      (∀ entry, keep entry = true ↔ ∃ item, entry.entity.toItem = .ok item ∧ keeps item) ∧
      ofLine none (line ++ .char ' ' :: x) snapshot = .ok (ranked.filter keep) := by
  intro line parsed note ranked snapshot written
  have unquoted : Piece.quote ∉ line := by decide
  have read : Parsed.parse line = .ok parsed := Outcome.okOfToOption (by decide +kernel)
  have free : (Text.words line).getLast? ≠ some Segment.notWord := by decide +kernel
  have first : ofEntity parsed (note "Or alpha".toText true) = .ok ranked[0] :=
    (ofEntityScored rfl).mpr ⟨rfl, rfl, Outcome.okOfToOption (by decide +kernel)⟩
  have second : ofEntity parsed (note "Zeta or old".toText false) = .ok ranked[1] :=
    (ofEntityScored rfl).mpr ⟨rfl, rfl, Outcome.okOfToOption (by decide +kernel)⟩
  have made : full parsed snapshot.entities = .ok ranked :=
    Outcome.bindOk.mpr ⟨ranked, Outcome.eachOk.mpr (.cons first (.cons second .nil)),
      congrArg Except.ok (List.mergeSort_of_pairwise (by decide))⟩
  have found : ofLine none line snapshot = .ok ranked := ofLineCut read (by decide) snapshot made none
  refine ⟨unquoted, read, by decide, free, found, fun x member => ?_⟩
  have constraint : ∃ keeps, Constraint parsed x keeps := by
    simp only [written, List.mem_cons, List.not_mem_nil, or_false] at member
    rcases member with rfl | rfl | rfl
    · exact ⟨_, .excluded "old".toText (by decide) (by decide)⟩
    · exact ⟨_, .phrase "zeta or".toText (by decide) (by decide)⟩
    · exact ⟨_, .filter _ (by decide) (by decide) ⟨.archived, .equal, .flag false⟩
        (Outcome.okOfToOption (by decide +kernel)) (by decide)⟩
  obtain ⟨keeps, shape⟩ := constraint
  exact ⟨keeps, shape, appendedFilters unquoted read (by decide) free shape found⟩

end Ranking
end CollectionSearch
