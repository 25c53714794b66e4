import CollectionSearch.Proofs.Match.Ranking
import CollectionSearch.Proofs.Query.Plain
import CollectionSearch.Proofs.Query.Settling
import CollectionSearch.Query.Parsed

/-! Lines that only exclude. They are the lines without criteria: every other piece leaves a trace in what is asked for,
which nothing that comes later takes away. Without criteria nothing is looked at, with them every entity is. -/
namespace CollectionSearch

/- Pieces that ask for nothing: words behind a dash, and any piece that a `NOT` takes, from left to right. -/
inductive Piece.Excluding : List Piece → Prop where
  | done : Excluding []
  | dashed (c : CodePoint) (rest : Text) {pieces : List Piece} (behind : Excluding pieces) :
    Excluding (.word (.char '-' :: c :: rest) :: pieces)
  | negated (taken : Piece) {pieces : List Piece} (behind : Excluding pieces) :
    Excluding (.word "NOT".toText :: taken :: pieces)

namespace Segment

def Excludes : Segment → Prop
  | .phrase _ => False
  | .word text => ∃ c rest, text = .char '-' :: c :: rest
  | .negated _ => True

theorem ofPiecesExcluding (pieces : List Piece) :
    (∀ segment ∈ ofPieces pieces, segment.Excludes) ↔ Piece.Excluding pieces := by
  fun_induction ofPieces pieces with
  | case1 => exact iff_of_true (List.forall_mem_nil _) .done
  | case2 text rest ih =>
    refine iff_of_false (fun each => each _ List.mem_cons_self) (fun excluding => ?_)
    cases excluding
  | case3 text =>
    constructor
    · intro each
      obtain ⟨c, rest, rfl⟩ := each _ List.mem_cons_self
      exact .dashed c rest .done
    · rintro (_ | ⟨c, rest, _⟩)
      exact List.forall_mem_singleton.mpr ⟨c, rest, rfl⟩
  | case4 piece rest ih =>
    rw [List.forall_mem_cons, ih]
    constructor
    · exact fun both => .negated piece both.2
    · generalize same : notWord = word
      rintro (_ | _ | ⟨_, behind⟩)
      · cases same
      · exact ⟨trivial, behind⟩
  | case5 text piece rest other ih =>
    rw [List.forall_mem_cons, ih]
    constructor
    · rintro ⟨⟨c, more, rfl⟩, behind⟩
      exact .dashed c more behind
    · rintro (_ | ⟨c, more, behind⟩ | _)
      · exact ⟨⟨c, more, rfl⟩, behind⟩
      · exact absurd rfl other

end Segment

namespace Token

def Excludes (token : Token) : Prop := ∃ text, token = .excluded text

theorem kindsNamed {names : List Text} (restricts : (Token.kinds names).Restricts) : names ≠ [] := by
  have named : ∀ entry ∈ Alias.kinds, entry.2 ≠ [] := by decide
  obtain ⟨name, listed⟩ := restricts
  exact named _ listed

theorem ofSegmentExcludes {segment : Segment} {token : Token} (ok : ofSegment segment = .ok token) :
    token.Excludes ↔ segment.Excludes := by
  cases segment with
  | phrase text =>
    cases ok
    exact iff_of_false nofun id
  | negated text =>
    cases ok
    exact iff_of_true ⟨_, rfl⟩ trivial
  | word text =>
    constructor
    · rintro ⟨other, rfl⟩
      generalize same : Token.excluded other = token at ok
      cases ofWordRead ok with
      | excluded c rest => exact ⟨c, rest, rfl⟩
      | restriction _ _ restricts => exact absurd restricts (same ▸ id)
      | either | term => cases same
    · rintro ⟨c, rest, rfl⟩
      cases (ofWordExcluded (List.cons_ne_nil c rest)).symm.trans ok
      exact ⟨_, rfl⟩

theorem scanExcluding {line : Text} {tokens : List Token} (scanned : scan line = .ok tokens) :
    (∀ token ∈ tokens, token.Excludes) ↔ Piece.Excluding (Piece.scan line) := by
  rw [← Segment.ofPiecesExcluding]
  constructor
  · intro each segment member
    obtain ⟨token, present, read⟩ := Outcome.eachOkOf scanned member
    exact (ofSegmentExcludes read).mp (each token present)
  · intro each token member
    obtain ⟨segment, present, read⟩ := Outcome.eachOkMem scanned member
    exact (ofSegmentExcludes read).mpr (each segment present)

theorem scanNamed {line : Text} {tokens : List Token} (scanned : scan line = .ok tokens) {names : List Text}
    (member : .kinds names ∈ tokens) : names ≠ [] := by
  obtain ⟨segment, _, read⟩ := Outcome.eachOkMem scanned member
  cases segment with
  | phrase text | negated text => cases read
  | word text =>
    generalize same : Token.kinds names = token at read
    cases ofWordRead read with
    | restriction _ _ restricts => exact kindsNamed (same ▸ restricts)
    | either | excluded | term => cases same

end Token

namespace Parsed

theorem excludesOfNone (raw : Text) {tokens : List Token} (named : ∀ names, .kinds names ∈ tokens → names ≠ [])
    (nothing : (ofTokens raw tokens).hasCriteria = false) : ∀ token ∈ tokens, token.Excludes := by
  obtain ⟨kinds, filters, phrases, groups⟩ := criteriaNone.mp nothing
  intro token member
  obtain ⟨i, here⟩ := List.mem_iff_getElem?.mp member
  cases ofTokensKept raw here with
  | joins joins =>
    obtain ⟨text, next⟩ := joins.next
    have plain : Token.term text ≠ .either := nofun
    obtain ⟨group, said, _⟩ :=
      (Clause.groupsTerms text tokens).mpr (Clause.clauseOfToken plain (List.mem_of_getElem? next))
    have listed : group ∈ (ofTokens raw tokens).groups := said
    exact absurd (groups ▸ listed) List.not_mem_nil
  | literal _ _ _ _ _ listed => exact absurd (groups ▸ listed) List.not_mem_nil
  | phrase _ listed => exact absurd (phrases ▸ listed) List.not_mem_nil
  | kinds same listed =>
    obtain ⟨name, rest, shape⟩ := List.exists_cons_of_ne_nil (named _ (List.mem_of_getElem? same))
    exact absurd (kinds ▸ listed name (shape ▸ List.mem_cons_self)) List.not_mem_nil
  | filter _ listed => exact absurd (filters ▸ listed) List.not_mem_nil
  | excluded same => exact ⟨_, Option.some.inj (here.symm.trans same)⟩

theorem noneOfExcludes (raw : Text) {tokens : List Token} (each : ∀ token ∈ tokens, token.Excludes) :
    (ofTokens raw tokens).hasCriteria = false := by
  refine criteriaNone.mpr ⟨?_, ?_, ?_, ?_⟩
  · refine List.eq_nil_iff_forall_not_mem.mpr (fun name listed => ?_)
    obtain ⟨names, member, _⟩ := (kindsIff raw tokens name).mp listed
    obtain ⟨text, same⟩ := each _ member
    cases same
  · refine List.eq_nil_iff_forall_not_mem.mpr (fun f listed => ?_)
    rw [filtersOf] at listed
    obtain ⟨token, member, found⟩ := List.mem_filterMap.mp (Filter.latestMem listed)
    obtain ⟨text, rfl⟩ := each token member
    cases found
  · refine List.eq_nil_iff_forall_not_mem.mpr (fun phrase listed => ?_)
    rw [phrasesOf, Text.memDistinct] at listed
    obtain ⟨token, member, found⟩ := List.mem_filterMap.mp listed
    obtain ⟨text, rfl⟩ := each token member
    cases found
  · refine List.eq_nil_iff_forall_not_mem.mpr (fun group listed => ?_)
    obtain ⟨i, _, _, ⟨_, literal, _⟩, _⟩ := (Sequence.listedMem (groupsListed raw tokens) group).mp listed
    cases literal with
    | term here | either here =>
      obtain ⟨text, same⟩ := each _ (List.mem_of_getElem? here)
      cases same

theorem parseExcluding {line : Text} {parsed : Parsed} (ok : parse line = .ok parsed) :
    parsed.hasCriteria = false ↔ Piece.Excluding (Piece.scan line) := by
  obtain ⟨tokens, scanned, rfl⟩ := parseOk.mp ok
  rw [← Token.scanExcluding scanned]
  exact ⟨excludesOfNone line (fun _ => Token.scanNamed scanned), noneOfExcludes line⟩

end Parsed

theorem Chip.ofParsedNone {parsed : Parsed} (nothing : parsed.hasCriteria = false) : ofParsed parsed = [] := by
  obtain ⟨kinds, filters, phrases, _⟩ := Parsed.criteriaNone.mp nothing
  rw [ofParsed, kinds, filters, phrases]
  rfl

namespace Ranking

theorem ofLineNothing {line : Text} {parsed : Parsed} (read : Parsed.parse line = .ok parsed)
    (nothing : parsed.hasCriteria = false) (cap : Option Int) (snapshot : Snapshot) :
    ofLine cap line snapshot = .ok [] := by
  simp [ofLine, ofParsed, read, nothing, bind, Except.bind]

theorem ofLineProjects {line : Text} {parsed : Parsed} (read : Parsed.parse line = .ok parsed)
    (asks : parsed.hasCriteria = true) {cap : Option Int} {snapshot : Snapshot} {ranked : List Ranked}
    (ok : ofLine cap line snapshot = .ok ranked) :
    ∀ entity ∈ snapshot.entities, ∃ item, entity.toItem = .ok item := by
  obtain ⟨other, readToo, ⟨nothing, _⟩ | ⟨_, entries, made, _⟩⟩ := ofLineFound ok
  · cases read.symm.trans readToo
    simp [nothing] at asks
  · exact fullProjects made

theorem criteriaExcluding {line : Text} {parsed : Parsed} (read : Parsed.parse line = .ok parsed) :
    (parsed.hasCriteria = false ↔ Piece.Excluding (Piece.scan line)) ∧
    ((∀ cap snapshot, ofLine cap line snapshot = .ok []) ∧ Chip.ofParsed parsed = [] ↔
      Piece.Excluding (Piece.scan line)) ∧
    (¬ Piece.Excluding (Piece.scan line) → parsed.hasCriteria = true ∧
      ∀ cap snapshot ranked, ofLine cap line snapshot = .ok ranked →
        ∀ entity ∈ snapshot.entities, ∃ item, entity.toItem = .ok item) := by
  have exact := Parsed.parseExcluding read
  have asking (other : ¬ Piece.Excluding (Piece.scan line)) : parsed.hasCriteria = true := by
    simpa using mt exact.mp other
  refine ⟨exact, ⟨?_, fun excluding => ?_⟩, fun other => ⟨asking other, fun cap snapshot ranked => ?_⟩⟩
  · rintro ⟨unseen, _⟩
    by_contra other
    obtain ⟨item, projected⟩ := ofLineProjects read (asking other) (unseen none ⟨[.unsupported .null], [], []⟩)
      (.unsupported .null) List.mem_cons_self
    cases projected
  · have nothing := exact.mpr excluding
    exact ⟨ofLineNothing read nothing, Chip.ofParsedNone nothing⟩
  · exact ofLineProjects read (asking other)

theorem criteriaExcludingOfNots :
    let excludes := "-a NOT \"b c\" NOT NOT --".toText
    let asks := "-a - NOT".toText
    (∃ parsed, Parsed.parse excludes = .ok parsed ∧
      parsed.excluded = ["a".toText, "b c".toText, "not".toText, "-".toText] ∧ Piece.Excluding (Piece.scan excludes) ∧ Chip.ofParsed parsed = [] ∧
      ofLine (some 50) excludes ⟨[.unsupported .null], [], []⟩ = .ok []) ∧
    ∃ parsed, Parsed.parse asks = .ok parsed ∧ parsed.groups = [["-".toText], ["not".toText]] ∧
      ¬ Piece.Excluding (Piece.scan asks) ∧
      ∀ ranked, ofLine (some 50) asks ⟨[.unsupported .null], [], []⟩ ≠ .ok ranked := by
  intro excludes asks
  have shown : (Parsed.parse excludes).toOption.map (fun parsed => (parsed.hasCriteria, parsed.excluded)) =
      some (false, ["a".toText, "b c".toText, "not".toText, "-".toText]) := by decide +kernel
  have shownToo : (Parsed.parse asks).toOption.map (fun parsed => (parsed.hasCriteria, parsed.groups)) =
      some (true, [["-".toText], ["not".toText]]) := by decide +kernel
  obtain ⟨parsed, read, same⟩ := Outcome.okOfShown shown
  obtain ⟨other, readToo, sameToo⟩ := Outcome.okOfShown shownToo
  obtain ⟨nothing, excluded⟩ := Prod.mk.inj same
  obtain ⟨something, groups⟩ := Prod.mk.inj sameToo
  obtain ⟨exact, unseen, _⟩ := criteriaExcluding read
  obtain ⟨exactToo, _, seen⟩ := criteriaExcluding readToo
  have excluding := exact.mp nothing
  have asking : ¬ Piece.Excluding (Piece.scan asks) := mt exactToo.mpr (by simp [something])
  refine ⟨⟨parsed, read, excluded, excluding, (unseen.mpr excluding).2, (unseen.mpr excluding).1 _ _⟩, other, readToo,
    groups, asking, fun ranked ok => ?_⟩
  obtain ⟨item, projected⟩ := (seen asking).2 _ _ ranked ok (.unsupported .null) List.mem_cons_self
  cases projected

end Ranking
end CollectionSearch
