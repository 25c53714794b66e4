import CollectionSearch.Proofs.Outcome
import CollectionSearch.Proofs.Sequence
import CollectionSearch.Query.Parsed

/-! What a word of a search line is read as. Every filter that a line can hold has one of eight shapes. -/
namespace CollectionSearch

def Comparator.Known (comparator : Comparator) : Prop := ∀ symbol, comparator ≠ .other symbol

theorem equalKnown : Comparator.equal.Known := fun _ same => nomatch same

inductive Filter.Written : Filter → Prop where
  | status (name : Text) (known : name ∈ Vocabulary.statuses) : Written ⟨.status, .equal, .text name⟩
  | year (comparator : Comparator) (known : comparator.Known) (n : Int) :
      Written ⟨.year, comparator, .number (.whole n)⟩
  | rating (comparator : Comparator) (known : comparator.Known) (x : Binary64) (finite : x.isFinite = true) :
      Written ⟨.rating, comparator, .number (.real x)⟩
  | creator (user : Text) (known : user ∈ Vocabulary.users) : Written ⟨.creator, .equal, .text user⟩
  | visited (flag : Bool) : Written ⟨.visited, .equal, .flag flag⟩
  | archived (flag : Bool) : Written ⟨.archived, .equal, .flag flag⟩
  | genre (c : CodePoint) (rest : Text) : Written ⟨.genre, .equal, .text (Text.lower (c :: rest))⟩
  | unread : Written ⟨.unread, .equal, .flag true⟩

namespace Token

def Restricts : Token → Prop
  | .kinds names => ∃ name, (name, names) ∈ Alias.kinds
  | .filter f => f.Written
  | _ => False

inductive Read : Text → Token → Prop where
  | either : Read orWord .either
  | excluded (c : CodePoint) (rest : Text) : Read (.char '-' :: c :: rest) (.excluded (Text.lower (c :: rest)))
  | restriction (word : Text) (token : Token) (restricts : token.Restricts) : Read word token
  | term (word : Text) (plain : word ≠ orWord) : Read word (.term (Text.lower word))

theorem kindsRestrict {name : Text} {token : Token} (found : (Alias.kinds.lookup name).map .kinds = some token) :
    token.Restricts := by
  obtain ⟨names, listed, rfl⟩ := Option.map_eq_some_iff.mp found
  exact ⟨name, Sequence.lookupMem listed⟩

theorem comparisonKnown {word key value : Text} {comparator : Comparator}
    (shape : comparison? word = some (key, comparator, value)) : comparator.Known := by
  simp only [comparison?, bind, Option.bind_eq_some_iff] at shape
  obtain ⟨⟨front, rest⟩, _, last⟩ := shape
  intro symbol
  split at last <;> (cases last; try exact nofun)

theorem assignmentValue {word key value : Text} (shape : assignment? word = some (key, value)) :
    ∃ c rest, value = c :: rest := by
  simp only [assignment?, bind, Option.bind_eq_some_iff] at shape
  obtain ⟨⟨front, rest⟩, _, last⟩ := shape
  split at last
  · cases last
    exact ⟨_, _, rfl⟩
  · contradiction

theorem finiteReal {value : Text} {x : Number} (found : finite? value = some x) :
    ∃ real : Binary64, x = .real real ∧ real.isFinite = true := by
  simp only [finite?, bind, Option.bind_eq_some_iff] at found
  obtain ⟨real, _, last⟩ := found
  split at last
  · rename_i finite
    cases last
    exact ⟨real, rfl, finite⟩
  · contradiction

theorem numericRestricts {key value : Text} {comparator : Comparator} {token : Token} (known : comparator.Known)
    (ok : numeric? key comparator value = .ok (some token)) : token.Restricts := by
  unfold numeric? at ok
  split at ok
  · split at ok
    · cases read : Number.readWhole value with
      | error fault => simp [read, bind, Except.bind] at ok
      | ok n =>
        simp only [read, bind, Except.bind, pure, Except.pure, Except.ok.injEq, Option.some.injEq] at ok
        subst ok
        exact .year comparator known n
    · cases ok
  · split at ok
    · simp only [pure, Except.pure, Except.ok.injEq] at ok
      obtain ⟨x, found, rfl⟩ := Option.map_eq_some_iff.mp ok
      obtain ⟨real, rfl, finite⟩ := finiteReal found
      exact .rating comparator known real finite
    · cases ok

theorem assignedRestricts {key : Text} {c : CodePoint} {rest : Text} {token : Token}
    (ok : assigned? key (c :: rest) = .ok (some token)) : token.Restricts := by
  unfold assigned? at ok
  simp only at ok
  split at ok
  · exact kindsRestrict (Except.ok.inj ok)
  split at ok
  · obtain ⟨name, listed, rfl⟩ := Option.map_eq_some_iff.mp (Except.ok.inj ok)
    exact .status name (Alias.statusesKnown _ (Sequence.lookupMem listed))
  split at ok
  · split at ok
    · rename_i user
      cases ok
      exact .creator _ user
    · cases ok
  split at ok
  · obtain ⟨flag, _, rfl⟩ := Option.map_eq_some_iff.mp (Except.ok.inj ok)
    exact .visited flag
  split at ok
  · obtain ⟨flag, _, rfl⟩ := Option.map_eq_some_iff.mp (Except.ok.inj ok)
    exact .archived flag
  split at ok
  · cases ok
    exact .genre c rest
  split at ok
  · cases ok
    exact .unread
  exact numericRestricts equalKnown ok

theorem readOr {word : Text} {token : Token} (outcome : Except Fault (Option Token)) (plain : word ≠ orWord)
    (restricts : ∀ found, outcome = .ok (some found) → found.Restricts)
    (ok : outcome.map (·.getD (.term (Text.lower word))) = .ok token) : Read word token := by
  cases outcome with
  | error fault => cases ok
  | ok found =>
    cases found with
    | none =>
      cases ok
      exact .term word plain
    | some found =>
      cases ok
      exact .restriction word _ (restricts _ rfl)

theorem ofWordRead {word : Text} {token : Token} (ok : ofWord word = .ok token) : Read word token := by
  unfold ofWord at ok
  simp only at ok
  split at ok
  · rename_i same
    cases ok
    exact same ▸ .either
  rename_i plain
  split at ok
  · cases ok
    exact .excluded _ _
  · refine readOr (.ok ((Alias.kinds.lookup _).map .kinds)) plain ?_ ok
    intro found same
    exact kindsRestrict (Except.ok.inj same)
  · split at ok
    · rename_i key comparator value shape
      exact readOr _ plain (fun found same => numericRestricts (comparisonKnown shape) same) ok
    · split at ok
      · rename_i key value shape
        obtain ⟨c, rest, rfl⟩ := assignmentValue shape
        exact readOr _ plain (fun found same => assignedRestricts same) ok
      · cases ok
        exact .term word plain

theorem ofWordEither {word : Text} (ok : ofWord word = .ok .either) : word = orWord := by
  generalize same : Token.either = token at ok
  cases ofWordRead ok with
  | either => rfl
  | restriction _ _ restricts => exact absurd restricts (same ▸ id)
  | excluded | term => cases same

theorem ofSegmentWritten {segment : Segment} {f : Filter} (ok : ofSegment segment = .ok (.filter f)) : f.Written := by
  cases segment with
  | phrase text | negated text => cases ok
  | word text =>
    generalize same : Token.filter f = token at ok
    cases ofWordRead ok with
    | restriction _ _ restricts => exact (same ▸ restricts : (Token.filter f).Restricts)
    | either | excluded | term => cases same

end Token

theorem Parsed.parseOk {line : Text} {parsed : Parsed} :
    Parsed.parse line = .ok parsed ↔
      ∃ tokens, Token.scan line = .ok tokens ∧ Parsed.ofTokens line tokens = parsed := by
  unfold Parsed.parse
  cases Token.scan line with
  | error fault => simp [Except.map]
  | ok tokens => simp [Except.map]

end CollectionSearch
