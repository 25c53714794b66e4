import CollectionSearch.Proofs.Host
import CollectionSearch.Proofs.Import.Division
import CollectionSearch.Proofs.Import.Snapshot
import CollectionSearch.Proofs.Json

/-! What a file gives is what its lines give, one after the other, so that a file in two parts gives what the parts give
with the later lines counted on. A directory is its three files, each read without the others. -/
namespace CollectionSearch.Import
variable {α : Type} {limit : Nat} {label : Text} {convert : Json.Members → Except Fault α}

def Warning.line : Warning → Nat
  | .malformed line _ => line
  | .spoiled _ line _ => line

def Warning.later (before : Nat) : Warning → Warning
  | .malformed line cause => .malformed (before + line) cause
  | .spoiled label line fault => .spoiled label (before + line) fault

def Loaded.followed (first : Loaded α) (count : Nat) (second : Loaded α) : Loaded α where
  records := first.records ++ second.records
  warnings := first.warnings ++ second.warnings.map (Warning.later count)

theorem warningLater (outcome : Outcome α) (before line : Nat) :
    (outcome.warning? label (before + line)).toList =
      (outcome.warning? label line).toList.map (Warning.later before) := by
  cases outcome with
  | blank | record | malformed | spoiled => rfl

section Accounts
variable {n : Nat} {first second : List Text} {records : List α} {warnings : List Warning}

theorem accountedAppend : Accounted limit label convert n (first ++ second) records warnings ↔
    ∃ kept left keptBehind leftBehind, Accounted limit label convert n first kept left ∧
      Accounted limit label convert (n + first.length) second keptBehind leftBehind ∧ records = kept ++ keptBehind ∧
      warnings = left ++ leftBehind := by
  induction first generalizing n records warnings with
  | nil =>
    constructor
    · exact fun behind => ⟨[], [], records, warnings, .done n, behind, rfl, rfl⟩
    · rintro ⟨_, _, _, _, nothing, behind, rfl, rfl⟩
      cases nothing
      exact behind
  | cons line first ih =>
    -- with one line more in front, what stands behind the others is counted from one further on
    rw [List.length_cons, Nat.add_comm first.length 1, ← Nat.add_assoc]
    constructor
    · intro whole
      cases whole with
      | line _ _ outcome gives _ _ _ later =>
        obtain ⟨kept, left, _, _, front, behind, rfl, rfl⟩ := ih.mp later
        exact ⟨_, _, _, _, .line n line outcome gives first kept left front, behind, (List.append_assoc ..).symm,
          (List.append_assoc ..).symm⟩
    · rintro ⟨_, _, _, _, front, behind, rfl, rfl⟩
      cases front with
      | line _ _ outcome gives _ kept left later =>
        simp only [List.append_assoc]
        exact .line n line outcome gives _ _ _ (ih.mpr ⟨kept, left, _, _, later, behind, rfl, rfl⟩)

theorem accountedLater (accounted : Accounted limit label convert n first records warnings) (before : Nat) :
    Accounted limit label convert (before + n) first records (warnings.map (Warning.later before)) := by
  induction accounted with
  | done n => exact .done _
  | line n line outcome gives rest records warnings behind ih =>
    rw [List.map_append, ← warningLater]
    exact .line _ line outcome gives rest records _ ih

theorem accountedEarlier {before m : Nat} (accounted : Accounted limit label convert m first records warnings)
    (counted : m = before + n) :
    ∃ earlier, Accounted limit label convert n first records earlier ∧
      warnings = earlier.map (Warning.later before) := by
  induction accounted generalizing n with
  | done m => exact ⟨[], .done n, rfl⟩
  | line m line outcome gives rest records warnings behind ih =>
    obtain ⟨earlier, others, rfl⟩ := ih (n := n + 1) (by rw [counted, Nat.add_assoc])
    refine ⟨_, .line n line outcome gives rest records earlier others, ?_⟩
    rw [counted, warningLater, List.map_append]

theorem accountedCount (accounted : Accounted limit label convert n first records warnings) :
    records.length + warnings.length = (first.filter (!Text.isBlankOnly ·)).length := by
  induction accounted with
  | done n => rfl
  | line n line outcome gives rest records warnings behind ih =>
    cases gives with
    | blank empty =>
      rw [List.filter_cons_of_neg (by simp [empty])]
      exact ih
    | record filled | malformed filled | spoiled filled =>
      rw [List.filter_cons_of_pos (by simp [filled]), List.length_cons, ← ih]
      simp only [Outcome.record?, Outcome.warning?, Option.toList, List.cons_append, List.nil_append, List.length_cons]
      omega

end Accounts

theorem ofLineAlone {a b : Nat} {line : Text} {first second : Outcome α}
    (one : Outcome.ofLine a convert line = .ok first) (other : Outcome.ofLine b convert line = .ok second) :
    first = second := by
  unfold Outcome.ofLine at one other
  split at one
  · rename_i empty
    rw [if_pos empty] at other
    exact Except.ok.inj (one.symm.trans other)
  · rename_i filled
    rw [if_neg filled] at other
    have agree := Json.agreeRead a b line
    generalize Json.read a line = left at agree one
    generalize Json.read b line = right at agree other
    cases agree with
    | same result => exact Except.ok.inj (one.symm.trans other)
    | first inArray result => cases one
    | second result inArray => cases other

theorem ofTextAlone {a b : Nat} {content : Text} {first second : Loaded α}
    (one : ofText a label convert content = .ok first) (other : ofText b label convert content = .ok second) :
    first = second := by
  obtain ⟨outcomes, each, rfl⟩ := Outcome.mapOk.mp one
  obtain ⟨others, eachToo, rfl⟩ := Outcome.mapOk.mp other
  have unique : Relator.RightUnique (fun line (outcome : Outcome α) =>
      ∃ limit, Outcome.ofLine limit convert line = .ok outcome) := by
    rintro line x y ⟨_, here⟩ ⟨_, there⟩
    exact ofLineAlone here there
  rw [List.right_unique_forall₂' unique ((Outcome.eachOk.mp each).imp (fun _ _ ok => ⟨a, ok⟩))
    ((Outcome.eachOk.mp eachToo).imp (fun _ _ ok => ⟨b, ok⟩))]

theorem ofBytesAlone {a b : Nat} {content : ByteArray} {first second : Loaded α}
    (one : ofBytes a label convert content = .ok first) (other : ofBytes b label convert content = .ok second) :
    first = second := by
  unfold ofBytes at one other
  split at one
  · rename_i text decoded
    rw [decoded] at other
    exact ofTextAlone one other
  · obtain ⟨_, _, refused⟩ := Outcome.bindOk.mp one
    cases refused

def Holds (host : Host) (file : Text) (content : String) : Prop :=
  contentAt host (Path.ofText file) = .ok (some content.toUTF8)

structure LineLocal (label : Text) (convert : Json.Members → Except Fault α) : Prop where
  accounts : ∀ host file content, Holds host file content → ∀ parts, Divided content.toText parts →
    ∀ loaded, ofFile label convert host file = .ok loaded ↔
      Accounted host.nesting label convert 1 parts loaded.records loaded.warnings
  counts : ∀ host file content, Holds host file content → ∀ parts, Divided content.toText parts →
    ∀ loaded, ofFile label convert host file = .ok loaded →
      loaded.records.length + loaded.warnings.length = (parts.filter (!Text.isBlankOnly ·)).length
  alone : ∀ limit other line a b, Gives limit convert line a → Gives other convert line b → a = b
  joins : ∀ host left right whole first second, Holds host left first → Holds host right second →
    Holds host whole (first ++ second) → Closed first.toText → ∀ parts, Divided first.toText parts →
    ∀ loaded, ofFile label convert host whole = .ok loaded ↔
      ∃ a b, ofFile label convert host left = .ok a ∧ ofFile label convert host right = .ok b ∧
        loaded = a.followed parts.length b

section Files
variable {host : Host} {oversized : Json.Members → Prop}
  (bounded : ∀ members fault, convert members = .error fault → Bounded (oversized members) fault)
include bounded

theorem ofFileAccounted {file : Text} {content : String} (found : Holds host file content) {parts : List Text}
    (divided : Divided content.toText parts) (loaded : Loaded α) :
    ofFile label convert host file = .ok loaded ↔
      Accounted host.nesting label convert 1 parts loaded.records loaded.warnings := by
  rw [ofFileText found, ← linesOfDivided divided]
  exact (ofTextExplained bounded _ label content.toText).loads loaded

theorem ofFileJoined {left right whole : Text} {first second : String} (foundLeft : Holds host left first)
    (foundRight : Holds host right second) (foundWhole : Holds host whole (first ++ second))
    (closed : Closed first.toText) {parts : List Text} (divided : Divided first.toText parts) (loaded : Loaded α) :
    ofFile label convert host whole = .ok loaded ↔
      ∃ a b, ofFile label convert host left = .ok a ∧ ofFile label convert host right = .ok b ∧
        loaded = a.followed parts.length b := by
  have joined : Divided (first ++ second).toText (parts ++ lines second.toText) := by
    have text : (first ++ second).toText = first.toText ++ second.toText := by simp [String.toText]
    rw [← linesOfDivided divided, text]
    exact linesExact.mp (linesAppend closed second.toText)
  have behind := dividedLines second.toText
  rw [ofFileAccounted bounded foundWhole joined, accountedAppend]
  constructor
  · rintro ⟨kept, spoilt, keptBehind, _, front, later, records, warnings⟩
    obtain ⟨earlier, own, rfl⟩ := accountedEarlier later (Nat.add_comm 1 parts.length)
    refine ⟨⟨kept, spoilt⟩, ⟨keptBehind, earlier⟩, ?_, ?_, congr (congrArg Loaded.mk records) warnings⟩
    · exact (ofFileAccounted bounded foundLeft divided _).mpr front
    · exact (ofFileAccounted bounded foundRight behind _).mpr own
  · rintro ⟨a, b, front, later, rfl⟩
    have own := (ofFileAccounted bounded foundRight behind b).mp later
    refine ⟨a.records, a.warnings, b.records, _, ?_, ?_, rfl, rfl⟩
    · exact (ofFileAccounted bounded foundLeft divided a).mp front
    · rw [Nat.add_comm]
      exact accountedLater own parts.length

theorem lineLocalOf : LineLocal label convert where
  accounts := fun _ _ _ found _ divided => ofFileAccounted bounded found divided
  counts := fun _ _ _ found _ divided loaded ok =>
    accountedCount ((ofFileAccounted bounded found divided loaded).mp ok)
  alone := fun _ _ _ _ _ first second => ofLineAlone (givesOfLine first) (givesOfLine second)
  joins := fun _ _ _ _ _ _ foundLeft foundRight foundWhole closed _ divided =>
    ofFileJoined bounded foundLeft foundRight foundWhole closed divided

end Files

/- A collection as it is loaded from a path: by its loader from the file there, and as from an empty file if there is
none. -/
inductive Collected (label : Text) (convert : Json.Members → Except Fault α) (host : Host) (path : Path) :
    Loaded α → Prop where
  | present (content : ByteArray) (found : host.find path = .node (.file content)) (loaded : Loaded α)
      (read : ofFile label convert host path.text = .ok loaded) : Collected label convert host path loaded
  | missing (nothing : host.find path = .nothing) (loaded : Loaded α)
      (read : ofBytes host.nesting label convert "".toUTF8 = .ok loaded) : Collected label convert host path loaded

theorem ofFileAt {host : Host} {path : Path} (normal : path.Normal) {content : ByteArray}
    (found : host.find path = .node (.file content)) :
    ofFile label convert host path.text = ofBytes host.nesting label convert content := by
  have here : contentAt host path = .ok (some content) := by rw [contentAt, found]
  simp only [ofFile, Path.ofTextText normal, here, bind, Except.bind]

theorem ofOptionalBytes (content : Option ByteArray) :
    ofOptional limit label convert content = ofBytes limit label convert (content.getD "".toUTF8) := by
  cases content with
  | some bytes => rfl
  | none =>
    have decoded : String.fromUTF8? "".toUTF8 = some "" := dif_pos "".isValidUTF8
    rw [Option.getD_none, ofBytes, decoded]
    rfl

theorem collectedIff {host : Host} {path : Path} (normal : path.Normal) {loaded : Loaded α} :
    Collected label convert host path loaded ↔
      ∃ content, contentAt host path = .ok content ∧ ofOptional host.nesting label convert content = .ok loaded := by
  constructor
  · intro collected
    cases collected with
    | present content found _ read =>
      exact ⟨some content, by rw [contentAt, found], (ofFileAt normal found).symm.trans read⟩
    | missing nothing _ read => exact ⟨none, by rw [contentAt, nothing], (ofOptionalBytes none).trans read⟩
  · rintro ⟨content, here, read⟩
    unfold contentAt at here
    split at here
    · rename_i bytes found
      cases here
      exact .present bytes found loaded ((ofFileAt normal found).trans read)
    · cases here
    · rename_i nothing
      cases here
      exact .missing nothing loaded ((ofOptionalBytes none).symm.trans read)
    · cases here

def standing (host : Host) (path : Path) : Except Fault ByteArray :=
  (contentAt host path).map (Option.getD · "".toUTF8)

theorem collectedOwn {host other : Host} {path place : Path} (normal : path.Normal) (too : place.Normal)
    (alike : standing host path = standing other place) {a b : Loaded α}
    (first : Collected label convert host path a) (second : Collected label convert other place b) : a = b := by
  obtain ⟨left, leftFound, leftRead⟩ := (collectedIff normal).mp first
  obtain ⟨right, rightFound, rightRead⟩ := (collectedIff too).mp second
  have bytes : left.getD "".toUTF8 = right.getD "".toUTF8 := by
    unfold standing at alike
    rw [leftFound, rightFound] at alike
    exact Except.ok.inj alike
  rw [ofOptionalBytes, bytes] at leftRead
  rw [ofOptionalBytes] at rightRead
  exact ofBytesAlone leftRead rightRead

structure Separate (host : Host) (directory : Text) : Prop where
  loads : ∀ collections, ofDirectory host directory = .ok collections ↔
    (∃ entries, host.find (Path.ofText directory) = .node (.directory entries)) ∧
    Collected mediaLabel media host ((Path.ofText directory).child mediaFile) collections.media ∧
    Collected noteLabel note host ((Path.ofText directory).child notesFile) collections.notes ∧
    Collected placeLabel place host ((Path.ofText directory).child placesFile) collections.places
  own : ∀ other place before after, ofDirectory host directory = .ok before → ofDirectory other place = .ok after →
    let same (name : Text) := standing host ((Path.ofText directory).child name) =
      standing other ((Path.ofText place).child name)
    (same mediaFile → before.media = after.media) ∧ (same notesFile → before.notes = after.notes) ∧
    (same placesFile → before.places = after.places)

theorem namedNormal (directory : Text) {name : Text} (known : name ∈ [mediaFile, notesFile, placesFile]) :
    ((Path.ofText directory).child name).Normal := by
  have free : ∀ name ∈ [mediaFile, notesFile, placesFile], Path.isPart name = true ∧ Path.slash ∉ name := by decide
  exact Path.childNormal (Path.ofTextNormal directory) (free name known).1 (free name known).2

theorem ofDirectoryCollected {host : Host} {directory : Text} {collections : Collections} :
    ofDirectory host directory = .ok collections ↔
      (∃ entries, host.find (Path.ofText directory) = .node (.directory entries)) ∧
      Collected mediaLabel media host ((Path.ofText directory).child mediaFile) collections.media ∧
      Collected noteLabel note host ((Path.ofText directory).child notesFile) collections.notes ∧
      Collected placeLabel place host ((Path.ofText directory).child placesFile) collections.places := by
  have named {name : Text} (known : name ∈ [mediaFile, notesFile, placesFile]) := namedNormal directory known
  rw [collectedIff (named (by simp)), collectedIff (named (by simp)), collectedIff (named (by simp)), ofDirectoryOk,
    ofExportOk]
  rfl

theorem separateFiles (host : Host) (directory : Text) : Separate host directory := by
  refine ⟨fun collections => ofDirectoryCollected, fun other place before after first second => ?_⟩
  obtain ⟨_, media, notes, places⟩ := ofDirectoryCollected.mp first
  obtain ⟨_, mediaToo, notesToo, placesToo⟩ := ofDirectoryCollected.mp second
  have named {name : Text} (known : name ∈ [mediaFile, notesFile, placesFile]) :=
    And.intro (namedNormal directory known) (namedNormal place known)
  exact ⟨fun same => collectedOwn (named (by simp)).1 (named (by simp)).2 same media mediaToo,
    fun same => collectedOwn (named (by simp)).1 (named (by simp)).2 same notes notesToo,
    fun same => collectedOwn (named (by simp)).1 (named (by simp)).2 same places placesToo⟩

structure Shares (host other : Host) : Prop where
  root : other.root = host.root
  working : other.working = host.working

theorem findShared {host other : Host} (shares : Shares host other) (path : Path) :
    other.find path = host.find path := by
  rw [Host.find, Host.find, shares.root, shares.working]

theorem missingShared {host other : Host} (shares : Shares host other) {directory place : Text}
    (same : Path.ofText directory = Path.ofText place) (absent : Missing host directory) : Missing other place := by
  unfold Missing at absent ⊢
  rwa [← same, findShared shares]

/- How deep a host can follow a value decides whether a directory is loaded, but not what is loaded from it. -/
theorem ofDirectoryShared {host other : Host} (shares : Shares host other) {directory place : Text}
    (same : Path.ofText directory = Path.ofText place) {first second : Collections}
    (read : ofDirectory host directory = .ok first) (again : ofDirectory other place = .ok second) :
    first = second := by
  have alike (name : Text) : standing host ((Path.ofText directory).child name) =
      standing other ((Path.ofText place).child name) := by
    rw [standing, standing, contentAt, contentAt, same, findShared shares]
  obtain ⟨medias, notes, places⟩ := (separateFiles host directory).own other place first second read again
  cases first
  cases second
  exact (Collections.mk.injEq ..).mpr ⟨medias (alike _), notes (alike _), places (alike _)⟩

theorem importLocal : LineLocal mediaLabel media ∧ LineLocal noteLabel note ∧ LineLocal placeLabel place ∧
    ∀ host directory, Separate host directory :=
  ⟨lineLocalOf (fun _ _ => mediaError), lineLocalOf (fun _ _ => noteError), lineLocalOf (fun _ _ => placeError),
    separateFiles⟩

theorem importLocalOfPlaces :
    let first := "\x7b\"id\":1,\"name\":\"Bar\"\x7d\r\n\n[]\n"
    let second := "\r\x7b\"id\":2\x7d\r\n\x7b?\n\x7b\"id\":3,\"name\":\"Cafe\"\x7d"
    let host := Host.standard (.directory [("a".toText, .file first.toUTF8), ("b".toText, .file second.toUTF8),
      (placesFile, .file (first ++ second).toUTF8)])
    ∃ a b loaded, ofFile placeLabel place host "a".toText = .ok a ∧
      ofFile placeLabel place host "b".toText = .ok b ∧ ofFile placeLabel place host placesFile = .ok loaded ∧
      loaded = a.followed 3 b ∧ loaded.records.map Place.id = ["1".toText, "3".toText] ∧
      loaded.warnings.map Warning.line = [3, 5, 6] := by
  intro first second host
  have whole : Holds host placesFile (first ++ second) := rfl
  have text : (first ++ second).toText = first.toText ++ second.toText := by simp [String.toText]
  obtain ⟨loaded, read, shown⟩ : ∃ loaded, ofFile placeLabel place host placesFile = .ok loaded ∧
      (loaded.records.map Place.id, loaded.warnings.map Warning.line) = (["1".toText, "3".toText], [3, 5, 6]) := by
    rw [ofFileText whole, text]
    exact Outcome.okOfShown (by decide +kernel)
  obtain ⟨_, _, linewise, _⟩ := importLocal
  have three : (lines first.toText).length = 3 := by decide +kernel
  have closed : Closed first.toText := .inr (by decide +kernel)
  obtain ⟨a, b, front, behind, same⟩ :=
    (linewise.joins host "a".toText "b".toText placesFile first second rfl rfl whole closed _ (dividedLines _)
      loaded).mp read
  rw [three] at same
  exact ⟨a, b, loaded, front, behind, read, same, congrArg Prod.fst shown, congrArg Prod.snd shown⟩

end CollectionSearch.Import
