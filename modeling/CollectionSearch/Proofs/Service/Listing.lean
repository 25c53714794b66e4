import CollectionSearch.Proofs.Catalog
import CollectionSearch.Proofs.Import.Locality
import CollectionSearch.Proofs.Import.Soundness
import CollectionSearch.Proofs.Service.Rows
import CollectionSearch.Proofs.Service.Serving
import CollectionSearch.Service.Listing

/-! Listings beside answers. Both show one ranking, a listing by the names that the records have and an answer by their
titles, which differ for a note without a title and for nothing else in an import. -/
namespace CollectionSearch.Listing

def written (number score : Nat) (kind name : Text) : Text :=
  Text.padStart 3 (Text.ofNat number) ++ ". [".toText ++ Text.padStart 3 (Text.ofNat score) ++ "] ".toText ++
    Text.padEnd 5 kind ++ .char ' ' :: name ++ [.char '\n']

inductive Unnamed : Entity → Prop where
  | note (record : Note) (none : record.title = []) : Unnamed (.note record)

inductive Prints (number : Nat) (entry : Ranked) (row : Row) : Text → Prop where
  | named (named : Text.Filled (nameOf entry.entity)) :
      Prints number entry row (written number row.score row.kind row.title)
  | unnamed (none : Unnamed entry.entity) (titled : Text.Filled row.title) :
      Prints number entry row (written number row.score row.kind [])

inductive Prints.Each : Nat → List Ranked → List Row → Text → Prop where
  | nil (number : Nat) : Each number [] [] []
  | cons {number : Nat} {entry : Ranked} {row : Row} {line rest : Text} {entries : List Ranked} {rows : List Row}
      (shows : Row.Shows entry row) (head : Prints number entry row line) (tail : Each (number + 1) entries rows rest) :
      Each number (entry :: entries) (row :: rows) (line ++ rest)

theorem importNamed {host : Host} {directory : Text} {collections : Import.Collections}
    (loaded : Import.ofDirectory host directory = .ok collections) :
    ∀ entity ∈ collections.snapshot.entities, Unnamed entity ∨ Text.Filled (nameOf entity) := by
  refine Import.ofDirectoryEach loaded (fun members record made => ?_) (fun members record made => ?_)
    (fun members record made => ?_)
  · exact .inr (Import.mediaSound made).title
  · by_cases none : record.title = []
    · exact .inl (.note record none)
    · exact .inr ⟨none, (Import.noteSound made).title⟩
  · exact .inr (Import.placeSound made).name

theorem nameTitle {entity : Entity} {item : Item} (made : entity.toItem = .ok item)
    (named : Text.Filled (nameOf entity)) : item.title = nameOf entity := by
  have own := Text.filledSays named
  have called : entity.CalledBy (nameOf entity) := by
    cases entity with
    | media record => exact .media record
    | note record => exact .note record own
    | place record => exact .place record
    | unsupported value => cases made
  rw [Entity.toItemCalled made called, orUntitledTrim own, Text.trimmedTrim named.trimmed]

theorem linePrints (number : Nat) {entry : Ranked} {row : Row} (shows : Row.Shows entry row)
    (named : Unnamed entry.entity ∨ Text.Filled (nameOf entry.entity)) :
    Prints number entry row (line number entry) := by
  obtain ⟨item, made, mirrors⟩ := shows
  have shown : line number entry = written number row.score row.kind (nameOf entry.entity) := by
    rw [mirrors.score, mirrors.kind]
    rfl
  rw [shown]
  rcases named with none | named
  · have titled : Text.Filled row.title := mirrors.title ▸ Entity.toItemTitled made
    have nameless : nameOf entry.entity = [] := by
      generalize entry.entity = entity at none
      cases none with
      | note record none => exact none
    rw [nameless]
    exact .unnamed none titled
  · rw [← nameTitle made named, ← mirrors.title]
    exact .named named

theorem ofRankingPrints {ranked : List Ranked} {rows : List Row} (shows : List.Forall₂ Row.Shows ranked rows)
    (named : ∀ entry ∈ ranked, Unnamed entry.entity ∨ Text.Filled (nameOf entry.entity)) (number : Nat) :
    Prints.Each number ranked rows
      ((ranked.zipIdx number).map (fun (ranked, number) => line number ranked)).flatten := by
  induction shows generalizing number with
  | nil => exact .nil number
  | cons head tail ih =>
    have own := linePrints number head (named _ List.mem_cons_self)
    exact .cons head own (ih (fun entry member => named entry (List.mem_cons_of_mem _ member)) (number + 1))

section Loaded
variable {intake : Intake} {host : Host} {directory : Text} {collections : Import.Collections}
  (loaded : Import.ofDirectory host directory = .ok collections)
  {cap : Option Int} {line : Text} {ranked : List Ranked}
  (found : Engine.search ⟨collections.snapshot, cap⟩ line = .ok ranked)

include loaded found

theorem searchAnswered : ∃ response, Response.ofEngine intake ⟨collections.snapshot, cap⟩ line = .ok response := by
  obtain ⟨parsed, parses, each⟩ := Ranking.ofLineEntry found
  obtain ⟨rows, shown⟩ := Outcome.eachOkExists (fun entry member =>
    Row.ofRankedRow intake (Import.ofDirectoryImported loaded _ (Ranking.ofLineMem found member)) (each entry member).1)
  exact ⟨_, Response.ofEngineOk.mpr ⟨ranked, parsed, rows, found, parses, shown, rfl⟩⟩

theorem answerPrints {response : Response}
    (answered : Response.ofEngine intake ⟨collections.snapshot, cap⟩ line = .ok response) :
    Prints.Each 1 ranked response.rows (ofRanking ranked) ∧ (response.hasCriteria = false → ranked = []) := by
  obtain ⟨_, parsed, rows, again, parses, shown, rfl⟩ := Response.ofEngineOk.mp answered
  cases found.symm.trans again
  have inside {entry : Ranked} (member : entry ∈ ranked) := Ranking.ofLineMem found member
  have shows := Outcome.eachOkRelated shown (fun entry member _ =>
    Row.ofRankedShows (Import.ofDirectoryImported loaded _ (inside member)))
  refine ⟨ofRankingPrints shows (fun entry member => importNamed loaded _ (inside member)) 1, fun nothing => ?_⟩
  obtain ⟨other, readToo, ⟨_, none⟩ | ⟨asks, _⟩⟩ := Ranking.ofLineFound found
  · exact none
  · cases parses.symm.trans readToo
    rw [asks] at nothing
    contradiction

end Loaded

structure Agrees (plan : Plan) (settings : Settings) : Prop where
  directory : Path.ofText plan.directory = Path.ofText settings.dataDirectory
  cap : plan.cap = settings.cap

section Agreeing
variable {serving environment : Environment} {host other : Host} {arguments : Arguments} {settings : Settings}
  {plan : Plan} {engine : Engine} {cap : Int} {collections : Import.Collections}

theorem startLoaded (read : Settings.ofEnvironment serving = .ok settings)
    (started : Server.start serving host = .ok (engine, cap)) (shares : Import.Shares host other)
    (agrees : Agrees plan settings) (loaded : Import.ofDirectory other plan.directory = .ok collections) :
    engine = ⟨collections.snapshot, some plan.cap⟩ := by
  have same := agrees.directory.symm
  obtain ⟨_, again, started⟩ := Outcome.bindOk.mp started
  cases read.symm.trans again
  obtain ⟨_, _, started⟩ := Outcome.bindOk.mp started
  obtain ⟨snapshot, found, started⟩ := Outcome.bindOk.mp started
  cases started
  rw [agrees.cap]
  rcases Server.snapshotInDecided host settings.dataDirectory with ⟨_, foundToo, finds⟩ | ⟨_, failed, _⟩
  · cases found.symm.trans foundToo
    cases finds with
    | loaded own ownLoaded => rw [Import.ofDirectoryShared shares same ownLoaded loaded]
    | missing absent => cases (Import.ofDirectoryMissing (Import.missingShared shares same absent)).symm.trans loaded
  · cases found.symm.trans failed

theorem runPlanned (planned : Listing.plan environment other.logging arguments = .ok plan)
    (loaded : Import.ofDirectory other plan.directory = .ok collections) :
    run environment other arguments =
      ofRanking <$> Engine.search ⟨collections.snapshot, some plan.cap⟩ arguments.search := by
  simp only [run, planned, loaded, bind, Except.bind, print]

/- A listing is text here, before it is encoded for output: writing it out can still fail, where a name holds a lone
surrogate. The two programs need not be able to follow a value to the same depth. -/
theorem runAnswered (intake : Intake) (read : Settings.ofEnvironment serving = .ok settings)
    (started : Server.start serving host = .ok (engine, cap)) (shares : Import.Shares host other)
    (planned : Listing.plan environment other.logging arguments = .ok plan) (agrees : Agrees plan settings)
    (loaded : Import.ofDirectory other plan.directory = .ok collections) :
    ((∃ text, run environment other arguments = .ok text) ↔
      ∃ response, Server.respond intake ⟨some engine⟩ arguments.search = .ok response) ∧
    ∀ text response, run environment other arguments = .ok text →
      Server.respond intake ⟨some engine⟩ arguments.search = .ok response →
      (∃ ranked, engine.search arguments.search = .ok ranked ∧ Prints.Each 1 ranked response.rows text) ∧
      (response.hasCriteria = false → text = []) := by
  have engineMade := startLoaded read started shares agrees loaded
  subst engineMade
  rw [runPlanned planned loaded]
  refine ⟨⟨?_, ?_⟩, ?_⟩
  · rintro ⟨_, listed⟩
    obtain ⟨ranked, found, _⟩ := Outcome.mapOk.mp listed
    exact searchAnswered loaded found
  · rintro ⟨response, answered⟩
    obtain ⟨ranked, _, _, found, _⟩ := Response.ofEngineOk.mp answered
    exact ⟨_, Outcome.mapOk.mpr ⟨ranked, found, rfl⟩⟩
  · intro text response listed answered
    obtain ⟨ranked, found, rfl⟩ := Outcome.mapOk.mp listed
    obtain ⟨prints, nothing⟩ := answerPrints loaded found answered
    exact ⟨⟨ranked, found, prints⟩, fun none => congrArg ofRanking (nothing none)⟩

end Agreeing

theorem runAnsweredOfBoth :
    let media := "\x7b\"id\":1,\"type\":\"movie\",\"title\":\"Zeta\"\x7d"
    let notes := "\x7b\"id\":1,\"content\":\"Zeta day\"\x7d"
    let host := Host.standard (.directory [("snap".toText, .directory [(Import.mediaFile, .file media.toUTF8),
      (Import.notesFile, .file notes.toUTF8)])])
    let other := { host with nesting := 900 }
    let intake := Intake.refusing (fun _ => [])
    let serving := [(Settings.dataVariable, "./snap".toText)]
    let arguments : Arguments := ⟨"zeta".toText, some "snap/".toText, none⟩
    let text := "  1. [100] movie Zeta\n  2. [ 95] note  \n".toText
    ∃ engine cap response, Server.start serving host = .ok (engine, cap) ∧
      Server.respond intake ⟨some engine⟩ arguments.search = .ok response ∧ run [] other arguments = .ok text ∧
      ∃ ranked, engine.search arguments.search = .ok ranked ∧ Prints.Each 1 ranked response.rows text := by
  intro media notes host other intake serving arguments text
  have read : Settings.ofEnvironment serving = .ok ⟨"snap".toText, "INFO".toText, 50, "http://localhost:8000".toText⟩ :=
    Outcome.okOfToOption (by decide +kernel)
  have planned : Listing.plan [] other.logging arguments = .ok ⟨"snap/".toText, 50⟩ :=
    Outcome.okOfToOption (by decide +kernel)
  let parsed : Parsed := {
    raw := arguments.search, kinds := [], filters := [], phrases := [], groups := [["zeta".toText]], excluded := [] }
  have parses : Parsed.parse arguments.search = .ok parsed := Outcome.okOfToOption (by decide +kernel)
  obtain ⟨ranked, scored, held⟩ := Outcome.okOfShown (by decide +kernel :
    (Import.ofDirectory other "snap/".toText >>= fun collections =>
      collections.snapshot.entities.mapM (Ranking.ofEntity parsed)).toOption.map (fun ranked =>
        (ranked.map Ranked.score, ofRanking ranked)) = some ([100, 95], text))
  obtain ⟨collections, loaded, each⟩ := Outcome.bindOk.mp scored
  obtain ⟨scores, lines⟩ := Prod.mk.inj held
  -- the ranking is in order as it is, so that it need not be sorted
  have ordered : ranked.Pairwise (fun a b => b.score ≤ a.score) :=
    List.pairwise_map.mp (scores ▸ (by decide : [100, 95].Pairwise (fun a b => b ≤ a)))
  have relevant : ∀ entry ∈ ranked, 0 < entry.score :=
    List.forall_mem_map.mp (scores ▸ (by decide : ∀ score ∈ [100, 95], 0 < score))
  have full : Ranking.full parsed collections.snapshot.entities = .ok ranked := by
    refine Outcome.bindOk.mpr ⟨ranked, each, congrArg Except.ok ?_⟩
    rw [List.filter_eq_self.mpr (by simpa using relevant)]
    exact List.mergeSort_of_pairwise (by simpa using ordered)
  have listed : run [] other arguments = .ok text := by
    have length : ranked.length = 2 := (List.length_map Ranked.score).symm.trans (congrArg List.length scores)
    have all : Ranking.upTo (some 50) ranked = ranked := List.take_of_length_le (length ▸ (by decide : 2 ≤ 50))
    rw [runPlanned planned loaded, Engine.search, Ranking.ofLineCut parses (by decide) _ full, all]
    exact congrArg Except.ok lines
  obtain ⟨⟨engine, cap⟩, started, _⟩ := Outcome.okOfShown
    (by decide +kernel : (Server.start serving host).toOption.map Prod.snd = some 50)
  have shares : Import.Shares host other := ⟨rfl, rfl⟩
  obtain ⟨both, shown⟩ := runAnswered intake read started shares planned ⟨by decide +kernel, rfl⟩ loaded
  obtain ⟨response, answered⟩ := both.mp ⟨text, listed⟩
  exact ⟨engine, cap, response, started, answered, listed, (shown text response listed answered).1⟩

theorem runUntitled :
    let notes := "\x7b\"id\": 1, \"content\": \"Hello\"\x7d\n"
    let host := Host.standard (.directory [("snap".toText, .directory [(Import.notesFile, .file notes.toUTF8)])])
    let intake := Intake.refusing (fun _ => [])
    let environment := [(Settings.dataVariable, "snap".toText)]
    let line := "@note".toText
    run environment host ⟨line, none, none⟩ = .ok "  1. [100] note  \n".toText ∧
    ∃ engine cap response, Server.start environment host = .ok (engine, cap) ∧
      Server.respond intake ⟨some engine⟩ line = .ok response ∧
      response.rows.map (fun row => written 1 row.score row.kind row.title) = ["  1. [100] note  Hello\n".toText] := by
  intro notes host intake environment line
  have listed : run environment host ⟨line, none, none⟩ = .ok "  1. [100] note  \n".toText :=
    Outcome.okOfToOption (by decide +kernel)
  obtain ⟨⟨engine, cap⟩, started, shown⟩ := Outcome.okOfShown (by decide +kernel :
    (Server.start environment host).toOption.map (fun (engine, _) =>
      (Server.respond intake ⟨some engine⟩ line).toOption.map (fun response =>
        response.rows.map (fun row => written 1 row.score row.kind row.title))) =
      some (some ["  1. [100] note  Hello\n".toText]))
  obtain ⟨response, answered, rows⟩ := Outcome.okOfShown shown
  exact ⟨listed, engine, cap, response, started, answered, rows⟩

end CollectionSearch.Listing
