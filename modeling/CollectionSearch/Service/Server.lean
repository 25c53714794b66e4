import CollectionSearch.Import.Snapshot
import CollectionSearch.Service.Engine

/-!
A server holds the engine installed last, if any, and answers searches with one row for each ranked entity. A startup
that fails leaves it as it was, and asking never changes it.
-/
namespace CollectionSearch

structure Row where
  kind : Text
  id : Text
  title : Text
  score : Nat
  snippet : Option Text
  status : Option Text
  rating : Option Binary64
  year : Option Number
  posterPath : Option Text
  creator : Option Text
  deriving DecidableEq, Repr

structure Response where
  line : Text
  hasCriteria : Bool
  chips : List Text
  rows : List Row
  deriving DecidableEq, Repr

/-- How a field that holds a real number takes a whole one: as the real number nearest to it, if there is one. -/
structure Intake where
  ofWhole : Int → Except Text Binary64
  nearest : ∀ n x, Binary64.ofInt? n = some x → ofWhole n = .ok x

def Intake.refusing (message : Int → Text) : Intake where
  ofWhole n := (Binary64.ofInt? n).elim (.error (message n)) .ok
  nearest n x found := by rw [found]; rfl

namespace Row

def snippetLength : Nat := 200

def snippetOf (text : Text) : Option Text := if text.isEmpty then none else some (text.take snippetLength)

def ratingOf (intake : Intake) : Option Number → Except Fault (Option Binary64)
  | none => .ok none
  | some (.real x) => .ok (some x)
  | some (.whole n) => ((intake.ofWhole n).map some).mapError .refusedRating

def ofRanked (intake : Intake) (ranked : Ranked) : Except Fault Row := do
  let item ← ranked.entity.toItem
  match ranked.entity with
  | .media record =>
    return {
      kind := ranked.kind
      id := record.id
      title := item.title
      score := ranked.score
      snippet := snippetOf (if record.overview.isEmpty then record.notes else record.overview)
      status := some record.status
      rating := ← ratingOf intake (← record.displayRating)
      year := ← record.releaseYear
      posterPath := record.posterPath
      creator := record.creator }
  | .note record =>
    return {
      kind := ranked.kind
      id := record.id
      title := item.title
      score := ranked.score
      snippet := snippetOf record.content
      status := none
      rating := none
      year := none
      posterPath := none
      creator := record.creator }
  | .place record =>
    return {
      kind := ranked.kind
      id := record.id
      title := item.title
      score := ranked.score
      snippet := snippetOf record.notes
      status := none
      rating := ← ratingOf intake record.rating
      year := none
      posterPath := none
      creator := record.creator }
  | .unsupported value => throw (.unsupportedEntity value)

end Row

namespace Response

def notReady (line : Text) : Response := ⟨line, false, [], []⟩

def ofEngine (intake : Intake) (engine : Engine) (line : Text) : Except Fault Response := do
  let ranked ← engine.search line
  let hasCriteria ← Engine.hasCriteria line
  let chips ← Engine.chips line
  let rows ← ranked.mapM (Row.ofRanked intake)
  return ⟨line, hasCriteria, chips, rows⟩

end Response

structure Server where
  engine : Option Engine

namespace Server

inductive Request where
  | startup (environment : Environment) (host : Host)
  | install (snapshot : Except Fault Snapshot) (cap : Option Int)
  | clear
  | health
  | search (line : Text)

inductive Reply where
  | started (items : Nat) (cap : Int)
  | installed (items : Nat)
  | cleared
  | health (ready : Bool) (items : Nat)
  | response (response : Response)

def empty : Server := ⟨none⟩

def snapshotIn (host : Host) (directory : Text) : Except Fault Snapshot :=
  match Import.ofDirectory host directory with
  | .ok collections => .ok collections.snapshot
  | .error (.missingDirectory _) => .ok .empty
  | .error fault => .error fault

def start (environment : Environment) (host : Host) : Except Fault (Engine × Int) := do
  let settings ← Settings.ofEnvironment environment
  Settings.checkLevel host.logging settings.logLevel
  let snapshot ← snapshotIn host settings.dataDirectory
  return (⟨snapshot, some settings.cap⟩, settings.cap)

def items (server : Server) : Nat := (server.engine.map Engine.size).getD 0

def respond (intake : Intake) (server : Server) (line : Text) : Except Fault Response :=
  match server.engine with
  | none => .ok (.notReady line)
  | some engine => Response.ofEngine intake engine line

def step (intake : Intake) (server : Server) : Request → Server × Except Fault Reply
  | .startup environment host =>
    match start environment host with
    | .ok (engine, cap) => (⟨some engine⟩, .ok (.started engine.size cap))
    | .error fault => (server, .error fault)
  | .install snapshot cap =>
    match snapshot with
    | .ok snapshot => (⟨some ⟨snapshot, cap⟩⟩, .ok (.installed snapshot.size))
    | .error fault => (server, .error fault)
  | .clear => (empty, .ok .cleared)
  | .health => (server, .ok (.health server.engine.isSome server.items))
  | .search line => (server, .response <$> server.respond intake line)

def run (intake : Intake) (server : Server) (requests : List Request) : Server × List (Except Fault Reply) :=
  Session.run (step intake) server requests

end Server
end CollectionSearch
