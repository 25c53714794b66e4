import CollectionSearch.Host
import CollectionSearch.Match.Ranking
import CollectionSearch.Query.Parsed

/-!
An engine answers searches over the snapshot that it holds. A session is requests one after the other, each met in the
state that those before it left.
-/
namespace CollectionSearch
namespace Session
variable {State Request Reply : Type}

def run (step : State → Request → State × Reply) (state : State) : List Request → State × List Reply
  | [] => (state, [])
  | request :: rest =>
    let (next, reply) := step state request
    let (last, replies) := run step next rest
    (last, reply :: replies)

theorem runReplies (step : State → Request → State × Reply) (state : State) (requests : List Request) :
    (run step state requests).2.length = requests.length := by
  induction requests generalizing state with
  | nil => rfl
  | cons request rest ih => simp [run, ih]

end Session

structure Engine where
  snapshot : Snapshot
  cap : Option Int

namespace Engine

def ofSnapshot (snapshot : Snapshot) : Engine := ⟨snapshot, some Settings.defaultCap⟩

def size (engine : Engine) : Nat := engine.snapshot.size

def search (engine : Engine) (line : Text) : Except Fault (List Ranked) :=
  Ranking.ofLine engine.cap line engine.snapshot

def hasCriteria (line : Text) : Except Fault Bool := Parsed.hasCriteria <$> Parsed.parse line

def chips (line : Text) : Except Fault (List Text) := Chip.ofParsed <$> Parsed.parse line

def update (engine : Engine) : Except Fault Snapshot → Engine × Except Fault Nat
  | .ok snapshot => ({ engine with snapshot := snapshot }, .ok snapshot.size)
  | .error fault => (engine, .error fault)

inductive Request where
  | search (line : Text)
  | parse (line : Text)
  | criteria (line : Text)
  | chips (line : Text)
  | update (snapshot : Except Fault Snapshot)

inductive Reply where
  | ranking (ranked : List Ranked)
  | parsed (parsed : Parsed)
  | criteria (asked : Bool)
  | chips (chips : List Text)
  | updated (items : Nat)

def step (engine : Engine) : Request → Engine × Except Fault Reply
  | .search line => (engine, .ranking <$> engine.search line)
  | .parse line => (engine, .parsed <$> Parsed.parse line)
  | .criteria line => (engine, .criteria <$> hasCriteria line)
  | .chips line => (engine, .chips <$> chips line)
  | .update snapshot =>
    let (next, items) := engine.update snapshot
    (next, .updated <$> items)

def run (engine : Engine) (requests : List Request) : Engine × List (Except Fault Reply) :=
  Session.run step engine requests

end Engine
end CollectionSearch
