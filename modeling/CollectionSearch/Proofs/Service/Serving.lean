import CollectionSearch.Proofs.Import.Snapshot
import CollectionSearch.Proofs.Service.Session
import CollectionSearch.Service.Server

/-! A server serves the engine that was installed last, and an engine searches the snapshot that was loaded last. A
startup settles all that it needs before it replaces anything, so one that fails leaves what was served. -/
namespace CollectionSearch
namespace Server

inductive Finds (host : Host) (directory : Text) : Snapshot → Prop where
  | loaded (collections : Import.Collections) (read : Import.ofDirectory host directory = .ok collections) :
      Finds host directory collections.snapshot
  | missing (absent : Import.Missing host directory) : Finds host directory .empty

inductive Starts (environment : Environment) (host : Host) : Engine → Prop where
  | started (settings : Settings) (read : Settings.ofEnvironment environment = .ok settings)
      (known : host.logging.setUp (Text.upper settings.logLevel) = .ok ()) (snapshot : Snapshot)
      (finds : Finds host settings.dataDirectory snapshot) : Starts environment host ⟨snapshot, some settings.cap⟩

inductive Stops (environment : Environment) (host : Host) : Fault → Prop where
  | settings (fault : Fault) (unread : Settings.ofEnvironment environment = .error fault) :
      Stops environment host fault
  | level (settings : Settings) (read : Settings.ofEnvironment environment = .ok settings)
      (message : Text) (refused : host.logging.setUp (Text.upper settings.logLevel) = .error message) :
      Stops environment host (.refusedLevel message)
  | data (settings : Settings) (read : Settings.ofEnvironment environment = .ok settings)
      (known : host.logging.setUp (Text.upper settings.logLevel) = .ok ()) (fault : Fault)
      (failed : Import.ofDirectory host settings.dataDirectory = .error fault)
      (present : ¬ Import.Missing host settings.dataDirectory) (unreadable : Import.Unreadable fault) :
      Stops environment host fault

theorem snapshotInDecided (host : Host) (directory : Text) :
    (∃ snapshot, snapshotIn host directory = .ok snapshot ∧ Finds host directory snapshot) ∨
    ∃ fault, snapshotIn host directory = .error fault ∧ Import.ofDirectory host directory = .error fault ∧
      ¬ Import.Missing host directory ∧ Import.Unreadable fault := by
  unfold snapshotIn
  cases read : Import.ofDirectory host directory with
  | ok collections => exact .inl ⟨_, rfl, .loaded collections read⟩
  | error fault =>
    rcases Import.ofDirectoryError read with ⟨absent, rfl⟩ | ⟨present, unreadable⟩
    · exact .inl ⟨_, rfl, .missing absent⟩
    · refine .inr ⟨fault, ?_, rfl, present, unreadable⟩
      cases unreadable with
      | isDirectory | nameTooLong | undecodable | nestedTooDeeply | wholeTooLarge => rfl

theorem checkLevelKnown {logging : Logging} {level : Text} (known : logging.setUp (Text.upper level) = .ok ()) :
    Settings.checkLevel logging level = .ok () := by
  rw [Settings.checkLevel, known]
  rfl

theorem checkLevelRefused {logging : Logging} {level message : Text}
    (refused : logging.setUp (Text.upper level) = .error message) :
    Settings.checkLevel logging level = .error (.refusedLevel message) := by
  rw [Settings.checkLevel, refused]
  rfl

theorem startDecided (environment : Environment) (host : Host) :
    (∃ engine cap, start environment host = .ok (engine, cap) ∧ engine.cap = some cap ∧
      Starts environment host engine) ∨
    ∃ fault, start environment host = .error fault ∧ Stops environment host fault := by
  unfold start
  cases read : Settings.ofEnvironment environment with
  | error fault => exact .inr ⟨fault, rfl, .settings fault read⟩
  | ok settings =>
    cases level : host.logging.setUp (Text.upper settings.logLevel) with
    | error message =>
      refine .inr ⟨_, ?_, .level settings read message level⟩
      simp only [checkLevelRefused level, bind, Except.bind]
    | ok _ =>
      rcases snapshotInDecided host settings.dataDirectory with
        ⟨snapshot, found, finds⟩ | ⟨fault, failed, cause, present, unreadable⟩
      · refine .inl ⟨⟨snapshot, some settings.cap⟩, settings.cap, ?_, rfl, .started settings read level snapshot finds⟩
        simp only [checkLevelKnown level, found, bind, Except.bind, pure, Except.pure]
      · refine .inr ⟨fault, ?_, .data settings read level fault cause present unreadable⟩
        simp only [checkLevelKnown level, failed, bind, Except.bind]

theorem snapshotInFinds {host : Host} {directory : Text} {snapshot : Snapshot}
    (finds : Finds host directory snapshot) : snapshotIn host directory = .ok snapshot := by
  unfold snapshotIn
  cases finds with
  | loaded collections read => rw [read]
  | missing absent => rw [Import.ofDirectoryMissing absent]

theorem startStarts {environment : Environment} {host : Host} {engine : Engine}
    (starts : Starts environment host engine) : ∃ cap, start environment host = .ok (engine, cap) := by
  cases starts with
  | started settings read known snapshot finds =>
    refine ⟨settings.cap, ?_⟩
    simp only [start, read, checkLevelKnown known, snapshotInFinds finds, bind, Except.bind, pure, Except.pure]

theorem startDefault (host : Host) (fault : Fault) : start [] host = .error fault ↔
    Import.ofDirectory host "data".toText = .error fault ∧ ¬ Import.Missing host "data".toText := by
  have read : Settings.ofEnvironment [] =
      .ok ⟨"data".toText, "INFO".toText, Settings.defaultCap, "http://localhost:8000".toText⟩ :=
    Outcome.okOfToOption (by decide +kernel)
  have level : Settings.checkLevel host.logging "INFO".toText = .ok () :=
    checkLevelKnown ((by decide +kernel : Text.upper "INFO".toText = "INFO".toText) ▸ host.logging.usual)
  simp only [start, read, level, bind, Except.bind]
  rcases snapshotInDecided host "data".toText with ⟨snapshot, found, finds⟩ | ⟨other, failed, cause, present, _⟩
  · rw [found]
    refine ⟨nofun, fun ⟨failed, present⟩ => ?_⟩
    cases finds with
    | loaded collections loaded => cases failed.symm.trans loaded
    | missing absent => exact absurd absent present
  · rw [failed, cause]
    constructor
    · rintro ⟨⟩
      exact ⟨rfl, present⟩
    · rintro ⟨⟨⟩, _⟩
      rfl

inductive Sets : Request → Option Engine → Prop where
  | startup (environment : Environment) (host : Host) (engine : Engine) (starts : Starts environment host engine) :
      Sets (.startup environment host) (some engine)
  | install (snapshot : Snapshot) (cap : Option Int) : Sets (.install (.ok snapshot) cap) (some ⟨snapshot, cap⟩)
  | clear : Sets .clear none

inductive Turn (intake : Intake) : Option Engine → Request → Except Fault Reply → Option Engine → Prop where
  | started (served : Option Engine) (environment : Environment) (host : Host) (engine : Engine) (cap : Int)
      (starts : Starts environment host engine) (capped : engine.cap = some cap) :
      Turn intake served (.startup environment host) (.ok (.started engine.size cap)) (some engine)
  | stopped (served : Option Engine) (environment : Environment) (host : Host) (fault : Fault)
      (stops : Stops environment host fault) : Turn intake served (.startup environment host) (.error fault) served
  | installed (served : Option Engine) (snapshot : Snapshot) (cap : Option Int) :
      Turn intake served (.install (.ok snapshot) cap) (.ok (.installed snapshot.size)) (some ⟨snapshot, cap⟩)
  | refused (served : Option Engine) (fault : Fault) (cap : Option Int) :
      Turn intake served (.install (.error fault) cap) (.error fault) served
  | cleared (served : Option Engine) : Turn intake served .clear (.ok .cleared) none
  | idle : Turn intake none .health (.ok (.health false 0)) none
  | healthy (engine : Engine) :
      Turn intake (some engine) .health (.ok (.health true engine.snapshot.size)) (some engine)
  | notReady (line : Text) : Turn intake none (.search line) (.ok (.response ⟨line, false, [], []⟩)) none
  | answered (engine : Engine) (line : Text) :
      Turn intake (some engine) (.search line) (.response <$> Response.ofEngine intake engine line) (some engine)

theorem stepTurns (intake : Intake) (server : Server) (request : Request) :
    Turn intake server.engine request (server.step intake request).2 (server.step intake request).1.engine := by
  cases request with
  | startup environment host =>
    unfold step
    rcases startDecided environment host with ⟨engine, cap, made, capped, starts⟩ | ⟨fault, failed, stops⟩
    · simp only [made]
      exact .started _ environment host engine cap starts capped
    · simp only [failed]
      exact .stopped _ environment host fault stops
  | install source cap =>
    cases source with
    | ok snapshot => exact .installed _ snapshot cap
    | error fault => exact .refused _ fault cap
  | clear => exact .cleared _
  | health =>
    obtain ⟨engine⟩ := server
    cases engine with
    | none => exact .idle
    | some engine => exact .healthy engine
  | search line =>
    obtain ⟨engine⟩ := server
    cases engine with
    | none => exact .notReady line
    | some engine => exact .answered engine line

theorem setsAlone {request : Request} {a b : Option Engine} (left : Sets request a) (right : Sets request b) : a = b := by
  cases left with
  | startup environment host engine starts =>
    cases right with
    | startup _ _ other again =>
      obtain ⟨_, first⟩ := startStarts starts
      obtain ⟨_, second⟩ := startStarts again
      cases first.symm.trans second
      rfl
  | install | clear =>
    cases right
    rfl

theorem stepSettles (intake : Intake) (server : Server) (request : Request) :
    Sets request (server.step intake request).1.engine ∨
    (Session.Quiet Sets request ∧ (server.step intake request).1.engine = server.engine) := by
  cases request with
  | startup environment host =>
    unfold step
    rcases startDecided environment host with ⟨engine, cap, made, _, starts⟩ | ⟨fault, failed, _⟩
    · simp only [made]
      exact .inl (.startup environment host engine starts)
    · simp only [failed]
      refine .inr ⟨fun other sets => ?_, trivial⟩
      cases sets with
      | startup _ _ engine starts =>
        obtain ⟨cap, made⟩ := startStarts starts
        cases failed.symm.trans made
  | install source cap =>
    cases source with
    | ok snapshot => exact .inl (.install snapshot cap)
    | error fault => exact .inr ⟨nofun, rfl⟩
  | clear => exact .inl .clear
  | health | search line => exact .inr ⟨nofun, rfl⟩

theorem stepObeys (intake : Intake) : Session.Obeys (step intake) engine Sets (Turn intake) (fun _ => True) where
  alone _ _ _ := setsAlone
  keeps _ _ _ := trivial
  settles server request _ := stepSettles intake server request
  turns server request _ := stepTurns intake server request

end Server

namespace Engine

inductive Sets : Request → Snapshot → Prop where
  | update (snapshot : Snapshot) : Sets (.update (.ok snapshot)) snapshot

inductive Turn (cap : Option Int) : Snapshot → Request → Except Fault Reply → Snapshot → Prop where
  | searched (held : Snapshot) (line : Text) :
      Turn cap held (.search line) (.ranking <$> (⟨held, cap⟩ : Engine).search line) held
  | parsed (held : Snapshot) (line : Text) : Turn cap held (.parse line) (.parsed <$> Parsed.parse line) held
  | criteria (held : Snapshot) (line : Text) : Turn cap held (.criteria line) (.criteria <$> hasCriteria line) held
  | chips (held : Snapshot) (line : Text) : Turn cap held (.chips line) (.chips <$> chips line) held
  | updated (held snapshot : Snapshot) : Turn cap held (.update (.ok snapshot)) (.ok (.updated snapshot.size)) snapshot
  | refused (held : Snapshot) (fault : Fault) : Turn cap held (.update (.error fault)) (.error fault) held

theorem stepTurns (engine : Engine) (request : Request) :
    Turn engine.cap engine.snapshot request (engine.step request).2 (engine.step request).1.snapshot := by
  cases request with
  | search line => exact .searched _ line
  | parse line => exact .parsed _ line
  | criteria line => exact .criteria _ line
  | chips line => exact .chips _ line
  | update source =>
    cases source with
    | ok snapshot => exact .updated _ snapshot
    | error fault => exact .refused _ fault

theorem stepSettles (engine : Engine) (request : Request) :
    Sets request (engine.step request).1.snapshot ∨
    (Session.Quiet Sets request ∧ (engine.step request).1.snapshot = engine.snapshot) := by
  cases request with
  | update source =>
    cases source with
    | ok snapshot => exact .inl (.update snapshot)
    | error fault => exact .inr ⟨nofun, rfl⟩
  | search | parse | criteria | chips => exact .inr ⟨nofun, rfl⟩

theorem stepCap (engine : Engine) (request : Request) : (engine.step request).1.cap = engine.cap := by
  cases request with
  | update source =>
    cases source with
    | ok snapshot => rfl
    | error fault => rfl
  | search | parse | criteria | chips => rfl

theorem stepObeys (cap : Option Int) : Session.Obeys step snapshot Sets (Turn cap) (fun engine => engine.cap = cap) where
  alone _ _ _ left right := by
    cases left
    cases right
    rfl
  keeps engine request same := (stepCap engine request).trans same
  settles engine request _ := stepSettles engine request
  turns engine request same := same ▸ stepTurns engine request

end Engine

theorem Server.sessionServed :
    (∀ intake, Session.Follows (Server.step intake) Server.engine Server.Sets (Server.Turn intake) Server.empty) ∧
    ∀ engine : Engine, Session.Follows Engine.step Engine.snapshot Engine.Sets (Engine.Turn engine.cap) engine :=
  ⟨fun intake => Session.followsOfObeys (stepObeys intake) trivial,
    fun engine => Session.followsOfObeys (Engine.stepObeys engine.cap) rfl⟩

end CollectionSearch
