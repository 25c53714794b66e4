import CollectionSearch.Proofs.Match.Ranking
import CollectionSearch.Proofs.Number.Numeral
import CollectionSearch.Service.Listing
import CollectionSearch.Service.Server

/-! Settings from an environment. Every variable takes any text but that of the cap: written in digits of which no
number is read, it stops whatever needs settings, and otherwise it stops nothing. -/
namespace CollectionSearch
namespace Settings

/- Digits of which no number is read: one of them is not decimal, or there are too many. -/
structure Refused (text : Text) : Prop where
  some : text ≠ []
  digits : ∀ c ∈ text, Text.isDigit c = true
  unread : ¬ Number.DigitRow text

inductive Gives : Option Text → Int → Prop where
  | number (text : Text) (row : Number.DigitRow text) :
      Gives (some text) (Text.denoted (text.filterMap Text.digit?))
  | default (given : Option Text) (none : ∀ text, given = some text → ¬ Number.DigitRow text) : Gives given defaultCap

theorem capOfDigits {text : Text} (some : text ≠ []) (digits : ∀ c ∈ text, Text.isDigit c = true) :
    capOf (.some text) = Number.wholeOfDigits text := by
  have all : text.all Text.isDigit = true := List.all_eq_true.mpr digits
  exact if_neg (by simp [some, all])

theorem capOfOther {text : Text} (other : text ≠ [] → ¬ ∀ c ∈ text, Text.isDigit c = true) :
    capOf (some text) = .ok defaultCap := by
  refine if_pos ?_
  by_cases empty : text = []
  · simp [empty]
  · simpa [empty] using other empty

theorem rowDigits {text : Text} (row : Number.DigitRow text) : ∀ c ∈ text, Text.isDigit c = true :=
  fun c member => by simp [Text.isDigit, row.decimal c member]

theorem capOfRefused {text : Text} (refused : Refused text) :
    ∃ fault, Number.Unread text fault ∧ capOf (some text) = .error fault := by
  obtain ⟨fault, unread⟩ := Number.unreadOtherwise refused.some refused.unread
  exact ⟨fault, unread, (capOfDigits refused.some refused.digits).trans (Number.wholeOfUnread unread)⟩

theorem capOfGives {given : Option Text} (accepted : ∀ text, given = some text → ¬ Refused text) :
    ∃ cap, capOf given = .ok cap ∧ Gives given cap := by
  cases given with
  | none => exact ⟨_, rfl, .default none nofun⟩
  | some text =>
    by_cases row : Number.DigitRow text
    · exact ⟨_, (capOfDigits row.some (rowDigits row)).trans (Number.wholeOfRow row), .number text row⟩
    · refine ⟨_, capOfOther (fun some digits => accepted text rfl ⟨some, digits, row⟩), .default _ ?_⟩
      rintro _ ⟨⟩
      exact row

def uncapped (environment : Environment) : Environment := environment.filter (·.1 != capVariable)

theorem ofEnvironmentUncapped (environment : Environment) :
    ∃ settings, ofEnvironment (uncapped environment) = .ok settings ∧
      ofEnvironment environment =
        (fun cap => { settings with cap := cap }) <$> capOf (environment.lookup capVariable) := by
  have unset : (uncapped environment).lookup capVariable = none :=
    List.lookup_eq_none_iff.mpr (fun entry member => bne_comm.trans (List.mem_filter.mp member).2)
  have kept {name : Text} (other : name ≠ capVariable) : (uncapped environment).lookup name = environment.lookup name :=
    Sequence.lookupWithout other environment
  unfold ofEnvironment
  rw [unset, kept (by decide : dataVariable ≠ capVariable), kept (by decide : levelVariable ≠ capVariable),
    kept (by decide : addressVariable ≠ capVariable)]
  exact ⟨_, rfl, rfl⟩

end Settings

theorem Ranking.ofLineFails (cap other : Option Int) {line : Text} {snapshot : Snapshot} {fault : Fault} :
    ofLine cap line snapshot = .error fault ↔ ofLine other line snapshot = .error fault := by
  refine Outcome.bindFails (fun parsed => ?_)
  unfold ofParsed
  split
  · exact Outcome.mapError.trans Outcome.mapError.symm
  · rfl

section SameButCap
variable {environment other : Environment} {settings : Settings} {cap : Int}
  (read : Settings.ofEnvironment environment = .ok { settings with cap := cap })
  (readOther : Settings.ofEnvironment other = .ok settings)

include read readOther

theorem Server.startFails (host : Host) (fault : Fault) :
    start environment host = .error fault ↔ start other host = .error fault := by
  rw [start, start, read, readOther]
  show (Settings.checkLevel _ settings.logLevel >>= fun _ => snapshotIn host settings.dataDirectory >>= _) = _ ↔
    (Settings.checkLevel _ settings.logLevel >>= fun _ => snapshotIn host settings.dataDirectory >>= _) = _
  refine Outcome.bindFails (fun known => Outcome.bindFails (fun snapshot => ?_))
  exact ⟨nofun, nofun⟩

theorem Listing.runFails (host : Host) (arguments : Arguments) (fault : Fault) :
    run environment host arguments = .error fault ↔ run other host arguments = .error fault := by
  rw [run, run, plan, plan, read, readOther]
  show ((Settings.checkLevel _ (arguments.logLevel.getD settings.logLevel) >>= fun _ => pure _) >>= _) = _ ↔
    ((Settings.checkLevel _ (arguments.logLevel.getD settings.logLevel) >>= fun _ => pure _) >>= _) = _
  rw [bind_assoc, bind_assoc]
  refine Outcome.bindFails (fun known => ?_)
  show (Import.ofDirectory host (arguments.data.getD settings.dataDirectory) >>= _) = _ ↔
    (Import.ofDirectory host (arguments.data.getD settings.dataDirectory) >>= _) = _
  refine Outcome.bindFails (fun collections => ?_)
  exact Outcome.mapError.trans ((Ranking.ofLineFails _ _).trans Outcome.mapError.symm)

end SameButCap

namespace Settings

theorem unreadStops {environment : Environment} {fault : Fault} (failed : ofEnvironment environment = .error fault) :
    (∀ host, Server.start environment host = .error fault) ∧
    ∀ host arguments, Listing.run environment host arguments = .error fault := by
  refine ⟨fun host => Outcome.bindError.mpr (.inl failed), fun host arguments => ?_⟩
  exact Outcome.bindError.mpr (.inl (Outcome.bindError.mpr (.inl failed)))

theorem ofEnvironmentRefused {environment : Environment} {text : Text}
    (present : environment.lookup capVariable = some text) (refused : Refused text) :
    ∃ fault, Number.Unread text fault ∧ ofEnvironment environment = .error fault := by
  obtain ⟨settings, _, read⟩ := ofEnvironmentUncapped environment
  obtain ⟨fault, unread, failed⟩ := capOfRefused refused
  exact ⟨fault, unread, read.trans (congrArg (Except.map _) (present ▸ failed))⟩

theorem ofEnvironmentGives {environment : Environment}
    (accepted : ∀ text, environment.lookup capVariable = some text → ¬ Refused text) :
    ∃ settings cap, ofEnvironment (uncapped environment) = .ok settings ∧
      ofEnvironment environment = .ok { settings with cap := cap } ∧ Gives (environment.lookup capVariable) cap := by
  obtain ⟨settings, unset, read⟩ := ofEnvironmentUncapped environment
  obtain ⟨cap, made, gives⟩ := capOfGives accepted
  exact ⟨settings, cap, unset, read.trans (congrArg (Except.map _) made), gives⟩

theorem ofEnvironmentCap (environment : Environment) :
    let given := environment.lookup capVariable
    ((∃ settings, ofEnvironment environment = .ok settings) ↔ ∀ text, given = some text → ¬ Refused text) ∧
    (∀ settings, ofEnvironment environment = .ok settings → Gives given settings.cap) ∧
    (∀ text, given = some text → Refused text → ∃ fault, Number.Unread text fault ∧
      ofEnvironment environment = .error fault ∧ (∀ host, Server.start environment host = .error fault) ∧
      ∀ host arguments, Listing.run environment host arguments = .error fault) ∧
    ((∀ text, given = some text → ¬ Refused text) → ∀ host fault,
      (Server.start environment host = .error fault ↔ Server.start (uncapped environment) host = .error fault) ∧
      ∀ arguments, Listing.run environment host arguments = .error fault ↔
        Listing.run (uncapped environment) host arguments = .error fault) := by
  intro given
  have decided : (∃ settings, ofEnvironment environment = .ok settings) →
      ∀ text, given = some text → ¬ Refused text := by
    rintro ⟨settings, ok⟩ text present refused
    obtain ⟨fault, _, failed⟩ := ofEnvironmentRefused present refused
    cases failed.symm.trans ok
  refine ⟨⟨decided, fun accepted => ?_⟩, fun settings ok => ?_, fun text present refused => ?_, fun accepted => ?_⟩
  · obtain ⟨_, _, _, ok, _⟩ := ofEnvironmentGives accepted
    exact ⟨_, ok⟩
  · obtain ⟨_, _, _, made, gives⟩ := ofEnvironmentGives (decided ⟨settings, ok⟩)
    cases ok.symm.trans made
    exact gives
  · obtain ⟨fault, unread, failed⟩ := ofEnvironmentRefused present refused
    exact ⟨fault, unread, failed, unreadStops failed⟩
  · obtain ⟨_, _, unset, made, _⟩ := ofEnvironmentGives accepted
    intro host fault
    refine ⟨?_, fun arguments => ?_⟩
    · exact Server.startFails made unset host fault
    · exact Listing.runFails made unset host arguments fault

theorem ofEnvironmentSuperscript :
    let environment := [(capVariable, "²".toText)]
    ofEnvironment environment = .error (.notWhole "²".toText) ∧
    (∀ host, Server.start environment host = .error (.notWhole "²".toText)) ∧
    ∀ host arguments, Listing.run environment host arguments = .error (.notWhole "²".toText) := by
  intro environment
  have cap : capOf (some "²".toText) = .error (.notWhole "²".toText) :=
    (capOfDigits (by decide) (by decide +kernel)).trans
      (Number.wholeOfOthers (by decide) ⟨_, List.mem_singleton_self _, by decide +kernel⟩)
  have failed : ofEnvironment environment = .error (.notWhole "²".toText) := by
    obtain ⟨settings, _, read⟩ := ofEnvironmentUncapped environment
    rw [read, List.lookup_cons_self, cap]
    rfl
  exact ⟨failed, unreadStops failed⟩

end Settings
end CollectionSearch
