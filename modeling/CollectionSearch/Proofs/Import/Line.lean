import CollectionSearch.Import.Snapshot
import CollectionSearch.Proofs.Import.Record

/-! A file that is text accounts for each of its lines: it is blank, it gives one record, or it gives one warning with
its number. A file is refused for two things only, a value nested too deeply and a rating beyond all reals. -/
namespace CollectionSearch.Import
variable {α : Type} {limit : Nat} {label : Text} {convert : Json.Members → Except Fault α}

inductive Spoils (limit : Nat) (convert : Json.Members → Except Fault α) (line : Text) : Fault → Prop where
  | oversized (digits : Nat) (read : Json.read limit line = .error (.oversized digits)) :
      Spoils limit convert line (.oversizedNumeral digits)
  | other (value : Json) (read : Json.read limit line = .ok value) (plain : ∀ members, value ≠ .object members) :
      Spoils limit convert line .notAnObject
  | refused (members : Json.Members) (read : Json.read limit line = .ok (.object members)) (fault : Fault)
      (cause : convert members = .error fault) (confined : fault.spoilsRecord = true) : Spoils limit convert line fault

inductive Gives (limit : Nat) (convert : Json.Members → Except Fault α) (line : Text) : Outcome α → Prop where
  | blank (empty : Text.isBlankOnly line = true) : Gives limit convert line .blank
  | record (filled : Text.isBlankOnly line = false) (members : Json.Members)
      (read : Json.read limit line = .ok (.object members)) (value : α) (made : convert members = .ok value) :
      Gives limit convert line (.record value)
  | malformed (filled : Text.isBlankOnly line = false) (refusal : Json.Refusal)
      (read : Json.read limit line = .error (.malformed refusal)) :
      Gives limit convert line (.malformed (refusal.message line))
  | spoiled (filled : Text.isBlankOnly line = false) (fault : Fault) (spoils : Spoils limit convert line fault) :
      Gives limit convert line (.spoiled fault)

inductive Accounted (limit : Nat) (label : Text) (convert : Json.Members → Except Fault α) :
    Nat → List Text → List α → List Warning → Prop where
  | done (n : Nat) : Accounted limit label convert n [] [] []
  | line (n : Nat) (line : Text) (outcome : Outcome α) (gives : Gives limit convert line outcome) (rest : List Text)
      (records : List α) (warnings : List Warning)
      (behind : Accounted limit label convert (n + 1) rest records warnings) :
      Accounted limit label convert n (line :: rest) (outcome.record?.toList ++ records)
        ((outcome.warning? label n).toList ++ warnings)

/- The only lines that end an import, given the objects that would. -/
inductive Ends (limit : Nat) (oversized : Json.Members → Prop) (line : Text) : Fault → Prop where
  | nested (inArray : Bool) (read : Json.read limit line = .error (.nested inArray)) :
      Ends limit oversized line (.nestedTooDeeply inArray)
  | tooLarge (members : Json.Members) (read : Json.read limit line = .ok (.object members))
      (holds : oversized members) :
      Ends limit oversized line .wholeTooLarge

theorem ofResultSpoiled {fault : Fault} (spoils : fault.spoilsRecord = true) :
    Outcome.ofResult (.error fault : Except Fault α) = .ok (.spoiled fault) := if_pos spoils

theorem givesOfLine {line : Text} {outcome : Outcome α} (gives : Gives limit convert line outcome) :
    Outcome.ofLine limit convert line = .ok outcome := by
  unfold Outcome.ofLine
  cases gives with
  | blank empty => rw [if_pos empty]
  | record filled members read value made =>
    rw [filled, read]
    exact congrArg Outcome.ofResult made
  | malformed filled refusal read =>
    rw [filled, read]
    rfl
  | spoiled filled fault spoils =>
    rw [filled]
    cases spoils with
    | oversized digits read =>
      rw [read]
      rfl
    | other value read plain =>
      rw [read]
      cases value with
      | object members => exact absurd rfl (plain members)
      | null | flag value | number value | text value | array items => rfl
    | refused members read fault cause confined =>
      rw [read]
      exact (congrArg Outcome.ofResult cause).trans (ofResultSpoiled confined)

theorem ofLineDecided {oversized : Json.Members → Prop}
    (bounded : ∀ members fault, convert members = .error fault → Bounded (oversized members) fault) (line : Text) :
    (∃ outcome, Gives limit convert line outcome) ∨
    ∃ fault, Outcome.ofLine limit convert line = .error fault ∧ Ends limit oversized line fault := by
  cases filled : Text.isBlankOnly line with
  | true => exact Or.inl ⟨_, .blank filled⟩
  | false =>
    cases read : Json.read limit line with
    | error flaw =>
      cases flaw with
      | malformed refusal => exact Or.inl ⟨_, .malformed filled refusal read⟩
      | oversized digits => exact Or.inl ⟨_, .spoiled filled _ (.oversized digits read)⟩
      | nested inArray =>
        refine Or.inr ⟨_, ?_, .nested inArray read⟩
        rw [Outcome.ofLine, filled, read]
        rfl
    | ok value =>
      cases value with
      | object members =>
        cases made : convert members with
        | ok value => exact Or.inl ⟨_, .record filled members read value made⟩
        | error fault =>
          rcases bounded members fault made with confined | ⟨rfl, holds⟩
          · exact Or.inl ⟨_, .spoiled filled fault (.refused members read fault made confined)⟩
          · refine Or.inr ⟨_, ?_, .tooLarge members read holds⟩
            rw [Outcome.ofLine, filled, read]
            exact congrArg Outcome.ofResult made
      | null | flag value | number value | text value | array items =>
        exact Or.inl ⟨_, .spoiled filled _ (.other _ read nofun)⟩

theorem accountedOfOutcomes {lines : List Text} {outcomes : List (Outcome α)}
    (gives : List.Forall₂ (Gives limit convert) lines outcomes) (n : Nat) :
    Accounted limit label convert n lines (outcomes.filterMap Outcome.record?)
      ((outcomes.zipIdx n).filterMap (fun (outcome, line) => outcome.warning? label line)) := by
  induction gives generalizing n with
  | nil => exact .done n
  | @cons line outcome lines outcomes first rest ih =>
    have behind := Accounted.line n line outcome first lines _ _ (ih (n + 1))
    cases outcome with
    | blank | record value | malformed cause | spoiled fault => exact behind

theorem outcomesOfAccounted {n : Nat} {lines : List Text} {records : List α} {warnings : List Warning}
    (accounted : Accounted limit label convert n lines records warnings) :
    ∃ outcomes, List.Forall₂ (Gives limit convert) lines outcomes ∧ records = outcomes.filterMap Outcome.record? ∧
      warnings = (outcomes.zipIdx n).filterMap (fun (outcome, line) => outcome.warning? label line) := by
  induction accounted with
  | done n => exact ⟨[], .nil, rfl, rfl⟩
  | line n line outcome gives rest records warnings behind ih =>
    obtain ⟨outcomes, each, rfl, rfl⟩ := ih
    refine ⟨outcome :: outcomes, .cons gives each, ?_⟩
    cases outcome with
    | blank | record value | malformed cause | spoiled fault => exact ⟨rfl, rfl⟩

theorem accountedRecords {n : Nat} {lines : List Text} {records : List α} {warnings : List Warning}
    (accounted : Accounted limit label convert n lines records warnings) :
    ∀ record ∈ records, ∃ members, convert members = .ok record := by
  induction accounted with
  | done n => simp
  | line n line outcome gives rest records warnings behind ih =>
    intro record member
    cases gives with
    | record filled members read value made =>
      rcases List.mem_cons.mp member with rfl | later
      · exact ⟨members, made⟩
      · exact ih record later
    | blank | malformed | spoiled => exact ih record member

structure Explained (limit : Nat) (label : Text) (convert : Json.Members → Except Fault α)
    (oversized : Json.Members → Prop) (lines : List Text) (result : Except Fault (Loaded α)) : Prop where
  returns : (∀ line ∈ lines, ∀ fault, ¬ Ends limit oversized line fault) → ∃ loaded, result = .ok loaded
  loads : ∀ loaded, result = .ok loaded ↔ Accounted limit label convert 1 lines loaded.records loaded.warnings
  ends : ∀ fault, result = .error fault → ∃ line ∈ lines, Ends limit oversized line fault

section Bounds
variable {oversized : Json.Members → Prop}
  (bounded : ∀ members fault, convert members = .error fault → Bounded (oversized members) fault)
include bounded

theorem ofLineIff {line : Text} {outcome : Outcome α} :
    Outcome.ofLine limit convert line = .ok outcome ↔ Gives limit convert line outcome := by
  refine ⟨fun ok => ?_, givesOfLine⟩
  rcases ofLineDecided bounded line with ⟨other, gives⟩ | ⟨fault, failed, _⟩
  · cases ok.symm.trans (givesOfLine gives)
    exact gives
  · cases ok.symm.trans failed

theorem ofLineEnds {line : Text} {fault : Fault} (failed : Outcome.ofLine limit convert line = .error fault) :
    Ends limit oversized line fault := by
  rcases ofLineDecided bounded line with ⟨outcome, gives⟩ | ⟨other, cause, ends⟩
  · cases failed.symm.trans (givesOfLine gives)
  · cases failed.symm.trans cause
    exact ends

theorem ofTextExplained (limit : Nat) (label : Text) (content : Text) :
    Explained limit label convert oversized (lines content) (ofText limit label convert content) := by
  have ends : ∀ fault, ofText limit label convert content = .error fault →
      ∃ line ∈ lines content, Ends limit oversized line fault := by
    intro fault failed
    obtain ⟨line, member, cause⟩ := Outcome.eachError (Outcome.mapError.mp failed)
    exact ⟨line, member, ofLineEnds bounded cause⟩
  refine { returns := fun sound => ?_, loads := fun loaded => ⟨fun ok => ?_, fun accounted => ?_⟩, ends := ends }
  · cases outcome : ofText limit label convert content with
    | ok loaded => exact ⟨loaded, rfl⟩
    | error fault =>
      obtain ⟨line, member, cause⟩ := ends fault outcome
      exact absurd cause (sound line member fault)
  · obtain ⟨outcomes, each, rfl⟩ := Outcome.mapOk.mp ok
    exact accountedOfOutcomes ((Outcome.eachOk.mp each).imp (fun _ _ => (ofLineIff bounded).mp)) 1
  · obtain ⟨outcomes, gives, records, warnings⟩ := outcomesOfAccounted accounted
    have each := Outcome.eachOk.mpr (gives.imp (fun _ _ => givesOfLine))
    refine Outcome.mapOk.mpr ⟨outcomes, each, ?_⟩
    rw [ofOutcomes, ← records, ← warnings]

end Bounds

theorem ofFileText {host : Host} {file : Text} {content : String}
    (found : contentAt host (Path.ofText file) = .ok (some content.toUTF8)) :
    ofFile label convert host file = ofText host.nesting label convert content.toText := by
  have decoded : String.fromUTF8? content.toUTF8 = some content := dif_pos content.isValidUTF8
  simp only [ofFile, found, bind, Except.bind, ofBytes, decoded]

/- A note has no rating, so only the nesting of a value can end the import of notes. -/
theorem ofFileExplained {host : Host} {file : Text} {content : String}
    (found : contentAt host (Path.ofText file) = .ok (some content.toUTF8)) :
    Explained host.nesting mediaLabel media Unrated (lines content.toText) (ofFile mediaLabel media host file) ∧
    Explained host.nesting noteLabel note (fun _ => False) (lines content.toText) (ofFile noteLabel note host file) ∧
    Explained host.nesting placeLabel place (fun members => TooLarge (get members "rating")) (lines content.toText)
      (ofFile placeLabel place host file) := by
  simp only [ofFileText found]
  exact ⟨ofTextExplained (fun _ _ => mediaError) _ mediaLabel content.toText,
    ofTextExplained (fun _ _ => noteError) _ noteLabel content.toText,
    ofTextExplained (fun _ _ => placeError) _ placeLabel content.toText⟩

theorem ofFileExplainedOfPlaces :
    let content := "\x7b\"id\": 1, \"name\": \"Bar\"\x7d\r\n\n[]\n"
    let file := "places.jsonl".toText
    let host := Host.standard (.directory [(file, .file content.toUTF8)])
    contentAt host (Path.ofText file) = .ok (some content.toUTF8) ∧
    Explained host.nesting placeLabel place (fun members => TooLarge (get members "rating")) (lines content.toText)
      (ofFile placeLabel place host file) := by
  intro content file host
  have found : contentAt host (Path.ofText file) = .ok (some content.toUTF8) := rfl
  exact ⟨found, (ofFileExplained found).2.2⟩

theorem errorOfMessage {result : Except Fault α} {text : Text}
    (ends : (match result with | .error fault => some fault.message | .ok _ => none) = some text) :
    ∃ fault, result = .error fault ∧ fault.message = text := by
  cases result with
  | error fault => exact ⟨fault, rfl, Option.some.inj ends⟩
  | ok loaded => cases ends

theorem ofFileTooLarge :
    let good := "\x7b\"id\": 1, \"name\": \"Bar\"\x7d\n"
    let content := good ++ "\x7b\"id\": 2, \"name\": \"Cafe\", \"rating\": 1" ++
      String.ofList (List.replicate 309 '0') ++ "\x7d\n"
    let file := "places.jsonl".toText
    let host := Host.standard (.directory [(file, .file content.toUTF8)])
    ∃ fault, ofFile placeLabel place host file = .error fault ∧
      fault.message = "int too large to convert to float".toText := by
  intro good content file host
  have found : contentAt host (Path.ofText file) = .ok (some content.toUTF8) := rfl
  have text : content.toText = good.toText ++ "\x7b\"id\": 2, \"name\": \"Cafe\", \"rating\": 1".toText ++
      List.replicate 309 (.char '0') ++ "\x7d\n".toText := by
    simp only [content, String.toText, String.toList_append, List.map_append, String.toList_ofList, List.map_replicate]
  rw [ofFileText found, text]
  exact errorOfMessage (by decide +kernel)

end CollectionSearch.Import
