import CollectionSearch.Proofs.Number.Numeral
import CollectionSearch.Proofs.Text.Ascii

/-! Numbers in any case. A number is written in ASCII without a `k`, in blanks and in decimal digits, and of these
lowering changes capitals only; capitals make no difference in an exponent or in a word for a number. A text with
anything else in it is no number, and neither is its lower case. -/
namespace CollectionSearch.Number

def asciiLower (c : CodePoint) : CodePoint := c.mapChar Char.toLower

theorem asciiLowerOther {c : CodePoint} (foreign : Text.isAscii c = false) : asciiLower c = c := by
  cases c with
  | surrogate index => rfl
  | char c =>
    have far : ¬ c.toNat < 0x80 := of_decide_eq_false foreign
    refine congrArg CodePoint.char (dif_neg (fun capital => ?_))
    have most : c.toNat ≤ 0x5A := capital.2
    omega

def marks : Text := "-+._".toText

/- What the digits, the marks and the letters of numbers have in common, and the Kelvin sign has not. -/
def Plain (c : CodePoint) : Prop := Text.isAscii c = true ∧ c ≠ .char 'k'

instance (c : CodePoint) : Decidable (Plain c) := by unfold Plain; infer_instance

structure ReadsLike (c d : CodePoint) : Prop where
  digit : isPlainDigit d = isPlainDigit c
  kept : isPlainDigit c = true → d = c
  margin : isMargin d = isMargin c
  mark : ∀ mark ∈ marks, d = mark ↔ c = mark
  exponent : (d = .char 'e' ∨ d = .char 'E') ↔ (c = .char 'e' ∨ c = .char 'E')
  plain : Plain d → Plain c

theorem readsLikeLower (c : CodePoint) : ReadsLike c (asciiLower c) := by
  by_cases ascii : Text.isAscii c = true
  · have each : (isPlainDigit (asciiLower c) = isPlainDigit c ∧ (isPlainDigit c = true → asciiLower c = c) ∧
        isMargin (asciiLower c) = isMargin c) ∧ (∀ mark ∈ marks, asciiLower c = mark ↔ c = mark) ∧
        ((asciiLower c = .char 'e' ∨ asciiLower c = .char 'E') ↔ (c = .char 'e' ∨ c = .char 'E')) ∧
        (Plain (asciiLower c) → Plain c) := Text.eachAscii c ascii (by decide +kernel)
    obtain ⟨⟨digit, kept, margin⟩, mark, exponent, plain⟩ := each
    exact ⟨digit, kept, margin, mark, exponent, plain⟩
  · rw [asciiLowerOther (by simpa using ascii)]
    exact ⟨rfl, fun _ => rfl, rfl, fun _ _ => Iff.rfl, Iff.rfl, id⟩

theorem digitLowered : isPlainDigit ∘ asciiLower = isPlainDigit := funext (fun c => (readsLikeLower c).digit)

theorem digitKept {c : CodePoint} (digit : isPlainDigit c = true) : asciiLower c = c := (readsLikeLower c).kept digit

theorem marginLowered : isMargin ∘ asciiLower = isMargin := funext (fun c => (readsLikeLower c).margin)

theorem marksLowered (mark : CodePoint) (isMark : mark ∈ marks) (c : CodePoint) : asciiLower c = mark ↔ c = mark :=
  (readsLikeLower c).mark mark isMark

theorem asciiLowerTwice (c : CodePoint) : asciiLower (asciiLower c) = asciiLower c := by
  by_cases ascii : Text.isAscii c = true
  · exact Text.eachAscii c ascii (by decide +kernel)
  · have foreign : Text.isAscii c = false := by simpa using ascii
    rw [asciiLowerOther foreign, asciiLowerOther foreign]

theorem plainDigitLowered (c : CodePoint) : Text.plainDigit (asciiLower c) = asciiLower (Text.plainDigit c) := by
  by_cases ascii : Text.isAscii c = true
  · exact Text.eachAscii c ascii (by decide +kernel)
  · have kept : asciiLower (Text.plainDigit c) = Text.plainDigit c := by
      unfold Text.plainDigit
      cases value : Text.digit? c with
      | none => exact asciiLowerOther (by simpa using ascii)
      | some d =>
        have digits : ∀ d < 10, asciiLower (.ofNat (0x30 + d)) = .ofNat (0x30 + d) := by decide
        exact digits d (Text.digitBound value)
    rw [asciiLowerOther (by simpa using ascii), kept]

def signed : Text → Bool × Text
  | .char '-' :: rest => (true, rest)
  | .char '+' :: rest => (false, rest)
  | rest => (false, rest)

theorem signedLowered (s : Text) : signed (s.map asciiLower) = ((signed s).1, (signed s).2.map asciiLower) := by
  have minus := marksLowered (.char '-') (by decide)
  have plus := marksLowered (.char '+') (by decide)
  fun_cases signed s with
  | case1 rest => rfl
  | case2 rest => rfl
  | case3 _ notMinus notPlus =>
    cases s with
    | nil => rfl
    | cons c rest =>
      have head : asciiLower c ≠ .char '-' ∧ asciiLower c ≠ .char '+' :=
        ⟨fun same => notMinus rest (by rw [(minus c).mp same]), fun same => notPlus rest (by rw [(plus c).mp same])⟩
      simp [signed, head.1, head.2]

theorem denotedLowered {digits : Text} (plain : digits.all isPlainDigit = true) : digits.map asciiLower = digits := by
  refine (List.map_congr_left (fun c member => ?_)).trans (List.map_id digits)
  exact digitKept (List.all_eq_true.mp plain c member)

theorem exponentSigned (c : CodePoint) (rest : Text) : exponent? (c :: rest) =
    if c = .char 'e' ∨ c = .char 'E' then
      if (signed rest).2.isEmpty || !(signed rest).2.all isPlainDigit then none
      else some (if (signed rest).1 then -(denotedPlain (signed rest).2 : Int) else denotedPlain (signed rest).2)
    else none := rfl

theorem exponentLowered (s : Text) : exponent? (s.map asciiLower) = exponent? s := by
  cases s with
  | nil => rfl
  | cons c rest =>
    rw [List.map_cons, exponentSigned, exponentSigned]
    simp only [signedLowered, (readsLikeLower c).exponent, List.isEmpty_map, List.all_map, digitLowered]
    cases plain : (signed rest).2.all isPlainDigit with
    | false => simp
    | true => rw [denotedLowered plain]

theorem joinedOther {c : CodePoint} (other : c ≠ .char '_') (afterDigit : Bool) (rest : Text) :
    joined? afterDigit (c :: rest) = (joined? (isPlainDigit c) rest).map (c :: ·) := by
  rw [joined?]
  · rfl
  · exact fun same _ => other same
  · exact fun _ _ same _ => other same

theorem joinedLowered (afterDigit : Bool) (s : Text) :
    joined? afterDigit (s.map asciiLower) = (joined? afterDigit s).map (List.map asciiLower) := by
  have digits (c : CodePoint) : isPlainDigit (asciiLower c) = isPlainDigit c := congrFun digitLowered c
  fun_induction joined? afterDigit s with
  | case1 => rfl
  | case2 => rfl
  | case3 afterDigit c rest digit ih =>
    have between : (afterDigit && isPlainDigit (asciiLower c)) = true := by rwa [digits]
    show (if afterDigit && isPlainDigit (asciiLower c) then _ else none) = _
    rw [if_pos between, ih]
    cases joined? true rest <;> rfl
  | case4 afterDigit c rest stray =>
    have apart : ¬ (afterDigit && isPlainDigit (asciiLower c)) = true := by rwa [digits]
    exact if_neg apart
  | case5 afterDigit c rest single double ih =>
    have other : c ≠ .char '_' := by
      intro same
      cases rest with
      | nil => exact single same rfl
      | cons next rest => exact double next rest same rfl
    have otherLowered : asciiLower c ≠ .char '_' := mt (marksLowered _ (by decide) c).mp other
    rw [List.map_cons, joinedOther otherLowered, digits, ih]
    cases joined? (isPlainDigit c) rest <;> rfl

def pointed : Text → Text × Text
  | .char '.' :: rest => (rest.takeWhile isPlainDigit, rest.dropWhile isPlainDigit)
  | rest => ([], rest)

theorem frontLowered (s : Text) : (s.map asciiLower).takeWhile isPlainDigit = s.takeWhile isPlainDigit := by
  rw [List.takeWhile_map, digitLowered]
  exact denotedLowered (List.all_eq_true.mpr (fun c member => List.mem_takeWhile_imp member))

theorem behindLowered (s : Text) :
    (s.map asciiLower).dropWhile isPlainDigit = (s.dropWhile isPlainDigit).map asciiLower := by
  rw [List.dropWhile_map, digitLowered]

theorem pointedLowered (s : Text) : pointed (s.map asciiLower) = ((pointed s).1, (pointed s).2.map asciiLower) := by
  fun_cases pointed s with
  | case1 rest => exact Prod.ext (frontLowered rest) (behindLowered rest)
  | case2 _ pointless =>
    cases s with
    | nil => rfl
    | cons c rest =>
      have other : asciiLower c ≠ .char '.' :=
        fun same => pointless rest (by rw [(marksLowered _ (by decide) c).mp same])
      simp [pointed, other]

theorem readDecimalPointed (negative : Bool) (s : Text) : readDecimal? negative s =
    if (s.takeWhile isPlainDigit).isEmpty && (pointed (s.dropWhile isPlainDigit)).1.isEmpty then none
    else (exponent? (pointed (s.dropWhile isPlainDigit)).2).map (fun e => Binary64.ofDecimal negative
      (denotedPlain (s.takeWhile isPlainDigit ++ (pointed (s.dropWhile isPlainDigit)).1))
      (e - (pointed (s.dropWhile isPlainDigit)).1.length)) := rfl

theorem readDecimalLowered (negative : Bool) (s : Text) :
    readDecimal? negative (s.map asciiLower) = readDecimal? negative s := by
  rw [readDecimalPointed, readDecimalPointed, frontLowered, behindLowered, pointedLowered]
  simp only [exponentLowered]

theorem readUnsignedLowered (negative : Bool) (s : Text) :
    readUnsigned? negative (s.map asciiLower) = readUnsigned? negative s := by
  have twice : (s.map asciiLower).map (CodePoint.mapChar Char.toLower) = s.map (CodePoint.mapChar Char.toLower) := by
    rw [List.map_map]
    exact List.map_congr_left (fun c _ => asciiLowerTwice c)
  unfold readUnsigned?
  rw [twice, readDecimalLowered]

def body (s : Text) : Text := ((s.dropWhile isMargin).reverse.dropWhile isMargin).reverse

theorem bodyLowered (s : Text) : body (s.map asciiLower) = (body s).map asciiLower := by
  simp only [body, List.dropWhile_map, ← List.map_reverse, marginLowered]

theorem readRealBody (s : Text) : readReal? s =
    (joined? false ((body s).map Text.plainDigit)).bind (fun t => readUnsigned? (signed t).1 (signed t).2) := by
  unfold readReal?
  refine congrArg (Option.bind _) (funext (fun t => ?_))
  split
  · rfl
  · rfl
  · rename_i minus plus
    rw [signed]
    · exact minus
    · exact plus

theorem readRealLowered (s : Text) : readReal? (s.map asciiLower) = readReal? s := by
  have digits : ((body s).map asciiLower).map Text.plainDigit = ((body s).map Text.plainDigit).map asciiLower := by
    rw [List.map_map, List.map_map]
    exact List.map_congr_left (fun c _ => plainDigitLowered c)
  rw [readRealBody, readRealBody, bodyLowered, digits, joinedLowered]
  cases joined? false ((body s).map Text.plainDigit) with
  | none => rfl
  | some t => simp only [Option.map_some, Option.bind_some, signedLowered, readUnsignedLowered]

theorem digitPlain {c : CodePoint} (digit : isPlainDigit c = true) : Plain c := by
  have ascii : Text.isAscii c = true := by
    simp only [isPlainDigit, CodePoint.between, Bool.and_eq_true, decide_eq_true_eq] at digit
    have most : c.toNat ≤ 0x39 := digit.2
    exact decide_eq_true (by omega)
  refine ⟨ascii, ?_⟩
  rintro rfl
  exact absurd digit (by decide)

theorem signedMem {s : Text} {c : CodePoint} (member : c ∈ s) : Plain c ∨ c ∈ (signed s).2 := by
  fun_cases signed s with
  | case1 rest | case2 rest =>
    rcases List.mem_cons.mp member with rfl | later
    · exact .inl (by decide)
    · exact .inr later
  | case3 => exact .inr member

theorem exponentPlain {s : Text} {e : Int} (read : exponent? s = some e) : ∀ c ∈ s, Plain c := by
  cases s with
  | nil => exact nofun
  | cons c rest =>
    rw [exponentSigned] at read
    split at read
    · rename_i letter
      split at read
      · contradiction
      · rename_i digits
        refine List.forall_mem_cons.mpr ⟨?_, fun x member => ?_⟩
        · rcases letter with rfl | rfl
          · decide
          · decide
        · rcases signedMem member with plain | digit
          · exact plain
          · simp only [Bool.or_eq_true, not_or, Bool.not_eq_true, Bool.not_eq_eq_eq_not] at digits
            exact digitPlain (List.all_eq_true.mp (by simpa using digits.2) x digit)
    · contradiction

theorem pointedMem {s : Text} {c : CodePoint} (member : c ∈ s) : Plain c ∨ c ∈ (pointed s).2 := by
  fun_cases pointed s with
  | case1 rest =>
    rcases List.mem_cons.mp member with rfl | later
    · exact .inl (by decide)
    · exact (Sequence.memDropWhile later).imp_left digitPlain
  | case2 => exact .inr member

theorem readDecimalPlain {negative : Bool} {s : Text} {x : Binary64} (read : readDecimal? negative s = some x) :
    ∀ c ∈ s, Plain c := by
  intro c member
  rw [readDecimalPointed] at read
  split at read
  · contradiction
  · obtain ⟨e, found, _⟩ := Option.map_eq_some_iff.mp read
    rcases Sequence.memDropWhile member with digit | behind
    · exact digitPlain digit
    · rcases pointedMem behind with plain | last
      · exact plain
      · exact exponentPlain found c last

theorem wordPlain {word s : Text} (plain : ∀ c ∈ word, Plain c) (same : s.map asciiLower = word) :
    ∀ c ∈ s, Plain c := by
  intro c member
  exact (readsLikeLower c).plain (plain _ (same ▸ List.mem_map_of_mem member))

theorem readUnsignedPlain {negative : Bool} {s : Text} {x : Binary64} (read : readUnsigned? negative s = some x) :
    ∀ c ∈ s, Plain c := by
  unfold readUnsigned? at read
  dsimp only at read
  split at read
  · rename_i infinity
    rcases infinity with short | long
    · exact wordPlain (by decide) short
    · exact wordPlain (by decide) long
  · split at read
    · rename_i nan
      exact wordPlain (by decide) nan
    · exact readDecimalPlain read

theorem joinedMem {afterDigit : Bool} {s t : Text} (read : joined? afterDigit s = some t) {c : CodePoint}
    (member : c ∈ s) : c = .char '_' ∨ c ∈ t := by
  fun_induction joined? afterDigit s generalizing t with
  | case1 => contradiction
  | case2 | case4 => contradiction
  | case3 afterDigit d rest digit ih =>
    obtain ⟨behind, found, rfl⟩ := Option.map_eq_some_iff.mp read
    simp only [List.mem_cons] at member ⊢
    rcases member with rfl | rfl | later
    · exact .inl rfl
    · exact .inr (.inl rfl)
    · exact (ih found later).imp_right .inr
  | case5 afterDigit d rest single double ih =>
    obtain ⟨behind, found, rfl⟩ := Option.map_eq_some_iff.mp read
    simp only [List.mem_cons] at member ⊢
    rcases member with rfl | later
    · exact .inr (.inl rfl)
    · exact (ih found later).imp_right .inr

theorem bodyMem {s : Text} {c : CodePoint} (member : c ∈ s) : isMargin c = true ∨ c ∈ body s := by
  rcases Sequence.memDropWhile member with margin | front
  · exact .inl margin
  · have behind := Sequence.memDropWhile (p := isMargin) (List.mem_reverse.mpr front)
    exact behind.imp_right List.mem_reverse.mpr

def Legible (c : CodePoint) : Prop := Text.isBlank c = true ∨ Text.isDecimal c = true ∨ Plain c

theorem readRealLegible {s : Text} {x : Binary64} (read : readReal? s = some x) : ∀ c ∈ s, Legible c := by
  intro c member
  rw [readRealBody] at read
  obtain ⟨t, digits, value⟩ := Option.bind_eq_some_iff.mp read
  rcases bodyMem member with margin | inside
  · exact .inl (Bool.and_eq_true_iff.mp margin).1
  · refine .inr ?_
    by_cases decimal : Text.isDecimal c = true
    · exact .inl decimal
    · have kept : Text.plainDigit c = c := by
        have none : Text.digit? c = none := by simpa [Text.isDecimal] using decimal
        simp [Text.plainDigit, none]
      rcases joinedMem digits (List.mem_map.mpr ⟨c, inside, kept⟩) with rfl | listed
      · exact .inr (by decide)
      · rcases signedMem listed with plain | rest
        · exact .inr plain
        · exact .inr (readUnsignedPlain value c rest)

theorem readRealIllegible {s : Text} (illegible : ∃ c ∈ s, ¬ Legible c) : readReal? s = none := by
  cases read : readReal? s with
  | none => rfl
  | some x =>
    obtain ⟨c, member, outside⟩ := illegible
    exact absurd (readRealLegible read c member) outside

theorem lowerFromKept {s : Text} (kept : ∀ c ∈ s, Text.isAscii c = true ∨ Text.Settled c) (inWord : Bool) :
    Text.lowerFrom inWord s = s.map asciiLower := by
  induction s generalizing inWord with
  | nil => rfl
  | cons c rest ih =>
    obtain ⟨here, behind⟩ := List.forall_mem_cons.mp kept
    have lowered : Text.lowerAt inWord c rest = [asciiLower c] := by
      by_cases ascii : Text.isAscii c = true
      · have other : c ≠ .char 'Σ' := by
          rintro rfl
          exact absurd ascii (by decide)
        rw [Text.lowerAt, if_neg other, Text.lowerChar, if_pos ascii]
        rfl
      · rw [Text.settledKept (here.resolve_left ascii), asciiLowerOther (by simpa using ascii)]
    rw [Text.lowerFrom, lowered, ih behind]
    rfl

theorem legibleCase {c : CodePoint} (foreign : Text.isAscii c = false) (legible : Legible c) : Text.Settled c := by
  rcases legible with blank | decimal | plain
  · exact (Text.blankDivider blank).settled
  · exact Text.decimalSettled decimal
  · exact absurd plain.1 (by simp [foreign])

theorem movedIllegible {c : CodePoint} (foreign : Text.isAscii c = false) (moved : ¬ Text.Settled c)
    (inWord : Bool) (rest : Text) : ∃ x ∈ Text.lowerAt inWord c rest, ¬ Legible x := by
  obtain ⟨x, here, outside⟩ := Text.lowerAtForeign foreign moved inWord rest
  have touched : ¬ Text.Untouched x.toNat :=
    fun untouched => moved (Text.lowerAtUntouched untouched here ▸ Text.lowerAtSettled here)
  refine ⟨x, here, fun legible => ?_⟩
  rcases legible with blank | decimal | ⟨ascii, other⟩
  · exact touched (Text.blanksUntouched blank)
  · exact touched (Text.decimalUntouched decimal)
  · exact outside.elim (fun far => by simp [far] at ascii) other

theorem readRealCase (inWord : Bool) (s : Text) : readReal? (Text.lowerFrom inWord s) = readReal? s := by
  by_cases kept : ∀ c ∈ s, Text.isAscii c = true ∨ Text.Settled c
  · rw [lowerFromKept kept, readRealLowered]
  · obtain ⟨c, member, foreign, moved⟩ : ∃ c ∈ s, Text.isAscii c = false ∧ ¬ Text.Settled c := by simpa using kept
    obtain ⟨before, rest, inside⟩ := Text.lowerFromMem member inWord
    obtain ⟨x, here, illegible⟩ := movedIllegible foreign moved before rest
    rw [readRealIllegible ⟨x, inside x here, illegible⟩,
      readRealIllegible ⟨c, member, mt (legibleCase foreign) moved⟩]

theorem wholeMem {s : Text} (whole : isWhole s = true) {c : CodePoint} (member : c ∈ s) :
    c ∈ [.char '-', .char '+'] ∨ Text.isDecimal c = true := by
  obtain ⟨digits, written, _, decimal⟩ := isWholeIff.mp whole
  rcases written with rfl | rfl | rfl
  · exact .inr (decimal c member)
  · rcases List.mem_cons.mp member with rfl | digit
    · exact .inl (by decide)
    · exact .inr (decimal c digit)
  · rcases List.mem_cons.mp member with rfl | digit
    · exact .inl (by decide)
    · exact .inr (decimal c digit)

theorem wholeKept {inWord : Bool} {s : Text} (whole : isWhole s = true ∨ isWhole (Text.lowerFrom inWord s) = true) :
    Text.lowerFrom inWord s = s := by
  have signs : ∀ c ∈ [CodePoint.char '-', .char '+'], Text.Settled c ∧ Text.Untouched c.toNat := by
    unfold Text.Settled
    decide +kernel
  rcases whole with own | lowered
  · refine Text.settledLower (fun c member => ?_) inWord
    exact (wholeMem own member).elim (fun sign => (signs c sign).1) Text.decimalSettled
  · refine Text.lowerFromOwn (fun c member => ?_)
    exact (wholeMem lowered member).elim (fun sign => (signs c sign).2) Text.decimalUntouched

theorem isWholeCase (inWord : Bool) (s : Text) : isWhole (Text.lowerFrom inWord s) = isWhole s := by
  rw [Bool.eq_iff_iff]
  constructor
  · intro whole
    rwa [wholeKept (.inr whole)] at whole
  · intro whole
    rwa [wholeKept (.inl whole)]

end CollectionSearch.Number
