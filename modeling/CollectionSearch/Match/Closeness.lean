import CollectionSearch.Text.Case

/-!
Closeness of a term to a text, from 0 to 100. Case and outer blanks do not count. Equal texts, a start, a
part in one piece, a part with gaps and a beginning with gaps follow each other in this order; gaps cost
less where characters stand together or after an edge.
-/
namespace CollectionSearch.Closeness

def exact : Nat := 100
def atStart : Nat := 95
def inside : Nat := 85

def isEdge (c : CodePoint) : Bool := c = .char ' ' || c = .char '-' || c = .char ':'

def afterEdge : Option CodePoint → Bool
  | none => true
  | some c => isEdge c

structure Trail where
  matched : Nat
  merit : Nat
  deriving DecidableEq, Repr

/-- Walks through the text once and takes each character of the term where it first can. `before` is the
character before, `adjacent` says whether that was taken. -/
def trail (before : Option CodePoint) (adjacent : Bool) : (term text : Text) → Trail
  | [], _ => ⟨0, 0⟩
  | _ :: _, [] => ⟨0, 0⟩
  | q :: term, t :: text =>
    if t = q then
      let rest := trail (some t) true term text
      ⟨rest.matched + 1,
        rest.merit + (if adjacent then 5 else 0) + (if afterEdge before then 10 else 0)⟩
    else trail (some t) false (q :: term) text

def gapped (merit excess : Nat) : Nat := min 160 (120 + 2 * merit - min 40 excess) / 2

theorem gappedBand (merit excess : Nat) : 40 ≤ gapped merit excess ∧ gapped merit excess ≤ 80 := by
  unfold gapped
  omega

def beginning (matched length : Nat) : Nat := if length < 2 * matched then 30 * matched / length else 0

def between (term text : Text) : Nat :=
  if text = term then exact
  else if term.isPrefixOf text then atStart
  else if Text.occursIn term text then inside
  else
    let found := trail none false term text
    if found.matched = term.length then gapped found.merit (text.length - term.length)
    else beginning found.matched term.length

def score (term text : Text) : Nat :=
  if Text.isBlankOnly term then exact
  else if text.isEmpty then 0
  else between (Text.fold (Text.trim term)) (Text.fold (Text.trim text))

def best (term : Text) (texts : List Text) : Nat :=
  ((texts.filter (!·.isEmpty)).map (score term)).foldl max 0

def defaultThreshold : Int := 20

def select {α : Type} (text : α → Text) (term : Text) (threshold : Int) (items : List α) : List (α × Nat) :=
  if Text.isBlankOnly term then items.map (·, exact)
  else
    let scored := items.map (fun item => (item, score term (text item)))
    (scored.filter (fun entry => threshold ≤ entry.2)).mergeSort (fun a b => b.2 ≤ a.2)

end CollectionSearch.Closeness
