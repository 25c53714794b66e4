import CollectionSearch.Text.Basic

/-!
Text in UTF-8, read one byte at a time. A byte is refused as soon as nothing that may follow makes the bytes
up to it text; only a surrogate is refused no earlier than at its third byte.
-/
namespace CollectionSearch.Utf8

def size : Text → Nat
  | [] => 0
  | c :: rest => c.byteSize + size rest

structure Unfinished where
  bits : Nat
  further : Nat
  least : Nat
  greatest : Nat
  deriving DecidableEq, Repr

inductive Progress where
  | character (c : Char)
  | unfinished (character : Unfinished)
  | refused
  deriving DecidableEq, Repr

/-- What the first byte of a character comes to. Bounds on the second byte keep out characters that have a
shorter form and numbers beyond the last character. -/
def first (byte : Nat) : Progress :=
  if byte < 0x80 then .character (Char.ofNat byte)
  else if byte < 0xC2 then .refused
  else if byte < 0xE0 then .unfinished ⟨byte - 0xC0, 0, 0x80, 0xBF⟩
  else if byte = 0xE0 then .unfinished ⟨0, 1, 0xA0, 0xBF⟩
  else if byte < 0xF0 then .unfinished ⟨byte - 0xE0, 1, 0x80, 0xBF⟩
  else if byte = 0xF0 then .unfinished ⟨0, 2, 0x90, 0xBF⟩
  else if byte < 0xF4 then .unfinished ⟨byte - 0xF0, 2, 0x80, 0xBF⟩
  else if byte = 0xF4 then .unfinished ⟨4, 2, 0x80, 0x8F⟩
  else .refused

def Unfinished.next (character : Unfinished) (byte : Nat) : Progress :=
  if byte < character.least || character.greatest < byte then .refused
  else
    let bits := character.bits * 0x40 + (byte - 0x80)
    match character.further with
    | 0 => if bits.isValidChar then .character (Char.ofNat bits) else .refused
    | further + 1 => .unfinished ⟨bits, further, 0x80, 0xBF⟩

def step : Option Unfinished → UInt8 → Progress
  | none, byte => first byte.toNat
  | some character, byte => character.next byte.toNat

def text (state : Option Unfinished) : List UInt8 → Text
  | [] => []
  | byte :: rest =>
    match step state byte with
    | .character c => .char c :: text none rest
    | .unfinished character => text (some character) rest
    | .refused => []

def taken (state : Option Unfinished) : List UInt8 → Nat
  | [] => 0
  | byte :: rest =>
    match step state byte with
    | .character _ => taken none rest + 1
    | .unfinished character => taken (some character) rest + 1
    | .refused => 0

def begun (state : Option Unfinished) (count : Nat) : List UInt8 → Nat
  | [] => count
  | byte :: rest =>
    match step state byte with
    | .character _ => begun none 0 rest
    | .unfinished character => begun (some character) (count + 1) rest
    | .refused => count

structure Refusal where
  position : Nat
  bytes : List UInt8
  reason : Text
  deriving DecidableEq, Repr

def blockSize : Nat := 8192

def soundBlocks (bytes : List UInt8) : List UInt8 :=
  let sound := taken none bytes
  if sound = bytes.length then bytes else bytes.take (sound - sound % blockSize)

def isHalf : List UInt8 → Bool
  | [first, second] => first == 0xED && 0xA0 ≤ second
  | _ => false

/-- Why bytes are no text. A character that goes on from one block to the next is counted with the next; of a surrogate
only the first byte is named. -/
def refusal (bytes : List UInt8) : Refusal :=
  let stop := taken none bytes
  let count := begun none 0 bytes
  let start := stop - count
  let before := soundBlocks bytes
  let position := start - (before.length - begun none 0 before)
  let found := (bytes.drop start).take (max count 1)
  if count = 0 then ⟨position, found, "invalid start byte".toText⟩
  else if isHalf found then ⟨position, found.take 1, "invalid continuation byte".toText⟩
  else if stop = bytes.length then ⟨position, found, "unexpected end of data".toText⟩
  else ⟨position, found, "invalid continuation byte".toText⟩

example : (text none [0x61, 0xC3, 0xA9, 0xF0, 0x9F, 0x98], taken none [0xED, 0xA0, 0x80]) = ("aé".toText, 2) := by
  decide +kernel

end CollectionSearch.Utf8
