import CollectionSearch.Json.Value
import CollectionSearch.Text.Case
import CollectionSearch.Text.Utf8

/-!
The ways in which a request can fail, by cause, and the message of each.
-/
namespace CollectionSearch

inductive Fault where
  | oversizedNumeral (digits : Nat)
  | notWhole (text : Text)
  | notReal (text : Text)
  | realOfCollection (value : Json)
  | wholeTooLarge
  | quotientTooLarge
  | refusedRating (message : Text)
  | incomparable (comparator : Text) (left : Number) (right : Text)
  | unknownComparator (symbol : Text)
  | noAlternatives
  | unsupportedEntity (value : Json)
  | notAnObject
  | unknownMediaKind (name : Text)
  | unknownStatus (name : Text)
  | missingField (name : Text)
  | nestedTooDeeply (inArray : Bool)
  | undecodable (refusal : Utf8.Refusal)
  | missingDirectory (path : Text)
  | missingFile (label path : Text)
  | isDirectory (path : Text)
  | nameTooLong (path : Text)
  | refusedLevel (message : Text)

namespace Fault

def digitLimit : Nat := 4300

def refused (refusal : Utf8.Refusal) : Text :=
  match refusal.bytes with
  | [byte] => "byte 0x".toText ++ Text.hex 2 byte.toNat ++ " in position ".toText ++ Text.ofNat refusal.position
  | bytes =>
    "bytes in position ".toText ++ Text.ofNat refusal.position ++ "-".toText ++
      Text.ofNat (refusal.position + bytes.length - 1)

def message : Fault → Text
  | .oversizedNumeral digits =>
    "Exceeds the limit (".toText ++ Text.ofNat digitLimit ++
      " digits) for integer string conversion: value has ".toText ++ Text.ofNat digits ++
      " digits; use sys.set_int_max_str_digits() to increase the limit".toText
  | .notWhole text => "invalid literal for int() with base 10: ".toText ++ (Text.quoted text).take 200
  | .notReal text => "could not convert string to float: ".toText ++ Text.quoted text
  | .realOfCollection value =>
    "float() argument must be a string or a real number, not ".toText ++ Text.quoted value.typeName
  | .wholeTooLarge => "int too large to convert to float".toText
  | .quotientTooLarge => "integer division result too large for a float".toText
  | .refusedRating message => message
  | .incomparable comparator left _ =>
    Text.quoted comparator ++ " not supported between instances of ".toText ++
      Text.quoted (Json.number left).typeName ++ " and ".toText ++ Text.quoted (Json.text []).typeName
  | .unknownComparator symbol => Text.quoted symbol
  | .noAlternatives => "max() arg is an empty sequence".toText
  | .unsupportedEntity value => "Unsupported entity variant: ".toText ++ value.typeName
  | .notAnObject => "record is not a JSON object".toText
  | .unknownMediaKind name => "unknown media type ".toText ++ Text.quoted name
  | .unknownStatus name => "unknown media status ".toText ++ Text.quoted name
  | .missingField name => "missing ".toText ++ name
  | .nestedTooDeeply inArray =>
    "maximum recursion depth exceeded while decoding a JSON ".toText ++
      (if inArray then "array".toText else "object".toText) ++ " from a unicode string".toText
  | .undecodable refusal =>
    "'utf-8' codec can't decode ".toText ++ refused refusal ++ ": ".toText ++ refusal.reason
  | .missingDirectory path => "Snapshot directory not found: ".toText ++ path
  | .missingFile label path => Text.title label ++ " data file not found: ".toText ++ path
  | .isDirectory path => "[Errno 21] Is a directory: ".toText ++ Text.quoted path
  | .nameTooLong path => "[Errno 36] File name too long: ".toText ++ Text.quoted path
  | .refusedLevel message => message

def spoilsRecord : Fault → Bool
  | .oversizedNumeral _ | .notWhole _ | .notReal _ | .realOfCollection _ => true
  | .notAnObject | .unknownMediaKind _ | .unknownStatus _ | .missingField _ => true
  | _ => false

end Fault
end CollectionSearch
