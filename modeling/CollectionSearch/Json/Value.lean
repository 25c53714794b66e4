import CollectionSearch.Number.Basic
import CollectionSearch.Text.Quoted

/-!
Values of the data format, and their display where text is wanted: text stands as it is, and quoted inside arrays and
objects. An object is a list of members with distinct keys, in the order in which the keys first came.
-/
namespace CollectionSearch

inductive Json where
  | null
  | flag (value : Bool)
  | number (value : Number)
  | text (value : Text)
  | array (items : List Json)
  | object (members : List (Text × Json))

namespace Json

abbrev Members := List (Text × Json)

def Members.put (key : Text) (value : Json) : Members → Members
  | [] => [(key, value)]
  | (k, v) :: rest => if k = key then (key, value) :: rest else (k, v) :: Members.put key value rest

def isPresent : Json → Bool
  | .null => false
  | .flag value => value
  | .number (.whole n) => n != 0
  | .number (.real (.finite _ quanta)) => quanta != 0
  | .number (.real _) => true
  | .text value => !value.isEmpty
  | .array items => !items.isEmpty
  | .object members => !members.isEmpty

def typeName : Json → Text
  | .null => "NoneType".toText
  | .flag _ => "bool".toText
  | .number (.whole _) => "int".toText
  | .number (.real _) => "float".toText
  | .text _ => "str".toText
  | .array _ => "list".toText
  | .object _ => "dict".toText

end Json

def Number.text : Number → Text
  | .whole n => Text.ofInt n
  | .real x => x.text

def flagText (value : Bool) : Text := if value then "True".toText else "False".toText

namespace Json

mutual

def nested : Json → Text
  | .null => "None".toText
  | .flag value => flagText value
  | .number value => value.text
  | .text value => Text.quoted value
  | .array items => .char '[' :: nestedItems items ++ [.char ']']
  | .object members => .char '\x7b' :: nestedMembers members ++ [.char '\x7d']

def nestedItems : List Json → Text
  | [] => []
  | [item] => nested item
  | item :: rest => nested item ++ ", ".toText ++ nestedItems rest

def nestedMembers : List (Text × Json) → Text
  | [] => []
  | [(key, value)] => Text.quoted key ++ ": ".toText ++ nested value
  | (key, value) :: rest => Text.quoted key ++ ": ".toText ++ nested value ++ ", ".toText ++ nestedMembers rest

end

def display : Json → Text
  | .text value => value
  | value => nested value

@[simp] theorem displayText (value : Text) : display (.text value) = value := rfl

end Json
end CollectionSearch
