import JarLens.Report.Json
import JarLens.Text.Quoted

/-!
# Values in messages

How a value stands in a message. A text on its own is written as it is; within another value it is
quoted. Truth values are capitalized, and `None` stands for null.
-/

namespace JarLens.Json

/-- A value that has no parts, with texts quoted. -/
def literalScalar : Json → Text
  | null => "None".toList
  | bool true => "True".toList
  | bool false => "False".toList
  | number n => Text.ofInt n
  | fraction x => x.written "inf" "nan"
  | text t => Text.quoted t
  | _ => []

mutual

/-- A value with its texts quoted. -/
def literal : Json → Text
  | array items => '[' :: Text.join [',', ' '] (literalItems items) ++ [']']
  | object fields => '\x7b' :: Text.join [',', ' '] (literalFields fields) ++ ['\x7d']
  | value => literalScalar value

/-- The items of an array with their texts quoted. -/
def literalItems : List Json → List Text
  | [] => []
  | item :: items => literal item :: literalItems items

/-- The fields of an object with their texts quoted. -/
def literalFields : List (Text × Json) → List Text
  | [] => []
  | (name, value) :: fields =>
    (Text.quoted name ++ ':' :: ' ' :: literal value) :: literalFields fields

end

/-- A value as it stands in a message. -/
def shown : Json → Text
  | text t => t
  | value => literal value

/-- The values that a message consists of: a single one as it is, several in brackets. -/
def shownAll : List Json → Text
  | [] => []
  | [value] => shown value
  | values => '(' :: Text.join [',', ' '] (values.map literal) ++ [')']

end JarLens.Json
