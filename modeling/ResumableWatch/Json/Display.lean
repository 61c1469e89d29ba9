import ResumableWatch.Json.Value
import ResumableWatch.Number.Shortest
import ResumableWatch.Text.Quoted
/-!
# Values in messages

How a message shows a value: text stands bare when it is the whole value (`display`) and in quotes
inside a container or where the message quotes the value (`quote`).
-/

namespace ResumableWatch.Json

open Text

mutual

/-- A value as a message quotes it. -/
def quote : Json → String
  | .null => "None"
  | .bool true => "True"
  | .bool false => "False"
  | .int n => toString n
  | .double d => d.text
  | .text s => quoted s
  | .array elements => "[" ++ ", ".intercalate (quoteAll elements) ++ "]"
  | .object members => "\x7b" ++ ", ".intercalate (quoteMembers members) ++ "\x7d"

/-- Each element as a message quotes it. -/
def quoteAll : List Json → List String
  | [] => []
  | v :: rest => quote v :: quoteAll rest

/-- Each member as a message quotes it. -/
def quoteMembers : List (String × Json) → List String
  | [] => []
  | (name, v) :: rest => (quoted name ++ ": " ++ quote v) :: quoteMembers rest

end

/-- A value as the text it stands for. -/
def display : Json → String
  | .text s => s
  | v => quote v

end ResumableWatch.Json
