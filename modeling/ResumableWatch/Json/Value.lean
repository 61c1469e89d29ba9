import ResumableWatch.Number.Double
/-!
# JSON values

The one dynamic type of the library: what a body line of a watch response holds.  The members of an
object keep the order of their first occurrence, and a name that occurs again replaces the value in
its place.
-/

namespace ResumableWatch

/-- A JSON value; whole numbers and fractional ones are kept apart. -/
inductive Json where
  | null
  | bool (value : Bool)
  | int (value : Int)
  | double (value : Double)
  | text (value : String)
  | array (elements : List Json)
  | object (members : List (String × Json))

namespace Json

instance : Inhabited Json := ⟨.null⟩

/-- Puts a member in the place of the member of that name, or last. -/
def putMember (name : String) (value : Json) : List (String × Json) → List (String × Json)
  | [] => [(name, value)]
  | (other, old) :: rest =>
    if other = name then (name, value) :: rest else (other, old) :: putMember name value rest

/-- The members that a series of written members comes to. -/
def ofWritten (written : List (String × Json)) : List (String × Json) :=
  written.foldl (fun members (name, value) => putMember name value members) []

/-- The value of the member of that name. -/
def member? (name : String) (members : List (String × Json)) : Option Json := members.lookup name

theorem member?_putMember_self (name : String) (value : Json) (members : List (String × Json)) :
    member? name (putMember name value members) = some value := by
  induction members with
  | nil => simp [putMember, member?]
  | cons first rest ih =>
    obtain ⟨other, old⟩ := first
    by_cases h : other = name
    · simp [putMember, member?, h]
    · have h' : (name == other) = false := by simpa using Ne.symm h
      simpa [putMember, member?, List.lookup_cons, h, h'] using ih

theorem member?_putMember_of_ne {name other : String} (h : other ≠ name) (value : Json)
    (members : List (String × Json)) :
    member? other (putMember name value members) = member? other members := by
  have h' : (other == name) = false := by simpa using h
  induction members with
  | nil => simp [putMember, member?, List.lookup_cons, h']
  | cons first rest ih =>
    obtain ⟨third, old⟩ := first
    by_cases ht : third = name
    · subst ht
      simp [putMember, member?, List.lookup_cons, h']
    · by_cases hs : other == third
      · simp [putMember, member?, List.lookup_cons, ht, hs]
      · simpa [putMember, member?, List.lookup_cons, ht, hs] using ih

/-- The members of an object. -/
def members? : Json → Option (List (String × Json))
  | .object members => some members
  | _ => none

/-- The values that count as nothing: null, false, the zeros, and all that is empty. -/
def isVacant : Json → Bool
  | .null => true
  | .bool b => !b
  | .int n => n == 0
  | .double d => d.isZero
  | .text s => s.isEmpty
  | .array elements => elements.isEmpty
  | .object members => members.isEmpty

/-- What kind of value it is, as messages name it. -/
def typeName : Json → String
  | .null => "NoneType"
  | .bool _ => "bool"
  | .int _ => "int"
  | .double _ => "float"
  | .text _ => "str"
  | .array _ => "list"
  | .object _ => "dict"

end Json

end ResumableWatch
