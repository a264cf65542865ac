import SnippetLanguage.Schema.Fault

/-!
# Objects with texts

The declaration of an object that a client sends: its fields are texts, each of them required or optional, and perhaps of
a limited length. `readFields` says which texts an object gives to the fields, or everything that is wrong with it.
-/

namespace SnippetLanguage.Schema

/-- The declaration of a field. -/
structure Field where
  name : String
  required : Bool
  /-- how many characters the text may have, if that is limited -/
  maxLength : Option Nat := none

namespace Field

/-- What is wrong with a text for a field. Where the length is limited the text must consist of characters. -/
def faultOf? (f : Field) (s : WideText) : Option Fault :=
  match f.maxLength with
  | none => none
  | some limit => if s.hasHalf then some .notCharacters else if limit < s.length then some (.textTooLong limit) else none

/-- Reads the field of an object. An optional field may be null or left out. -/
def read (f : Field) (members : List (WideText × Json)) : Except Error (Option WideText) :=
  match members.lookup (f.name : WideText) with
  | none => if f.required then .error ⟨[.name f.name], .missing, .object members⟩ else .ok none
  | some .null => if f.required then .error ⟨[.name f.name], .notText, .null⟩ else .ok none
  | some (.text s) =>
    match f.faultOf? s with
    | some fault => .error ⟨[.name f.name], fault, .text s⟩
    | none => .ok (some s)
  | some v => .error ⟨[.name f.name], .notText, v⟩

end Field

/-- What the fields of an object are, or everything that is wrong with them. -/
def readFields (members : List (WideText × Json)) : List Field → Except (List Error) (List (Option WideText))
  | [] => .ok []
  | f :: fs =>
    match f.read members, readFields members fs with
    | .ok a, .ok as => .ok (a :: as)
    | .ok _, .error es => .error es
    | .error e, .ok _ => .error [e]
    | .error e, .error es => .error (e :: es)

/-- What the fields are of the object that a value is, as the body of a request. -/
def readBody (fields : List Field) : Json → Except (List Error) (List (Option WideText))
  | .object members => (readFields members fields).mapError (·.map (·.within (.name "body")))
  | v => .error [⟨[.name "body"], .noFields, v⟩]

end SnippetLanguage.Schema
