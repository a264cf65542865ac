import SnippetLanguage.Decimal
import SnippetLanguage.Text.CodePoint
import SnippetLanguage.Text.Integer

/-!
# JSON values

A JSON value as a program holds it. Not all that a program may hold can be sent: there is no way to send a number that is
not finite, half of a surrogate pair or an integer with more digits than are written (`writable`).

* `lookup_setMember_self`, `lookup_setMember_of_ne`: a member that is set is found, and the others stay as they were.
-/

namespace SnippetLanguage

/-- A JSON value. -/
inductive Json where
  | null
  | bool (b : Bool)
  | int (n : Int)
  /-- a number that is written with a fraction or an exponent -/
  | decimal (x : Decimal)
  /-- a number that is not finite, by its word -/
  | notFinite (word : String)
  | text (s : WideText)
  | array (items : List Json)
  | object (members : List (WideText × Json))

namespace Json

/-- Sets a member: in its place if there is one of the name, and at the end if there is none. -/
def setMember (members : List (WideText × Json)) (name : WideText) (value : Json) : List (WideText × Json) :=
  match members with
  | [] => [(name, value)]
  | m :: ms => if m.1 == name then (name, value) :: ms else m :: setMember ms name value

theorem lookup_setMember_self (members : List (WideText × Json)) (name : WideText) (value : Json) :
    (setMember members name value).lookup name = some value := by
  induction members with
  | nil => simp [setMember]
  | cons m ms ih =>
    obtain ⟨a, v⟩ := m
    by_cases h : a = name
    · simp [setMember, h]
    · have hn : (name == a) = false := beq_false_of_ne (Ne.symm h)
      simpa [setMember, h, List.lookup_cons, hn] using ih

theorem lookup_setMember_of_ne (members : List (WideText × Json)) {name other : WideText} (value : Json)
    (h : other ≠ name) : (setMember members name value).lookup other = members.lookup other := by
  have ho : (other == name) = false := beq_false_of_ne h
  induction members with
  | nil => simp [setMember, List.lookup_cons, ho]
  | cons m ms ih =>
    obtain ⟨a, v⟩ := m
    by_cases ha : a = name
    · subst ha
      simp [setMember, List.lookup_cons, ho]
    · simp only [setMember, beq_iff_eq, ha, if_false, List.lookup_cons, ih]

mutual

/-- Whether a value can be sent. -/
def writable : Json → Bool
  | int n => Text.isWritten (some Text.usualDigits) n
  | notFinite _ => false
  | text s => !s.hasHalf
  | array items => writableItems items
  | object members => writableMembers members
  | _ => true

/-- Whether all items can be sent. -/
def writableItems : List Json → Bool
  | [] => true
  | v :: vs => v.writable && writableItems vs

/-- Whether the names and the values of all members can be sent. -/
def writableMembers : List (WideText × Json) → Bool
  | [] => true
  | m :: ms => !m.1.hasHalf && m.2.writable && writableMembers ms

end

mutual

/-- How many arrays and objects are nested in a value. -/
def depth : Json → Nat
  | array items => depthItems items + 1
  | object members => depthMembers members + 1
  | _ => 0

/-- How many arrays and objects are nested in one of the items. -/
def depthItems : List Json → Nat
  | [] => 0
  | v :: vs => max v.depth (depthItems vs)

/-- How many arrays and objects are nested in the value of one of the members. -/
def depthMembers : List (WideText × Json) → Nat
  | [] => 0
  | m :: ms => max m.2.depth (depthMembers ms)

end

end Json

end SnippetLanguage
