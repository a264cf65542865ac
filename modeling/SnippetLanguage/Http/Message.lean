import SnippetLanguage.Json.Writer

/-!
# Requests and responses

A request is a head and a body of bytes; the path of the head is decoded already. A response has a body that is JSON, a
text, a page of the framework or nothing. Header names are compared without regard to case; those of a response are kept in
lower case.

* `values_setHeader_self`: a header that is set is there once, with the value that it was given.
-/

namespace SnippetLanguage.Http

/-- What a client sends before the body. -/
structure Head where
  method : String
  /-- the decoded path -/
  path : List Char
  query : String := ""
  headers : List (String × String) := []
  /-- the address of the client, if it is known -/
  client : Option String := none

namespace Head

/-- A header name in lower case; header names are ASCII. -/
def foldName (name : String) : String := String.ofList (name.toList.map Char.toLower)

/-- The first header of a name, which is given in lower case. -/
def header? (head : Head) (name : String) : Option String :=
  (head.headers.find? fun h => foldName h.1 == name).map Prod.snd

end Head

/-- What a client sends. -/
structure Request extends Head where
  body : List UInt8 := []

/-- The body of a response. -/
inductive Body where
  | json (v : Json)
  | text (s : String)
  /-- a page that the framework makes of what is declared to it; what it says is left out -/
  | page (name : String)
  | nothing

/-- What the server answers. The body is kept as it is before it is compressed. -/
structure Response where
  status : Nat
  headers : List (String × String) := []
  body : Body

namespace Response

/-- Sets a header: in place of the first one of the name, the others of which are dropped, and at the end if there is
none. -/
def setIn (headers : List (String × String)) (name value : String) : List (String × String) :=
  match headers with
  | [] => [(name, value)]
  | h :: hs => if h.1 == name then (name, value) :: hs.filter (fun h => !(h.1 == name)) else h :: setIn hs name value

/-- Sets a header. -/
def setHeader (r : Response) (name value : String) : Response := { r with headers := setIn r.headers name value }

/-- The first header of a name. -/
def header? (r : Response) (name : String) : Option String := r.headers.lookup name

/-- All values of a header. -/
def values (r : Response) (name : String) : List String := (r.headers.filter fun h => h.1 == name).map Prod.snd

/-- Adds a header name to those on which the response depends. -/
def vary (r : Response) (name : String) : Response :=
  match r.header? "vary" with
  | some v => r.setHeader "vary" (v ++ ", " ++ name)
  | none => r.setHeader "vary" name

/-- A JSON response. -/
def json (status : Nat) (v : Json) : Response := ⟨status, [("content-type", "application/json")], .json v⟩

variable (r : Response) (name value : String)

@[simp] theorem status_setHeader : (r.setHeader name value).status = r.status := rfl

@[simp] theorem body_setHeader : (r.setHeader name value).body = r.body := rfl

@[simp] theorem body_json (status : Nat) (v : Json) : (json status v).body = .json v := rfl

@[simp] theorem status_vary : (r.vary name).status = r.status := by
  unfold vary
  split <;> rfl

@[simp] theorem body_vary : (r.vary name).body = r.body := by
  unfold vary
  split <;> rfl

theorem filter_setIn (headers : List (String × String)) (name value : String) :
    (setIn headers name value).filter (fun h => h.1 == name) = [(name, value)] := by
  induction headers with
  | nil => simp [setIn]
  | cons h hs ih => by_cases hname : h.1 = name <;> simp [setIn, hname, ih]

/-- A header that is set is there once. -/
theorem values_setHeader_self : (r.setHeader name value).values name = [value] := by
  simp only [values, setHeader, filter_setIn, List.map_cons, List.map_nil]

end Response

end SnippetLanguage.Http
