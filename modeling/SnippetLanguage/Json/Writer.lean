import SnippetLanguage.Json.Basic
import SnippetLanguage.Text.Quoted

/-!
# Writing JSON

`written` writes a value without blanks and keeps all code points but quotes, backslashes and controls as they are.
`render` does the same, but writes halves of surrogate pairs as escapes, so that a text results for every value.
`display` is the form in which a value appears in a log line.
-/

namespace SnippetLanguage.Json

/-- How one character is written inside a JSON text. -/
def escapeChar (c : Char) : List Char :=
  if c == '"' || c == '\\' then ['\\', c]
  else if c == '\n' then ['\\', 'n']
  else if c == '\r' then ['\\', 'r']
  else if c == '\t' then ['\\', 't']
  else if c == '\x08' then ['\\', 'b']
  else if c == '\x0c' then ['\\', 'f']
  else if c.toNat < 0x20 then '\\' :: 'u' :: Text.hexDigits 4 c.toNat
  else [c]

/-- A JSON text with its quotes. -/
def quote (s : WideText) : WideText :=
  (("\"" : String) : WideText) ++ ⟨s.points.flatMap fun
    | .char c => (escapeChar c).map .char
    | .half h => [.half h]⟩ ++ (("\"" : String) : WideText)

/-- Wide texts with a text between each two of them. -/
def join (separator : String) : List WideText → WideText
  | [] => ""
  | [w] => w
  | w :: ws => w ++ separator ++ join separator ws

mutual

/-- A value, written without blanks. -/
def written : Json → WideText
  | null => "null"
  | bool b => if b then "true" else "false"
  | int n => toString n
  | decimal x => x.text
  | notFinite word => word
  | text s => quote s
  | array items => ("[" : WideText) ++ join "," (writtenItems items) ++ "]"
  | object members => ("\x7b" : WideText) ++ join "," (writtenMembers members) ++ "\x7d"

/-- The items of an array, written one by one. -/
def writtenItems : List Json → List WideText
  | [] => []
  | v :: vs => v.written :: writtenItems vs

/-- The members of an object, written one by one. -/
def writtenMembers : List (WideText × Json) → List WideText
  | [] => []
  | m :: ms => (quote m.1 ++ ":" ++ m.2.written) :: writtenMembers ms

end

/-- A value, written without blanks and with escapes for halves of surrogate pairs. -/
def render (v : Json) : String :=
  String.ofList <| v.written.points.flatMap fun
    | .char c => [c]
    | .half h => '\\' :: 'u' :: Text.hexDigits 4 h.unit

mutual

/-- A value as a log line shows it. -/
def display : Json → String
  | null => "None"
  | bool b => if b then "True" else "False"
  | int n => toString n
  | decimal x => x.text
  | notFinite "NaN" => "nan"
  | notFinite "Infinity" => "inf"
  | notFinite _ => "-inf"
  | text s => Text.quotedWide s
  | array items => "[" ++ String.intercalate ", " (displayItems items) ++ "]"
  | object members => "\x7b" ++ String.intercalate ", " (displayMembers members) ++ "\x7d"

/-- The items of an array as a log line shows them. -/
def displayItems : List Json → List String
  | [] => []
  | v :: vs => v.display :: displayItems vs

/-- The members of an object as a log line shows them. -/
def displayMembers : List (WideText × Json) → List String
  | [] => []
  | m :: ms => (Text.quotedWide m.1 ++ ": " ++ m.2.display) :: displayMembers ms

end

end SnippetLanguage.Json
