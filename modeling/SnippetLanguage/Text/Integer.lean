/-!
# Integers as texts

The interpreter may limit how many digits it writes of an integer; beyond the limit there is no text, but an error. The
usual limit is `usualDigits`; without a limit every integer has a text (`decimal?`).
-/

namespace SnippetLanguage.Text

/-- How many digits of an integer are written, if nobody has changed it. -/
def usualDigits : Nat := 4300

/-- Whether an integer can be written if at most `digits` digits are written. -/
def isWritten (digits : Option Nat) (n : Int) : Bool :=
  match digits with
  | some d => n.natAbs < Nat.pow 10 d
  | none => true

/-- The text of an integer, if it can be written. -/
def decimal? (digits : Option Nat) (n : Int) : Option String := if isWritten digits n then some (toString n) else none

/-- What the interpreter says of an integer that it does not write. -/
def tooManyDigits (digits : Nat) : String :=
  "Exceeds the limit (" ++ toString digits ++
    " digits) for integer string conversion; use sys.set_int_max_str_digits() to increase the limit"

/-- What is said of an integer that cannot be written. -/
def unwrittenMessage (digits : Option Nat) : String := tooManyDigits (digits.getD usualDigits)

variable {digits : Option Nat} {n : Int}

theorem decimal?_of_isWritten (h : isWritten digits n = true) : decimal? digits n = some (toString n) := if_pos h

theorem decimal?_of_not_isWritten (h : isWritten digits n = false) : decimal? digits n = none := by
  rw [decimal?, h]
  rfl

end SnippetLanguage.Text
