import SnippetLanguage.Rule.Basic

/-!
# Rules for scripting and query languages

Python, SQL and the shell. All letters are compared in any case.
-/

namespace SnippetLanguage.Rule

open Pattern

/-- A line that is a comment and names Python. -/
def pythonComment : Pattern :=
  inOrder [lineStart, star (one .blankInLine), text "#", star (one .inLine), text "python"]

/-- Definitions, imports, the main guard, printing and comments that name the language. -/
def python : Rule where
  name := "python"
  priority := 7
  signatures := [
    inOrder [text "def", gap, ident, blanks, text "("],
    inOrder [text "from", gap, ident, gap, text "import"],
    inOrder [text "import", gap, ident],
    inOrder [text "if", gap, text "__name__", blanks, text "==", blanks, one .quote, text "__main__", one .quote],
    inOrder [text "print", blanks, text "("],
    inOrder [text "elif", gap],
    pythonComment]
  exclusions := [inOrder [text "public", gap, text "class"]]

/-- A query: `SELECT`, what is selected, and `FROM`. All but the gaps at both ends is on one line, on which `SELECT` does
not start again. -/
def selectFrom : Pattern :=
  inOrder [text "SELECT", gap, one .visible,
    opt (seq (lineUntil (inOrder [text "SELECT", one .blank])) (one .visible)), gap, text "FROM"]

/-- Queries, changes of rows and tables, joins, grouping and ordering. -/
def sql : Rule where
  name := "sql"
  priority := 7
  signatures := [
    selectFrom,
    inOrder [text "INSERT", gap, text "INTO"],
    inOrder [text "UPDATE", gap, ident, gap, text "SET"],
    inOrder [text "DELETE", gap, text "FROM"],
    inOrder [text "CREATE", gap, text "TABLE"],
    inOrder [text "ALTER", gap, text "TABLE"],
    inOrder [text "DROP", gap, text "TABLE"],
    inOrder [text "JOIN", gap, ident, gap, text "ON"],
    inOrder [text "GROUP", gap, text "BY"],
    inOrder [text "ORDER", gap, text "BY"]]

/-- The line that names the interpreter, first in the text. -/
def interpreterLine : Pattern := inOrder [textStart, blanks, text "#!"]

/-- A condition between brackets and the semicolon after it. What is inside is on one line, on which no other condition
starts. -/
def bracketCondition : Pattern :=
  inOrder [text "if", gap, text "[", one .blank,
    opt (inOrder [blanks, one .visible,
      opt (seq (lineUntil (inOrder [wordEdge, text "if", gap, text "["])) (one .visible))]),
    gap, text "]", blanks, text ";"]

/-- The interpreter line, printing, exported variables, substituted commands and bracketed conditions. -/
def shell : Rule where
  name := "shell"
  priority := 5
  signatures := [
    interpreterLine,
    inOrder [wordEdge, text "echo", gap, one .quote],
    inOrder [text "export", gap, ident, text "="],
    inOrder [text "$(", ident, text ")"],
    bracketCondition]

end SnippetLanguage.Rule
