import SnippetLanguage.Rule.Basic

/-!
# Rules for compiled languages

Fortran, Rust, Go, Java, Kotlin, Swift, C++ and C. All letters are compared in any case.
-/

namespace SnippetLanguage.Rule

open Pattern

/-- Programs, subroutines, declarations with `::` and numbered loops. -/
def fortran : Rule where
  name := "fortran"
  priority := 10
  signatures := [
    inOrder [text "program", gap, ident],
    inOrder [text "subroutine", gap, ident],
    text "implicit none",
    text "end program",
    text "end subroutine",
    inOrder [text "integer", blanks, text "::"],
    inOrder [text "real", blanks, text "::"],
    inOrder [text "character", blanks, text "::"],
    text "write(*,*)",
    text "read(*,*)",
    inOrder [wordEdge, text "do", gap, plus (one .digit)],
    inOrder [wordEdge, text "continue", wordEdge],
    text "format("]

/-- An inner attribute: its head, a stretch of the line on which the head does not start again, and a bracket. -/
def innerAttribute : Pattern := inOrder [text "#![", plus (seq (notAhead (text "#![")) (one .inLine)), text "]"]

/-- Functions, mutable bindings, implementations, public items and inner attributes. -/
def rust : Rule where
  name := "rust"
  priority := 9
  signatures := [
    inOrder [text "fn", gap, ident, blanks, text "("],
    inOrder [text "let", gap, text "mut", gap, ident],
    inOrder [text "impl", gap, ident],
    inOrder [text "use", gap, text "std::"],
    inOrder [text "pub", gap, text "struct"],
    inOrder [text "pub", gap, text "enum"],
    innerAttribute]

/-- The head of a function in Go, up to its opening bracket. -/
def goFunction : Pattern := inOrder [text "func", gap, ident, blanks, text "("]

/-- Functions, the main package, imports and struct types. -/
def go : Rule where
  name := "go"
  priority := 9
  signatures := [
    goFunction,
    inOrder [text "package", gap, text "main"],
    inOrder [text "import", gap, text "("],
    inOrder [text "import", gap, text "\"", plus (one (CharClass.any.without (.char '"'))), text "\""],
    inOrder [text "type", gap, ident, gap, text "struct"]]

/-- Public and derived classes, the main method, printing and imports. -/
def java : Rule where
  name := "java"
  priority := 9
  signatures := [
    inOrder [text "public", gap, text "class"],
    inOrder [text "class", gap, ident, gap, text "extends"],
    inOrder [text "class", gap, ident, gap, text "implements"],
    inOrder [text "public", gap, text "static", gap, text "void", gap, text "main"],
    text "System.out.println",
    inOrder [text "import", gap, text "java."]]

/-- Functions, typed bindings, companion objects and data classes. -/
def kotlin : Rule where
  name := "kotlin"
  priority := 8
  signatures := [
    inOrder [text "fun", gap, ident],
    inOrder [text "val", gap, ident, text ":"],
    inOrder [text "var", gap, ident, text ":"],
    inOrder [text "suspend", gap, text "fun"],
    inOrder [text "companion", gap, text "object"],
    inOrder [text "data", gap, text "class"]]

/-- The head of a function without parameters in Swift. -/
def swiftFunction : Pattern := inOrder [text "func", gap, ident, text "()"]

/-- Foundation imports, functions without parameters, typed bindings, derived classes and structs. -/
def swift : Rule where
  name := "swift"
  priority := 8
  signatures := [
    inOrder [text "import", gap, text "Foundation"],
    swiftFunction,
    inOrder [text "var", gap, ident, blanks, text ":", blanks, ident],
    inOrder [text "let", gap, ident, blanks, text ":", blanks, ident],
    inOrder [text "class", gap, ident, blanks, text ":", blanks, ident],
    inOrder [text "struct", gap, ident]]

/-- Stream headers, the standard namespace, stream operators, namespaces, templates and classes. -/
def cpp : Rule where
  name := "cpp"
  priority := 7
  signatures := [
    inOrder [text "#include", blanks, text "<iostream>"],
    inOrder [text "#include", blanks, text "<vector>"],
    text "std::",
    inOrder [text "cout", blanks, text "<<"],
    inOrder [text "cin", blanks, text ">>"],
    inOrder [text "namespace", gap, ident],
    inOrder [text "template", blanks, text "<"],
    inOrder [text "class", gap, ident, blanks, text "\x7b"]]

/-- The standard headers and functions; what belongs to C++ speaks against it. -/
def c : Rule where
  name := "c"
  priority := 6
  signatures := [
    inOrder [text "#include", blanks, text "<stdio.h>"],
    inOrder [text "#include", blanks, text "<stdlib.h>"],
    inOrder [text "printf", blanks, text "("],
    inOrder [text "scanf", blanks, text "("],
    inOrder [text "malloc", blanks, text "("],
    inOrder [text "void", gap, ident, blanks, text "("]]
  exclusions := [
    text "std::",
    inOrder [text "class", gap, ident],
    text "template"]

end SnippetLanguage.Rule
