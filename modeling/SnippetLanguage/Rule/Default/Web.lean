import SnippetLanguage.Rule.Basic

/-!
# Rules for languages of the web

HTML, CSS, TypeScript, React, JavaScript and JSON. All letters are compared in any case.
-/

namespace SnippetLanguage.Rule

open Pattern

/-- An opening tag: its name, then a bracket or a blank. -/
def openTag (tag : String) : Pattern := inOrder [text tag, one ((CharClass.char '>').union .blank)]

/-- The document type and the most common tags. -/
def html : Rule where
  name := "html"
  priority := 5
  signatures := [
    inOrder [text "<!DOCTYPE", gap, text "html>"],
    openTag "<html",
    openTag "<head",
    openTag "<body",
    openTag "<div",
    openTag "<script",
    inOrder [text "<a", gap, text "href"]]

/-- A block of declarations, at-rules and common properties; a page speaks against it. -/
def css : Rule where
  name := "css"
  priority := 5
  signatures := [
    inOrder [wordEdge, ident, blanks, text "\x7b", blanks, plus (one (CharClass.word.union (.char '-'))), blanks,
      text ":"],
    text "@media",
    text "@keyframes",
    text "@import",
    inOrder [text "margin", blanks, text ":"],
    inOrder [text "padding", blanks, text ":"],
    inOrder [text "font-family", blanks, text ":"],
    inOrder [text "background-color", blanks, text ":"]]
  exclusions := [text "<html"]

/-- Interfaces, type definitions and type annotations. -/
def typescript : Rule where
  name := "typescript"
  priority := 6
  signatures := [
    inOrder [text "interface", gap, ident, blanks, text "\x7b"],
    inOrder [text "type", gap, ident, blanks, text "=", blanks, text "\x7b"],
    inOrder [text "type", gap, ident, blanks, text "="],
    inOrder [text ":", blanks, text "string", wordEdge],
    inOrder [text ":", blanks, text "number", wordEdge],
    inOrder [text ":", blanks, text "boolean", wordEdge],
    inOrder [text "as", gap, text "const", wordEdge],
    inOrder [text "readonly", gap]]

/-- An import from React. What is imported is on one line, on which no other import starts. -/
def reactImport : Pattern :=
  inOrder [text "import", gap, one .visible,
    opt (seq (lineUntil (inOrder [text "import", one .blank])) (one .visible)),
    gap, text "from", gap, one .quote, text "react", one .quote]

/-- A tag that closes itself. The name may be followed by blank lines; what comes then is on one line, on which no other
tag starts. -/
def selfClosingTag : Pattern :=
  inOrder [text "<", ident, one .blank, star (seq (star (one .blankInLine)) (one (.char '\n'))),
    lineUntil (inOrder [text "<", one .word]), text "/>"]

/-- The React import, hooks, self-closing tags and attributes. -/
def react : Rule where
  name := "react"
  priority := 7
  signatures := [
    reactImport,
    text "React.useState",
    text "React.useEffect",
    text "useEffect(",
    text "useState(",
    selfClosingTag,
    inOrder [text "className", blanks, text "="],
    inOrder [text "onClick", blanks, text "=", blanks, text "\x7b"]]

/-- Functions, bindings, arrows and the objects of a browser. -/
def javascript : Rule where
  name := "javascript"
  priority := 4
  signatures := [
    inOrder [text "function", gap, ident, blanks, text "("],
    inOrder [text "const", gap, ident, blanks, text "="],
    inOrder [text "let", gap, ident, blanks, text "="],
    inOrder [text "var", gap, ident, blanks, text "="],
    inOrder [text "=>", blanks, text "\x7b"],
    text "console.log(",
    text "document.getElementById",
    text "window."]

/-- A key between quotes and the colon after it. -/
def jsonKey : Pattern := inOrder [text "\"", ident, text "\"", blanks, text ":"]

/-- A text that starts with an object. -/
def jsonObject : Pattern := inOrder [textStart, blanks, text "\x7b", blanks, jsonKey]

/-- A text that starts with an array of objects. -/
def jsonArray : Pattern := inOrder [textStart, blanks, text "[", blanks, text "\x7b", blanks, jsonKey]

/-- A text that starts with an object or with an array of objects. -/
def json : Rule where
  name := "json"
  priority := 3
  signatures := [jsonObject, jsonArray]

end SnippetLanguage.Rule
