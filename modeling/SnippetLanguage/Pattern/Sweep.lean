import SnippetLanguage.Pattern.Basic

/-!
# Finding a pattern in one sweep

The matcher goes through the text once, from its end to its start. At every place it knows, for each part of the
pattern, what the places to the right need to be told apart (`Marks`), and computes whether a slice that starts here
reaches a target place (`step`). A target is a place where the rest of the pattern can be derived; for the whole pattern
every place is one. The work is the length of the text times the size of the pattern, whatever the text is.

Most patterns have literals that no derivation can do without (`needs`). A text that lacks one of them is refused before
the sweep.
-/

namespace SnippetLanguage

namespace Pattern

/-- What a part of a pattern remembers of the places to the right. A character class remembers whether the next place
is a target, a literal the targets among as many places as it is long, one bit for each. -/
def Marks : Pattern → Type
  | one _ => Bool
  | literal _ => Nat
  | seq p q => p.Marks × q.Marks
  | alt p q => p.Marks × q.Marks
  | star p => p.Marks
  | notAhead p => p.Marks
  | empty => Unit
  | wordEdge => Unit
  | textStart => Unit
  | lineStart => Unit

/-- What is remembered beyond the end of the text: no targets. -/
def noMarks : (p : Pattern) → p.Marks
  | one _ => false
  | literal _ => (0 : Nat)
  | seq p q => (p.noMarks, q.noMarks)
  | alt p q => (p.noMarks, q.noMarks)
  | star p => p.noMarks
  | notAhead p => p.noMarks
  | empty => ()
  | wordEdge => ()
  | textStart => ()
  | lineStart => ()

/-- Whether a slice of the pattern leads from the place between `before` and `after` to a target, and what to remember
of this place. `target` tells whether the place itself is a target. -/
def step : (p : Pattern) → (before after : List Char) → (target : Bool) → p.Marks → Bool × p.Marks
  | empty, _, _, target, m => (target, m)
  | one cls, _, after, target, (next : Bool) =>
    (match after with
      | [] => false
      | c :: _ => next && cls.holds c, target)
  | literal l, _, after, target, (history : Nat) =>
    let targets := 2 * history + target.toNat
    (l.begins after && targets.testBit l.chars.length, targets % l.weight)
  | seq p q, before, after, target, (mp, mq) =>
    let (reached, mq) := q.step before after target mq
    let (reached, mp) := p.step before after reached mp
    (reached, (mp, mq))
  | alt p q, before, after, target, (mp, mq) =>
    let (reached, mp) := p.step before after target mp
    let (reached', mq) := q.step before after target mq
    (reached || reached', (mp, mq))
  | star p, before, after, target, m =>
    if target then (true, (p.step before after true m).2)
    else
      let further := p.step before after false m
      if further.1 then (true, (p.step before after true m).2) else further
  | notAhead p, before, after, target, m =>
    let (found, m) := p.step before after true m
    (target && !found, m)
  | wordEdge, before, after, target, m => (target && Place.atWordEdge before after, m)
  | textStart, before, _, target, m => (target && before.isEmpty, m)
  | lineStart, before, _, target, m => (target && Place.atLineStart before, m)

/-- Goes on from the place between `before` and `after` to the start of the text; `found` is the leftmost place so far
where a slice of the pattern starts. -/
def sweep (p : Pattern) : (before after : List Char) → p.Marks → (found : Option Place) → Option Place
  | before, after, m, found =>
    let (hit, m) := p.step before after true m
    let found := if hit then some ⟨before, after⟩ else found
    match before with
    | [] => found
    | c :: before => sweep p before (c :: after) m found

/-- The literals that stand in every slice of the pattern. -/
def needs : Pattern → List Literal
  | literal l => [l]
  | seq p q => p.needs ++ q.needs
  | _ => []

/-- The leftmost place of the text where a slice of the pattern starts. -/
def find? (p : Pattern) (text : List Char) : Option Place :=
  if p.needs.all (·.isIn text) then p.sweep text.reverse [] p.noMarks none else none

/-- Whether some slice of the text fits the pattern. -/
def isIn (p : Pattern) (text : List Char) : Bool := (p.find? text).isSome

end Pattern

end SnippetLanguage
