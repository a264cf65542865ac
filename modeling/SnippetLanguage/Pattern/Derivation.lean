import SnippetLanguage.Pattern.Basic

/-!
# What a pattern derives

`Spans p u v` says that the slice from place `u` to place `v` is derivable from `p`: a sequence is some split, a
repetition takes any count, a negative look-ahead holds where its body derives no slice at all, and word edges and
starts look at the neighbouring characters. Nothing is said about the order in which choices are tried.

* `text_eq_of_spans`: both ends of a derivation are places of one text.
* `Occurs p text`: some slice of the text is derivable.
-/

namespace SnippetLanguage

/-- Any number of steps of a relation, one after the other. -/
inductive Repeats (r : Place → Place → Prop) : Place → Place → Prop where
  | none (u : Place) : Repeats r u u
  | more {u v w : Place} : r u v → Repeats r v w → Repeats r u w

namespace Pattern

/-- The slice from the first place to the second is derivable from the pattern. -/
def Spans : Pattern → Place → Place → Prop
  | empty, u, v => v = u
  | one cls, u, v => ∃ c, cls.holds c = true ∧ u.after = c :: v.after ∧ v.before = c :: u.before
  | literal l, u, v =>
    ∃ xs, xs.length = l.chars.length ∧ l.begins xs = true ∧ u.after = xs ++ v.after ∧
      v.before = xs.reverse ++ u.before
  | seq p q, u, w => ∃ v, p.Spans u v ∧ q.Spans v w
  | alt p q, u, v => p.Spans u v ∨ q.Spans u v
  | star p, u, v => Repeats p.Spans u v
  | notAhead p, u, v => v = u ∧ ∀ w, ¬ p.Spans u w
  | wordEdge, u, v => v = u ∧ Place.atWordEdge u.before u.after = true
  | textStart, u, v => v = u ∧ u.before = []
  | lineStart, u, v => v = u ∧ Place.atLineStart u.before = true

/-- Some slice of the text is derivable from the pattern. -/
def Occurs (p : Pattern) (text : List Char) : Prop := ∃ u v, u.text = text ∧ p.Spans u v

theorem text_eq_of_spans {p : Pattern} {u v : Place} (h : p.Spans u v) : v.text = u.text := by
  induction p generalizing u v with
  | empty => rw [show v = u from h]
  | one cls =>
    obtain ⟨c, _, ha, hb⟩ := h
    simp [Place.text, ha, hb]
  | literal l =>
    obtain ⟨xs, _, _, ha, hb⟩ := h
    simp [Place.text, ha, hb]
  | seq p q ihp ihq =>
    obtain ⟨w, hp, hq⟩ := h
    rw [ihq hq, ihp hp]
  | alt p q ihp ihq => exact h.elim ihp ihq
  | star p ih =>
    change Repeats p.Spans u v at h
    induction h with
    | none => rfl
    | more hp _ ihr => rw [ihr, ih hp]
  | notAhead p _ => rw [h.1]
  | wordEdge => rw [h.1]
  | textStart => rw [h.1]
  | lineStart => rw [h.1]

end Pattern

end SnippetLanguage
