import SnippetLanguage.Proofs.Pattern.Backtrack
import SnippetLanguage.Rule.Default

/-!
# The signals of the default table

Every signal of the default table is a pattern whose letters are compared in any case; the patterns of the python rule
look for line starts where those of the other rules look for the start of the text (`suits_of_mem_default`). Each of
them is found in a text exactly when a slice of the text, from one position to another, is derivable from it, and a
backtracking search over the text says the same whatever choice it tries first (`signal_isIn_iff_exists_slice`).
-/

namespace SnippetLanguage

/-! ## Positions -/

/-- The place after the first `i` characters of a text. -/
def Place.at (text : List Char) (i : Nat) : Place := ⟨(text.take i).reverse, text.drop i⟩

theorem Place.text_at (text : List Char) (i : Nat) : (Place.at text i).text = text := by
  simp [Place.at, Place.text]

theorem Place.eq_at (u : Place) : u = Place.at u.text u.before.length := by
  simp [Place.at, Place.text]

namespace Pattern

/-- A derivation leads from a position to the same position or a later one. -/
theorem occurs_iff_exists_slice {p : Pattern} {text : List Char} : p.Occurs text ↔
    ∃ i j, i ≤ j ∧ j ≤ text.length ∧ p.Spans (Place.at text i) (Place.at text j) := by
  constructor
  · intro h
    obtain ⟨u, v, rfl, h⟩ := h
    have htext := text_eq_of_spans h
    have hlen := length_after_of_spans h
    have hsum : ∀ w : Place, w.text.length = w.before.length + w.after.length := fun w => by simp [Place.text]
    have hu := hsum u
    have hv := hsum v
    rw [htext] at hv
    refine ⟨u.before.length, v.before.length, by omega, by omega, ?_⟩
    rw [← u.eq_at, ← htext, ← v.eq_at]
    exact h
  · intro h
    obtain ⟨i, j, _, _, h⟩ := h
    exact ⟨_, _, Place.text_at text i, h⟩

/-! ## Parts -/

/-- A pattern and all patterns that it is made of. -/
def parts : Pattern → List Pattern
  | seq p q => seq p q :: (p.parts ++ q.parts)
  | alt p q => alt p q :: (p.parts ++ q.parts)
  | star p => star p :: p.parts
  | notAhead p => notAhead p :: p.parts
  | p => [p]

/-- Whether a part may stand in the rule of a language: letters count in any case, and `^` is the start of a line in the
python rule and the start of the text in the others. -/
def suits (language : String) : Pattern → Bool
  | literal l => l.anyCase
  | lineStart => language == "python"
  | textStart => language != "python"
  | _ => true

end Pattern

/-- Whether a signal of a rule is a pattern all of whose parts suit the language. -/
def Signal.suits (language : String) : Signal → Bool
  | .pattern p => p.parts.all (Pattern.suits language)
  | .matcher _ => false

theorem suits_of_mem_default {r : Rule} (hr : r ∈ Table.default.rules) {s : Signal}
    (hs : s ∈ r.signatures ++ r.exclusions) : s.suits r.name = true := by
  have hall : (Rule.defaults.all fun r => (r.signatures ++ r.exclusions).all (Signal.suits r.name)) = true := by
    decide
  exact List.all_eq_true.1 (List.all_eq_true.1 hall r hr) s hs

/-- **A signal of the default table is found where a slice is derivable.** -/
theorem signal_isIn_iff_exists_slice {r : Rule} (hr : r ∈ Table.default.rules) {s : Signal}
    (hs : s ∈ r.signatures ++ r.exclusions) : ∃ p, s = .pattern p ∧
      (∀ q ∈ p.parts, (∀ l, q = .literal l → l.anyCase = true) ∧ (q = .lineStart → r.name = "python") ∧
        (q = .textStart → r.name ≠ "python")) ∧
      ∀ text, (s.isIn text = true ↔
          ∃ i j, i ≤ j ∧ j ≤ text.length ∧ p.Spans (Place.at text i) (Place.at text j)) ∧
        ∀ prefers, (p.search prefers text).isSome = s.isIn text := by
  have hsuits := suits_of_mem_default hr hs
  cases s with
  | matcher accepts => cases hsuits
  | pattern p =>
    refine ⟨p, rfl, fun q hq => ?_, fun text => ⟨?_, fun prefers => Pattern.search_isSome prefers p text⟩⟩
    · have hq := List.all_eq_true.1 hsuits q hq
      refine ⟨?_, ?_, ?_⟩
      · rintro l rfl
        exact hq
      · rintro rfl
        exact beq_iff_eq.1 hq
      · rintro rfl
        exact bne_iff_ne.1 hq
    · exact Pattern.isIn_iff_occurs.trans Pattern.occurs_iff_exists_slice

/-- A comment that names Python on the second line of a text. -/
theorem pythonComment_occurs_on_second_line :
    Rule.python ∈ Table.default.rules ∧
      Signal.pattern Rule.pythonComment ∈ Rule.python.signatures ++ Rule.python.exclusions ∧
      ∃ i j, i ≤ j ∧ j ≤ "x\n# PYTHON".toList.length ∧
        Rule.pythonComment.Spans (Place.at "x\n# PYTHON".toList i) (Place.at "x\n# PYTHON".toList j) := by
  have hr : Rule.python ∈ Table.default.rules :=
    List.mem_of_getElem? (show Rule.defaults[6]? = some Rule.python from rfl)
  have hs : Signal.pattern Rule.pythonComment ∈ Rule.python.signatures ++ Rule.python.exclusions :=
    List.mem_append_left _ (List.mem_of_getElem? (show Rule.python.signatures[6]? = some _ from rfl))
  obtain ⟨p, hp, _, hiff⟩ := signal_isIn_iff_exists_slice hr hs
  cases hp
  exact ⟨hr, hs, (hiff _).1.1 (by decide +kernel)⟩

end SnippetLanguage
