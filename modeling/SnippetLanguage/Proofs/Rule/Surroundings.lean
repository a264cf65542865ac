import SnippetLanguage.Proofs.Pattern.Within
import SnippetLanguage.Proofs.Rule.Cases
import SnippetLanguage.Scoring

/-!
# Lines around a text

What the default table finds in a text it finds in every longer text that has the text on lines of its own, except for
the signatures that look for the start of the text, which allow for lines behind it only. The five signatures that stop
at the next head find their match wherever a reading of the text stands (`LineSignature.isIn_append`); the derivations
of the others survive as they are. So rules without exclusions lose no points (`signals_survive_lines`).
-/

namespace SnippetLanguage

/-! ## Single signals -/

namespace LineShape

variable {S : LineShape} {text gap : List Char}

theorem Reads.append (a b : List Char) (h : S.Reads text gap) : S.Reads (a ++ text ++ b) gap := by
  obtain ⟨pre, head, tail, post, rfl, hhead, hgap, htail⟩ := h
  exact ⟨a ++ pre, head, tail, post ++ b, by simp, hhead, hgap, htail⟩

end LineShape

/-- Whatever stands around a text, a signature that stops at the next head is still found. -/
theorem LineSignature.isIn_append (g : LineSignature) {text : List Char} (a b : List Char)
    (h : g.pattern.isIn text = true) : g.pattern.isIn (a ++ text ++ b) = true := by
  rw [(describes_shape g _).2] at h ⊢
  obtain ⟨gap, hreads, hcut⟩ := h
  exact ⟨gap, hreads.append a b, hcut⟩

namespace Pattern

variable {p : Pattern} {text : List Char}

theorem isIn_of_survives {a b : List Char} (ha : ∀ c ∈ a.head?, c = '\n') (hb : ∀ c ∈ b.head?, c = '\n')
    (hp : p.survives a.isEmpty = true) (h : p.isIn text = true) : p.isIn (a.reverse ++ text ++ b) = true := by
  refine isIn_of_carries (carries_within ha hb hp) (fun u hu => ?_) h
  exact ⟨u.within a b, by rw [Place.text_within, hu], rfl⟩

/-- What survives is found where lines are put before and behind the text. -/
theorem isIn_between_lines (hp : p.survives false = true) (before after : List Char) (h : p.isIn text = true) :
    p.isIn (before ++ '\n' :: text ++ '\n' :: after) = true := by
  have := @isIn_of_survives p text ('\n' :: before.reverse) ('\n' :: after) (by simp) (by simp) hp h
  simpa using this

theorem isIn_before_lines (hp : p.survives true = true) (after : List Char) (h : p.isIn text = true) :
    p.isIn (text ++ '\n' :: after) = true :=
  @isIn_of_survives p text [] ('\n' :: after) (by simp) (by simp) hp h

end Pattern

/-! ## The default table -/

/-- The patterns that look for the start of the text. -/
def Rule.textStartPatterns : List Pattern := [Rule.jsonObject, Rule.jsonArray, Rule.interpreterLine]

/-- The signatures that look for the start of the text. -/
def Rule.textStartSignatures : List Signal := [Rule.jsonObject, Rule.jsonArray, Rule.interpreterLine]

theorem Rule.mem_textStartSignatures {p : Pattern} : Signal.pattern p ∈ textStartSignatures ↔ p ∈ textStartPatterns := by
  simp [textStartSignatures, textStartPatterns]

/-- The rules with signatures that look for the start of the text. -/
def Rule.textStartRules : List String := ["json", "shell"]

/-- Whether a pattern survives lines on both sides, or looks for the start of the text in a rule that may. -/
def Pattern.survivesIn (r : Rule) (p : Pattern) : Bool :=
  p.survives false || (r.name ∈ Rule.textStartRules && p ∈ Rule.textStartPatterns)

theorem survivesIn_of_mem_default {r : Rule} (hr : r ∈ Table.default.rules) {s : Signal}
    (hs : s ∈ r.signatures ++ r.exclusions) :
    ∃ p, s = .pattern p ∧ (p.survivesIn r = true ∨ ∃ g : LineSignature, g.rule.name = r.name ∧ g.pattern = p) :=
  pattern_of_mem_default (by decide +kernel) hr hs

theorem Signal.isIn_between_lines {r : Rule} (hr : r ∈ Table.default.rules) {s : Signal}
    (hs : s ∈ r.signatures ++ r.exclusions) (hstart : s ∉ Rule.textStartSignatures) {text : List Char}
    (before after : List Char) (h : s.isIn text = true) :
    s.isIn (before ++ '\n' :: text ++ '\n' :: after) = true := by
  obtain ⟨p, rfl, hp | ⟨g, _, rfl⟩⟩ := survivesIn_of_mem_default hr hs
  · rw [Rule.mem_textStartSignatures] at hstart
    refine Pattern.isIn_between_lines ?_ before after h
    simpa [Pattern.survivesIn, hstart] using hp
  · have := g.isIn_append (before ++ ['\n']) ('\n' :: after) h
    change g.pattern.isIn _ = true
    simpa using this

theorem Signal.isIn_before_lines {s : Signal} (hstart : s ∈ Rule.textStartSignatures) {text : List Char}
    (after : List Char) (h : s.isIn text = true) : s.isIn (text ++ '\n' :: after) = true := by
  have hall : ∀ p ∈ Rule.textStartPatterns, p.survives true = true := by decide
  cases s with
  | matcher accepts => simp [Rule.textStartSignatures] at hstart
  | pattern p => exact Pattern.isIn_before_lines (hall p (Rule.mem_textStartSignatures.1 hstart)) after h

/-- In most rules no signature looks for the start of the text. -/
theorem notMem_textStartSignatures {r : Rule} (hr : r ∈ Table.default.rules) (hname : r.name ∉ Rule.textStartRules)
    {s : Signal} (hs : s ∈ r.signatures ++ r.exclusions) : s ∉ Rule.textStartSignatures := by
  have hlost : ∀ p ∈ Rule.textStartPatterns, p.survives false = false := by decide
  have hguarded : ∀ g : LineSignature, g.pattern ∉ Rule.textStartPatterns := by
    intro g
    cases g <;> decide
  obtain ⟨p, rfl, hp | ⟨g, _, rfl⟩⟩ := survivesIn_of_mem_default hr hs
  · have hkept : p.survives false = true := by simpa [Pattern.survivesIn, hname] using hp
    rw [Rule.mem_textStartSignatures]
    intro hmem
    exact Bool.false_ne_true ((hlost p hmem).symm.trans hkept)
  · rw [Rule.mem_textStartSignatures]
    exact hguarded g

/-! ## Points -/

/-- Where no signature is lost, the points of a rule fall by what its exclusions can cost at most. -/
theorem Rule.rawScore_le_of_signatures {r : Rule} {text text' : List Char}
    (h : ∀ s ∈ r.signatures, s.isIn text = true → s.isIn text' = true) :
    r.rawScore text - exclusionCost * r.exclusions.length ≤ r.rawScore text' := by
  have hsignatures : r.signatures.countP (·.isIn text) ≤ r.signatures.countP (·.isIn text') :=
    List.countP_mono_left h
  have hexclusions : r.exclusions.countP (·.isIn text') ≤ r.exclusions.length := List.countP_le_length
  unfold rawScore exclusionCost
  omega

theorem Rule.rawScore_between_lines {r : Rule} (hr : r ∈ Table.default.rules) (hname : r.name ∉ textStartRules)
    (before text after : List Char) :
    r.rawScore text - exclusionCost * r.exclusions.length ≤ r.rawScore (before ++ '\n' :: text ++ '\n' :: after) := by
  refine rawScore_le_of_signatures fun s hs h => ?_
  have hmem : s ∈ r.signatures ++ r.exclusions := List.mem_append_left _ hs
  exact s.isIn_between_lines hr hmem (notMem_textStartSignatures hr hname hmem) before after h

/-- The rules without exclusions, but for those that look for the start of the text. -/
def Rule.withoutExclusions : List String := [
  "fortran", "rust", "go", "java", "kotlin", "swift", "cpp", "sql", "html", "typescript", "react", "javascript"]

/-- **Lines around a text lose no signal.** A signal that is found in a text is found when lines are put before and behind
the text; a signature that looks for the start of the text is found when lines are put behind it. So the points of the
rules without exclusions do not fall, and those of `python`, `c` and `css` fall by two for each exclusion at most. -/
theorem signals_survive_lines (before text after : List Char) :
    (∀ r ∈ Table.default.rules, ∀ s ∈ r.signatures ++ r.exclusions, s.isIn text = true →
        (s ∉ Rule.textStartSignatures → s.isIn (before ++ '\n' :: text ++ '\n' :: after) = true) ∧
          (s ∈ Rule.textStartSignatures → s.isIn (text ++ '\n' :: after) = true)) ∧
      (∀ r ∈ Table.default.rules, r.name ∈ Rule.withoutExclusions →
        r.rawScore text ≤ r.rawScore (before ++ '\n' :: text ++ '\n' :: after)) ∧
      ∀ r ∈ Table.default.rules, r.name ∈ ["python", "c", "css"] →
        r.rawScore text - 2 * r.exclusions.length ≤ r.rawScore (before ++ '\n' :: text ++ '\n' :: after) := by
  have hnames : ∀ name ∈ Rule.withoutExclusions ++ ["python", "c", "css"], name ∉ Rule.textStartRules := by decide
  have hexclusions : (Rule.defaults.all fun r =>
      r.name ∉ Rule.withoutExclusions || r.exclusions.isEmpty) = true := by
    decide
  refine ⟨fun r hr s hs h => ⟨fun hstart => ?_, fun hstart => ?_⟩, fun r hr hname => ?_, fun r hr hname => ?_⟩
  · exact s.isIn_between_lines hr hs hstart before after h
  · exact s.isIn_before_lines hstart after h
  · have hpoints := Rule.rawScore_between_lines hr (hnames _ (List.mem_append_left _ hname)) before text after
    have hnone : r.exclusions = [] := by
      have := List.all_eq_true.1 hexclusions r hr
      simpa [hname] using this
    simpa [hnone] using hpoints
  · exact Rule.rawScore_between_lines hr (hnames _ (List.mem_append_right _ hname)) before text after

end SnippetLanguage
