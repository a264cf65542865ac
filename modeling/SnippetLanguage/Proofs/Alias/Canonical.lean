import SnippetLanguage.Alias
import SnippetLanguage.Proofs.Text.Lowercase

/-!
# Names that stand for themselves

The identifiers that aliases stand for are no aliases of something else, and a name whose case and blank ends are out of
the way stays what it is when they are taken away once more. So a normalised name is normal
(`canonicalName_canonicalName`), and the name of a visible tag is an identifier (`isIdentifier_canonicalName`): visible,
and one that stands for itself.
-/

namespace SnippetLanguage

open Text

/-- A visible name that stands for itself. -/
def IsIdentifier (language : String) : Prop := allBlank language = false ∧ canonicalName language = language

instance : DecidablePred IsIdentifier := fun language => by unfold IsIdentifier; infer_instance

/-- An alias leads to its identifier, and no alias leads to another alias. -/
theorem alias_of_mem_knownAliases : ∀ a ∈ knownAliases, canonicalName a.1 = a.2 ∧ IsIdentifier a.2 := by decide +kernel

theorem isIdentifier_of_mem_knownAliases (a : String × String) (h : a ∈ knownAliases) : IsIdentifier a.2 :=
  (alias_of_mem_knownAliases a h).2

/-- A name is what its tag is an alias of or, for a tag that is no alias, the visible part of the tag in lower case. -/
theorem canonicalName_eq_or (tag : String) :
    (∃ a ∈ knownAliases, canonicalName tag = a.2) ∨
      canonicalName tag = lowercase (strip tag) ∧ knownAliases.lookup (lowercase (strip tag)) = none := by
  cases h : knownAliases.lookup (lowercase (strip tag)) with
  | some language =>
    obtain ⟨_, _, haliases, _⟩ := List.lookup_eq_some_iff.1 h
    refine .inl ⟨(lowercase (strip tag), language), ?_, canonicalName_of_lookup h⟩
    rw [haliases]
    exact List.mem_append_right _ List.mem_cons_self
  | none =>
    refine .inr ⟨?_, rfl⟩
    rw [canonicalName, resolveAlias, h]
    rfl

/-- Neither blank ends nor capitals are left for a second time. -/
theorem lowercase_strip_lowercase_strip (tag : String) :
    lowercase (strip (lowercase (strip tag))) = lowercase (strip tag) := by
  simp only [lowercase, strip, String.toList_ofList]
  refine congrArg String.ofList ?_
  by_cases h : stripChars tag.toList = []
  · rw [h]
    rfl
  · rw [stripChars_eq_self (visibleEnds_lowerChars (visibleEnds_stripChars h)), lowerChars_lowerChars]

/-- **Normalising a name twice is normalising it once.** -/
theorem canonicalName_canonicalName (tag : String) : canonicalName (canonicalName tag) = canonicalName tag := by
  rcases canonicalName_eq_or tag with ⟨a, ha, h⟩ | ⟨h, hnone⟩
  · rw [h]
    exact (isIdentifier_of_mem_knownAliases a ha).2
  · rw [h, canonicalName, lowercase_strip_lowercase_strip, resolveAlias, hnone]
    rfl

theorem allBlank_eq_false_iff {s : String} : allBlank s = false ↔ ∃ c ∈ s.toList, isBlank c = false := by
  simp [allBlank]

/-- A visible text stays visible. -/
theorem allBlank_lowercase_strip {tag : String} (h : allBlank tag = false) :
    allBlank (lowercase (strip tag)) = false := by
  obtain ⟨x, hx, hxVisible⟩ := allBlank_eq_false_iff.1 h
  have hne : stripChars tag.toList ≠ [] := by
    intro hnil
    rw [(stripChars_eq_nil_iff _).1 hnil x hx] at hxVisible
    cases hxVisible
  obtain ⟨⟨c, hc, hcVisible⟩, _⟩ := visibleEnds_lowerChars (visibleEnds_stripChars hne)
  apply allBlank_eq_false_iff.2
  refine ⟨c, ?_, hcVisible⟩
  rw [lowercase, strip, String.toList_ofList, String.toList_ofList]
  exact List.mem_of_mem_head? hc

/-- The name of a visible tag is an identifier. -/
theorem isIdentifier_canonicalName {tag : String} (h : allBlank tag = false) : IsIdentifier (canonicalName tag) := by
  refine ⟨?_, canonicalName_canonicalName tag⟩
  rcases canonicalName_eq_or tag with ⟨a, ha, hname⟩ | ⟨hname, _⟩
  · rw [hname]
    exact (isIdentifier_of_mem_knownAliases a ha).1
  · rw [hname]
    exact allBlank_lowercase_strip h

end SnippetLanguage
