import Mathlib.Data.List.Lattice
import SnippetLanguage.Proofs.Alias.Canonical
import SnippetLanguage.Proofs.Text.Fold

/-!
# The aliases of an identifier

The aliases that are listed for an identifier are the known ones that stand for it, other than itself
(`mem_otherNames_iff`), in strictly increasing order (`pairwise_otherNames`). However an alias is written, with ASCII
letters of either case and with blank characters around it, it is normalised to the identifier for which it is listed
(`canonicalName_of_mem_otherNames`), so it is listed for one identifier only (`disjoint_otherNames`).
-/

namespace SnippetLanguage

open Text

/-! ## Blank ends -/

/-- Blank characters around a text are stripped with its own. -/
theorem stripChars_surrounded {before cs after : List Char} (hbefore : ∀ c ∈ before, isBlank c = true)
    (hafter : ∀ c ∈ after, isBlank c = true) : stripChars (before ++ cs ++ after) = stripChars cs := by
  have hreverse : ∀ c ∈ after.reverse, isBlank c = true := fun c hc => hafter c (List.mem_reverse.1 hc)
  rw [stripChars, List.append_assoc, List.dropWhile_append_of_pos hbefore, List.dropWhile_append]
  split
  · rename_i hblank
    have hnone : after.dropWhile isBlank = [] := (dropWhile_isBlank_eq_nil_iff after).2 hafter
    rw [hnone, stripChars, List.isEmpty_iff.1 hblank]
  · rw [List.reverse_append, List.dropWhile_append_of_pos hreverse]
    rfl

theorem canonicalName_surrounded {before cs after : List Char} (hbefore : ∀ c ∈ before, isBlank c = true)
    (hafter : ∀ c ∈ after, isBlank c = true) :
    canonicalName (String.ofList (before ++ cs ++ after)) = canonicalName (String.ofList cs) := by
  simp only [canonicalName, strip, String.toList_ofList, stripChars_surrounded hbefore hafter]

/-! ## Aliases -/

theorem nodup_knownAliases : (knownAliases.map Prod.fst).Nodup := by decide

theorem mem_otherNames_iff {tag language : String} :
    tag ∈ otherNames language ↔ (tag, language) ∈ knownAliases ∧ tag ≠ language := by
  simp only [otherNames, List.mem_mergeSort, List.mem_map, List.mem_filter, Bool.and_eq_true, beq_iff_eq,
    bne_iff_ne]
  constructor
  · rintro ⟨⟨tag', language'⟩, ⟨hmem, rfl, hne⟩, rfl⟩
    exact ⟨hmem, hne⟩
  · rintro ⟨hmem, hne⟩
    exact ⟨(tag, language), ⟨hmem, rfl, hne⟩, rfl⟩

/-- The aliases of an identifier are listed in order, and none of them twice. -/
theorem pairwise_otherNames (language : String) : (otherNames language).Pairwise (· < ·) := by
  have hsorted : (otherNames language).Pairwise (· ≤ ·) := by
    simpa only [otherNames, decide_eq_true_eq] using @List.pairwise_mergeSort String (fun a b => decide (a ≤ b))
      (fun a b c hab hbc => by simpa using String.le_trans (by simpa using hab) (by simpa using hbc))
      (fun a b => by simpa using String.le_total a b)
      ((knownAliases.filter fun a => a.2 == language && a.1 != language).map Prod.fst)
  have hnodup : (otherNames language).Nodup :=
    (List.mergeSort_perm _ _).nodup_iff.2 ((List.filter_sublist.map Prod.fst).nodup nodup_knownAliases)
  exact hsorted.imp₂ (fun a b hle hne => String.not_le.1 fun hge => hne (String.le_antisymm hle hge)) hnodup

/-- **An alias is normalised to its identifier**, in any case of its ASCII letters and with blank characters around it. -/
theorem canonicalName_of_mem_otherNames {tag language : String} (h : tag ∈ otherNames language)
    {before spelling after : List Char} (hbefore : ∀ c ∈ before, isBlank c = true)
    (hspelling : spelling.map Char.toLower = tag.toList.map Char.toLower) (hafter : ∀ c ∈ after, isBlank c = true) :
    canonicalName (String.ofList (before ++ spelling ++ after)) = language := by
  rw [canonicalName_surrounded hbefore hafter, canonicalName_of_toLower_eq hspelling, String.ofList_toList]
  exact (alias_of_mem_knownAliases (tag, language) (mem_otherNames_iff.1 h).1).1

/-- An alias is listed for one identifier only. -/
theorem disjoint_otherNames {language language' : String} (h : language ≠ language') :
    (otherNames language).Disjoint (otherNames language') := by
  intro tag hmem hmem'
  have hname := (alias_of_mem_knownAliases (tag, language) (mem_otherNames_iff.1 hmem).1).1
  have hname' := (alias_of_mem_knownAliases (tag, language') (mem_otherNames_iff.1 hmem').1).1
  exact h (hname.symm.trans hname')

end SnippetLanguage
