import Mathlib.Data.List.Forall2
import SnippetLanguage.Proofs.Pattern.Alike
import SnippetLanguage.Proofs.Ranking.SameSignals
import SnippetLanguage.Proofs.Rule.Cases

/-!
# Letter case does not matter

All signals of the default table ignore letter case (`ignoresCase_of_mem_default`), so texts that differ only in what
counts as one letter of the ASCII range are ranked and classified alike. A fence is found at the same place of both, and
its tag is normalised alike when the texts differ only within the ASCII range (`language?_of_toLower_eq`): the long `s`
is no `s` in a tag. Together this is `default_ignores_letterCase`.
-/

namespace SnippetLanguage

open Text

/-! ## Signals -/

theorem ignoresCase_of_mem_default {r : Rule} (hr : r ∈ Table.default.rules) {s : Signal}
    (hs : s ∈ r.signatures ++ r.exclusions) : ∃ p, s = .pattern p ∧ p.ignoresCase = true := by
  have hguarded : ∀ g : LineSignature, g.pattern.ignoresCase = true := by
    intro g
    cases g <;> decide
  exact pattern_of_mem_default_of_all (by decide +kernel) hguarded hr hs

theorem isIn_of_fold_eq {r : Rule} (hr : r ∈ Table.default.rules) {s : Signal}
    (hs : s ∈ r.signatures ++ r.exclusions) {text text' : List Char}
    (h : text.map foldLetter = text'.map foldLetter) : s.isIn text = s.isIn text' := by
  obtain ⟨p, rfl, hp⟩ := ignoresCase_of_mem_default hr hs
  exact Pattern.isIn_eq_of_fold_eq hp h

/-! ## Fences -/

namespace Fence

theorem map_tagAt_congr {xs ys : List Char} (h : xs.map Char.toLower = ys.map Char.toLower) :
    (tagAt xs).map Char.toLower = (tagAt ys).map Char.toLower := by
  have hindent : ∀ x y : Char, x.toLower = y.toLower → indent.holds x = indent.holds y :=
    fun x y hxy => CharClass.holds_of_fold_eq (by decide) (fold_eq_of_toLower_eq hxy)
  have htag : ∀ x y : Char, x.toLower = y.toLower → tagChar.holds x = tagChar.holds y :=
    fun x y hxy => CharClass.holds_of_fold_eq (by decide) (fold_eq_of_toLower_eq hxy)
  have hbody := map_dropWhile_congr hindent h
  refine map_takeWhile_congr htag ?_
  rw [List.map_drop, List.map_drop, hbody]

/-- The first fence of a text has its like in a text with other letter case. -/
theorem exists_fence?_of_toLower_eq {s t : String} (h : s.toList.map Char.toLower = t.toList.map Char.toLower)
    {u : Place} (hu : fence? s = some u) : ∃ u', fence? t = some u' ∧ u.Alike Char.toLower u' :=
  Pattern.find?_alike (fun _ _ => fold_eq_of_toLower_eq) (by decide) h hu

theorem language?_of_toLower_eq {s t : String} (h : s.toList.map Char.toLower = t.toList.map Char.toLower) :
    language? s = language? t := by
  unfold language?
  cases hs : fence? s with
  | some u =>
    obtain ⟨u', hu', halike⟩ := exists_fence?_of_toLower_eq h hs
    rw [hu', Option.map_some, Option.map_some, canonicalName_of_toLower_eq (map_tagAt_congr halike.2)]
  | none =>
    cases ht : fence? t with
    | none => rfl
    | some u' =>
      obtain ⟨u, hu, _⟩ := exists_fence?_of_toLower_eq h.symm ht
      rw [hs] at hu
      cases hu

end Fence

/-! ## The default table -/

namespace Table

theorem candidate_of_fold_eq {s t : String} (h : s.toList.map foldLetter = t.toList.map foldLetter) {r : Rule}
    (hr : r ∈ Table.default.rules) : r.candidate s.toList = r.candidate t.toList :=
  Rule.candidate_congr fun _ hsig => isIn_of_fold_eq hr hsig h

theorem classify_of_fold_eq {s t : String} (h : s.toList.map foldLetter = t.toList.map foldLetter) :
    Table.default.classify s = Table.default.classify t := by
  have hmark : ∀ x y, foldLetter x = foldLetter y → (!isCodeMark x) = !isCodeMark y :=
    fun x y hxy => congr_of_fold_eq (g := fun c => !isCodeMark c) (by decide +kernel) hxy
  refine classify_congr (rank_congr fun r hr => candidate_of_fold_eq h hr) ?_ ?_
  · exact all_congr (fun x y => isBlank_of_fold_eq) h
  · rw [List.any_eq_not_all_not, List.any_eq_not_all_not, all_congr hmark h]

/-- **Letter case does not matter.** Texts that differ only in what counts as one letter of the ASCII range show the
same signals, so they are ranked and classified alike; when they differ only within the range, their fences declare the
same language, and the whole detection is the same in every style. -/
theorem default_ignores_letterCase {s t : String}
    (h : List.Forall₂ (fun x y => foldLetter x = foldLetter y) s.toList t.toList) :
    (∀ r ∈ Table.default.rules, ∀ signal ∈ r.signatures ++ r.exclusions,
        signal.isIn s.toList = signal.isIn t.toList) ∧
      Table.default.rank s = Table.default.rank t ∧ Table.default.classify s = Table.default.classify t ∧
      (List.Forall₂ (fun x y => Char.toLower x = Char.toLower y) s.toList t.toList →
        Fence.language? s = Fence.language? t ∧
          ∀ style, Table.default.detect s style = Table.default.detect t style) := by
  have hmap : ∀ {f : Char → Char} {xs ys : List Char}, List.Forall₂ (fun x y => f x = f y) xs ys →
      xs.map f = ys.map f := by
    intro f xs ys hxy
    rw [← List.forall₂_eq_eq_eq, List.forall₂_map_left_iff, List.forall₂_map_right_iff]
    exact hxy
  have hfold := hmap h
  have hclassify := classify_of_fold_eq hfold
  refine ⟨fun r hr signal hsig => ?_, rank_congr fun r hr => candidate_of_fold_eq hfold hr, hclassify, fun hlower => ?_⟩
  · exact isIn_of_fold_eq hr hsig hfold
  · have hfence := Fence.language?_of_toLower_eq (hmap hlower)
    exact ⟨hfence, fun style => detect_congr hfence hclassify⟩

/-- A query in small letters one of which is a long `s`, and a fence whose tag is in capital letters. -/
theorem letterCase_of_query_and_fence :
    (List.Forall₂ (fun x y => foldLetter x = foldLetter y) "\u017Felect a from b".toList "SELECT a FROM b".toList ∧
        Table.default.classify "\u017Felect a from b" = Table.default.classify "SELECT a FROM b") ∧
      List.Forall₂ (fun x y => Char.toLower x = Char.toLower y) "```PY\nPRINT(1)".toList "```py\nprint(1)".toList ∧
        Table.default.detect "```PY\nPRINT(1)" .plain = Table.default.detect "```py\nprint(1)" .plain := by
  have hquery : List.Forall₂ (fun x y => foldLetter x = foldLetter y) "\u017Felect a from b".toList
      "SELECT a FROM b".toList := by
    decide
  have hlower : List.Forall₂ (fun x y => Char.toLower x = Char.toLower y) "```PY\nPRINT(1)".toList
      "```py\nprint(1)".toList := by
    decide
  obtain ⟨_, _, hclassify, _⟩ := default_ignores_letterCase hquery
  obtain ⟨_, _, _, hdetect⟩ := default_ignores_letterCase (hlower.imp fun _ _ => fold_eq_of_toLower_eq)
  obtain ⟨_, hstyles⟩ := hdetect hlower
  exact ⟨⟨hquery, hclassify⟩, hlower, hstyles .plain⟩

end Table

end SnippetLanguage
