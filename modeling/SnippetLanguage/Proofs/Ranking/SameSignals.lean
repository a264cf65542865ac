import SnippetLanguage.Detection

/-!
# Texts with the same signals

What is found in a text reaches the ranking as signals only: texts that show the same signals of a rule have the same
candidate for it (`Rule.candidate_congr`), and texts with the same candidates have the same ranking (`rank_congr`). For
the classification the texts also have to agree on whether they are blank and on whether they hold a mark of code
(`classify_congr`), for the detection on the language that a fence declares (`detect_congr`).
-/

namespace SnippetLanguage

theorem Rule.rawScore_congr {r : Rule} {text text' : List Char}
    (h : ∀ s ∈ r.signatures ++ r.exclusions, s.isIn text = s.isIn text') : r.rawScore text = r.rawScore text' := by
  have hsignatures : r.signatures.countP (·.isIn text) = r.signatures.countP (·.isIn text') :=
    List.countP_congr fun s hs => by rw [h s (List.mem_append_left _ hs)]
  have hexclusions : r.exclusions.countP (·.isIn text) = r.exclusions.countP (·.isIn text') :=
    List.countP_congr fun s hs => by rw [h s (List.mem_append_right _ hs)]
  rw [rawScore, rawScore, hsignatures, hexclusions]

theorem Rule.candidate_congr {r : Rule} {text text' : List Char}
    (h : ∀ s ∈ r.signatures ++ r.exclusions, s.isIn text = s.isIn text') : r.candidate text = r.candidate text' := by
  rw [candidate, candidate, rawScore_congr h]

namespace Table

variable {t : Table} {text text' : String}

theorem rank_congr (h : ∀ r ∈ t.rules, r.candidate text.toList = r.candidate text'.toList) :
    t.rank text = t.rank text' := by
  have hcandidates : t.candidates text = t.candidates text' := List.map_congr_left h
  rw [rank, rank, hcandidates]

theorem classify_congr (hrank : t.rank text = t.rank text') (hblank : Text.allBlank text = Text.allBlank text')
    (hmark : text.toList.any isCodeMark = text'.toList.any isCodeMark) : t.classify text = t.classify text' := by
  have hplaceholder : placeholder text = placeholder text' := by rw [placeholder, placeholder, hmark]
  rw [classify, classify, hrank, hblank, hplaceholder]

theorem detect_congr {style : LabelStyle} (hfence : Fence.language? text = Fence.language? text')
    (hclassify : t.classify text = t.classify text') : t.detect text style = t.detect text' style := by
  rw [detect, detect, hfence, hclassify]

end Table

end SnippetLanguage
