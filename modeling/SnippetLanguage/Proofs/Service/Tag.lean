import SnippetLanguage.Proofs.Service.Feedback

/-!
# One reading of a tag

A tag names a language in three places: behind the backticks of a fence, in a declaration by the caller, and in a
look-up. All three mean the same language, its normalised name (`tag_means_one_language`): the fence because the tag of
the first tagged line is the whole run of tag characters (`Fence.language?_of_fence`), the declaration because a tag is
visible (`Fence.allBlank_of_isTagChar`), and the look-up because the table has at most one rule of the name
(`Service.findLanguage_of_rule`, `Service.findLanguage_of_no_rule`).
-/

namespace SnippetLanguage

open Text

namespace Fence

/-- The language of a text whose first tagged line comes behind whole lines without a tag. -/
theorem language?_of_fence {before indentation tag rest : String}
    (hend : before = "" ∨ before.toList.getLast? = some '\n') (hbefore : language? before = none)
    (hindent : ∀ c ∈ indentation.toList, c = ' ' ∨ c = '\t') (hne : tag ≠ "") (htag : ∀ c ∈ tag.toList, IsTagChar c)
    (hrest : ∀ c ∈ rest.toList.head?, ¬ IsTagChar c) :
    language? (before ++ indentation ++ "```" ++ tag ++ rest) = some (canonicalName tag) := by
  have hnil : tag.toList ≠ [] := fun h => hne (String.toList_eq_nil_iff.1 h)
  have hline : Tagged (indentation.toList ++ marks ++ tag.toList ++ rest.toList) tag.toList :=
    ⟨indentation.toList, rest.toList, rfl, hindent, hnil, htag, hrest⟩
  have hend' : before.toList = [] ∨ before.toList.getLast? = some '\n' := hend.imp_left String.toList_eq_nil_iff.2
  have hnone : firstTag? before.toList = none := by
    rwa [language?_eq_map_firstTag?, Option.map_eq_none_iff] at hbefore
  have htext : (before ++ indentation ++ "```" ++ tag ++ rest).toList =
      before.toList ++ (indentation.toList ++ marks ++ tag.toList ++ rest.toList) := by
    simp only [String.toList_append, List.append_assoc]
    rfl
  rw [language?_eq_map_firstTag?, htext, firstTag?_append_lines hend' hnone, firstTag?_of_tagged hline,
    Option.map_some, String.ofList_toList]

/-- A tag is visible. -/
theorem allBlank_of_isTagChar {tag : String} (hne : tag ≠ "") (htag : ∀ c ∈ tag.toList, IsTagChar c) :
    allBlank tag = false := by
  have hnil : tag.toList ≠ [] := fun h => hne (String.toList_eq_nil_iff.1 h)
  obtain ⟨c, hc⟩ := List.exists_mem_of_ne_nil tag.toList hnil
  exact allBlank_eq_false_iff.2 ⟨c, hc, isBlank_of_isTagChar (htag c hc)⟩

end Fence

namespace Service

variable {settings : Settings} {t : Table} {tag : String}

/-- A look-up finds the entry of the language if the table has a rule for it. -/
theorem findLanguage_of_rule (h : ∃ r ∈ t.rules, r.name = canonicalName tag) :
    ∃ entry, findLanguage settings t tag = .ok entry ∧ entry.name = canonicalName tag := by
  obtain ⟨r, hr, hname⟩ := h
  have hget : t.get? (canonicalName tag) = some r := Table.get?_eq_some_iff.2 ⟨hr, hname⟩
  exact ⟨entryOf settings r, by rw [findLanguage, hget], hname⟩

/-- The failure of a look-up, which names the tag as it was given. -/
def unknownLanguage (tag : String) : Failure :=
  .notFound ("language '" ++ tag ++ "' was not found" : String)
    [("resource", .text "language"), ("resource_id", .text tag)]

/-- A look-up fails if the table has no rule for the language. -/
theorem findLanguage_of_no_rule (hne : tag ≠ "") (h : ∀ r ∈ t.rules, r.name ≠ canonicalName tag) :
    findLanguage settings t tag = .error (unknownLanguage tag) := by
  have hget : t.get? (canonicalName tag) = none := Table.get?_eq_none_iff.2 h
  have hempty : tag.isEmpty = false := by simpa using hne
  rw [findLanguage, hget]
  simp only [Failure.ofResource, hempty]
  rfl

/-- **A tag means one language wherever it is read.** For a tag of tag characters there is a language such that:

* a text whose first fence has the tag, on a line of its own behind lines without a tag, has this language by every
  table, and the service answers it if nothing is declared and the text is not too long;
* the service answers it for every text that is not too long when the tag is declared, with the same label in the same
  style;
* a look-up of the tag answers the entry of exactly this language if the table has a rule for it, and fails as a look-up
  of something unknown if it has none. -/
theorem tag_means_one_language {before indentation tag rest : String}
    (hend : before = "" ∨ before.toList.getLast? = some '\n') (hbefore : Fence.language? before = none)
    (hindent : ∀ c ∈ indentation.toList, c = ' ' ∨ c = '\t') (hne : tag ≠ "")
    (htag : ∀ c ∈ tag.toList, Fence.IsTagChar c) (hrest : ∀ c ∈ rest.toList.head?, ¬ Fence.IsTagChar c) :
    ∃ language : String,
      (∀ (t : Table) (known : LabelStyle), t.detect (before ++ indentation ++ "```" ++ tag ++ rest) known =
        ⟨language, labelFor language known, .override⟩) ∧
      (∀ (settings : Settings) (t : Table) (style : Option String) (known : LabelStyle),
        LabelStyle.ofName? (styleInForce settings style) = some known →
          (((before ++ indentation ++ "```" ++ tag ++ rest).length : Int) ≤ settings.maxContentLength →
            (detect settings t (before ++ indentation ++ "```" ++ tag ++ rest) none style).1 =
              .ok ⟨language, labelFor language known, .override⟩) ∧
          ∀ content : String, (content.length : Int) ≤ settings.maxContentLength →
            (detect settings t content (some tag) style).1 = .ok ⟨language, labelFor language known, .declared⟩) ∧
      ∀ (settings : Settings) (t : Table),
        ((∃ r ∈ t.rules, r.name = language) →
          ∃ entry, findLanguage settings t tag = .ok entry ∧ entry.name = language) ∧
        ((∀ r ∈ t.rules, r.name ≠ language) → findLanguage settings t tag = .error (unknownLanguage tag)) := by
  have hdetect : ∀ (t : Table) (known : LabelStyle), t.detect (before ++ indentation ++ "```" ++ tag ++ rest) known =
      ⟨canonicalName tag, labelFor (canonicalName tag) known, .override⟩ := by
    intro t known
    rw [Table.detect, Fence.language?_of_fence hend hbefore hindent hne htag hrest]
    rfl
  refine ⟨canonicalName tag, hdetect, fun settings t style known hstyle => ⟨fun hlength => ?_, fun content hlength => ?_⟩,
    fun settings t => ⟨findLanguage_of_rule, findLanguage_of_no_rule hne⟩⟩
  · refine detect_eq_ok_iff.2 ⟨known, hstyle, hlength, ?_⟩
    rw [resultOf_of_undeclared (by simp), hdetect]
  · refine detect_eq_ok_iff.2 ⟨known, hstyle, hlength, ?_⟩
    rw [resultOf_of_declared (Fence.allBlank_of_isTagChar hne htag)]
    rfl

/-- An indented fence behind a fence without a tag. Its tag ends in punctuation and is followed by another word; as a
declaration it decides a text of another language. -/
theorem tag_means_one_language_of_cplusplus :
    (∀ c ∈ "C++".toList, Fence.IsTagChar c) ∧ Fence.language? "x\n```\n" = none ∧
      ∃ language, (∀ t : Table, t.detect ("x\n```\n" ++ " \t" ++ "```" ++ "C++" ++ " py\n") .plain =
          ⟨language, labelFor language .plain, .override⟩) ∧
        (detect {} Table.default "import os" (some "C++") none).1 = .ok ⟨language, labelFor language .plain, .declared⟩ ∧
        ∃ entry, findLanguage {} Table.default "C++" = .ok entry ∧ entry.name = language := by
  have hchars : ∀ c ∈ "C++".toList, Fence.IsTagChar c := by
    intro c hc
    have hall : "C++".toList.all Fence.tagChar.holds = true := by decide
    exact Fence.tagChar_holds_iff.1 (List.all_eq_true.1 hall c hc)
  have hindent : ∀ c ∈ " \t".toList, c = ' ' ∨ c = '\t' := by simp
  have hbefore : Fence.language? "x\n```\n" = none := by decide +kernel
  have hrest : ∀ c ∈ " py\n".toList.head?, ¬ Fence.IsTagChar c := by
    intro c hc
    obtain rfl : ' ' = c := Option.some.inj hc
    exact Fence.not_isTagChar_space
  obtain ⟨language, hfence, hservice, hlookup⟩ := @tag_means_one_language "x\n```\n" " \t" "C++" " py\n"
    (.inr (by decide)) hbefore hindent (by decide) hchars hrest
  obtain ⟨_, hdeclared⟩ := hservice {} Table.default none .plain rfl
  have hlanguage : language = "cpp" := by
    have h := hdeclared "" (by decide)
    have h' : (detect {} Table.default "" (some "C++") none).1 = .ok ⟨"cpp", labelFor "cpp" .plain, .declared⟩ := by
      exact detect_eq_ok_iff.2 ⟨.plain, rfl, by decide, by decide +kernel⟩
    exact congrArg Detection.language (Except.ok.inj (h.symm.trans h'))
  have hrule : ∃ r ∈ Table.default.rules, r.name = language := by
    rw [hlanguage]
    decide
  exact ⟨hchars, hbefore, language, fun t => hfence t .plain, hdeclared "import os" (by decide),
    (hlookup {} Table.default).1 hrule⟩

end Service

end SnippetLanguage
