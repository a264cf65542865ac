import SnippetLanguage.Proofs.Fence.Lines
import SnippetLanguage.Proofs.Text.LineEnding

/-!
# Fences and the layout of a text

The language that a text declares is decided by the tag of its first tagged line (`language?_eq_map_firstTag?`). The
tag of a line depends neither on more spaces and tabs before it nor on a carriage return behind it, and lines without a
tag at the start of the text change nothing (`firstTag?_append_lines`). So the language is the same behind spaces, tabs
and line feeds (`language?_append_layout`) and with the other line ending (`language?_crlf`).
-/

namespace SnippetLanguage.Fence

open Text

/-- The first tag of the lines of a text. -/
def firstTag? (text : List Char) : Option (List Char) := (splitAtChar '\n' text).findSome? lineTag?

theorem firstTag?_of_notMem {line : List Char} (h : '\n' ∉ line) : firstTag? line = lineTag? line := by
  rw [firstTag?, splitAtChar_of_notMem h, List.findSome?_singleton]

theorem firstTag?_append_newline {line : List Char} (h : '\n' ∉ line) (rest : List Char) :
    firstTag? (line ++ '\n' :: rest) = (lineTag? line).or (firstTag? rest) := by
  rw [firstTag?, firstTag?, splitAtChar_append_cons, splitAtChar_of_notMem h, List.singleton_append, List.findSome?_cons]
  cases lineTag? line <;> rfl

/-- The first tagged line declares the language of a text. -/
theorem language?_eq_map_firstTag? (text : String) :
    language? text = (firstTag? text.toList).map fun tag => canonicalName (String.ofList tag) := by
  have h := @find?_eq_findSome?_lineTag? [] text.toList rfl fun _ _ hlt => absurd hlt (Nat.not_lt_zero _)
  rw [List.reverse_nil, List.nil_append] at h
  rw [language?, fence?, firstTag?, ← h, Option.map_map]
  simp only [Function.comp_def]

/-! ## Before the text -/

theorem lineTag?_cons_of_indent {c : Char} (hc : c = ' ' ∨ c = '\t') (line : List Char) :
    lineTag? (c :: line) = lineTag? line := by
  have hbody : (c :: line).dropWhile (fun c => c == ' ' || c == '\t') =
      line.dropWhile fun c => c == ' ' || c == '\t' := List.dropWhile_cons_of_pos (by simpa using hc)
  rw [lineTag?, lineTag?, hbody]

theorem firstTag?_cons_of_indent {c : Char} (hc : c = ' ' ∨ c = '\t') (text : List Char) :
    firstTag? (c :: text) = firstTag? text := by
  have hne : '\n' ≠ c := by
    rintro rfl
    revert hc
    decide
  obtain ⟨line, hline, htext⟩ := exists_first_line text
  have hline' : '\n' ∉ c :: line := by
    rw [List.mem_cons, not_or]
    exact ⟨hne, hline⟩
  rcases htext with rfl | ⟨rest, rfl⟩
  · rw [firstTag?_of_notMem hline', firstTag?_of_notMem hline, lineTag?_cons_of_indent hc]
  · rw [← List.cons_append, firstTag?_append_newline hline', firstTag?_append_newline hline, lineTag?_cons_of_indent hc]

theorem firstTag?_cons_newline (text : List Char) : firstTag? ('\n' :: text) = firstTag? text := by
  have h := @firstTag?_append_newline [] (by simp) text
  rw [List.nil_append] at h
  rw [h, show lineTag? [] = none by decide, Option.none_or]

theorem firstTag?_append_layout {lead : List Char} (h : ∀ c ∈ lead, c = ' ' ∨ c = '\t' ∨ c = '\n')
    (text : List Char) : firstTag? (lead ++ text) = firstTag? text := by
  induction lead with
  | nil => rfl
  | cons c lead ih =>
    have ih := ih fun x hx => h x (List.mem_cons_of_mem c hx)
    rw [List.cons_append]
    rcases or_assoc.2 (h c List.mem_cons_self) with hc | rfl
    · rw [firstTag?_cons_of_indent hc, ih]
    · rw [firstTag?_cons_newline, ih]

/-- A text that starts with a tagged line has the tag of this line. -/
theorem firstTag?_of_tagged {text tag : List Char} (h : Tagged text tag) : firstTag? text = some tag := by
  have htag := lineTag?_eq_some_iff.2 h
  obtain ⟨line, hline, htext⟩ := exists_first_line text
  rcases htext with rfl | ⟨rest, rfl⟩
  · rw [firstTag?_of_notMem hline, htag]
  · rw [lineTag?_append_outside outsideFence_newline] at htag
    rw [firstTag?_append_newline hline, htag, Option.some_or]

/-- Whole lines without a tag before a text do not change its first tag. -/
theorem firstTag?_append_lines {lines : List Char} (hend : lines = [] ∨ lines.getLast? = some '\n')
    (hnone : firstTag? lines = none) (text : List Char) : firstTag? (lines ++ text) = firstTag? text := by
  rcases hend with rfl | hend
  · rfl
  · obtain ⟨front, rfl⟩ := List.getLast?_eq_some_iff.1 hend
    rw [firstTag?, splitAtChar_append_cons, List.findSome?_append, Option.or_eq_none_iff] at hnone
    rw [List.append_assoc, List.singleton_append, firstTag?, splitAtChar_append_cons, List.findSome?_append, hnone.1,
      Option.none_or, firstTag?]

/-- **Spaces, tabs and line feeds before a text do not change the language that it declares.** -/
theorem language?_append_layout {lead : String} (h : ∀ c ∈ lead.toList, c = ' ' ∨ c = '\t' ∨ c = '\n')
    (text : String) : language? (lead ++ text) = language? text := by
  rw [language?_eq_map_firstTag?, language?_eq_map_firstTag?, String.toList_append, firstTag?_append_layout h]

/-! ## Line endings -/

theorem outsideFence_carriageReturn : OutsideFence '\r' := by
  refine ⟨by decide, by decide, by decide, ?_⟩
  rw [← tagChar_holds_iff]
  decide

theorem firstTag?_crlf (text : List Char) : firstTag? (crlf text) = firstTag? text := by
  induction hlen : text.length using Nat.strongRecOn generalizing text with
  | ind n ih =>
    obtain ⟨line, hline, htext⟩ := exists_first_line text
    rcases htext with rfl | ⟨rest, rfl⟩
    · rw [crlf_eq_self hline]
    · have hline' : '\n' ∉ line ++ ['\r'] := by simp [hline]
      have hcrlf : crlf (line ++ '\n' :: rest) = (line ++ ['\r']) ++ '\n' :: crlf rest := by
        rw [crlf_append, crlf_eq_self hline, crlf_newline, List.append_assoc]
        rfl
      have hrest : firstTag? (crlf rest) = firstTag? rest := by
        refine ih rest.length ?_ rest rfl
        rw [← hlen, List.length_append, List.length_cons]
        omega
      rw [hcrlf, firstTag?_append_newline hline', lineTag?_append_outside outsideFence_carriageReturn, hrest,
        firstTag?_append_newline hline]

/-- **A carriage return before every line feed does not change the language that a text declares.** -/
theorem language?_crlf (text : String) : language? (String.ofList (crlf text.toList)) = language? text := by
  rw [language?_eq_map_firstTag?, language?_eq_map_firstTag?, String.toList_ofList, firstTag?_crlf]

end SnippetLanguage.Fence
