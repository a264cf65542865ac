import SnippetLanguage.Fence
import SnippetLanguage.Proofs.Pattern.Backtrack
import SnippetLanguage.Proofs.Pattern.Slice
import SnippetLanguage.Text.Split

/-!
# Fences line by line

`Fence.language?` searches the whole text for the start of a tagged fence. Read line by line, the language is that of
the first line that is a tagged fence (`Tagged`): spaces and tabs, three backticks, and the tag right after them. The
two readings agree on every text (`language?_eq_languageByLines`).

The proof goes through the text line by line: a fence starts at the start of a line exactly when the line is tagged
(`starts_head_iff`), and none starts inside a line (`noStartBefore_nextLine`).
-/

namespace SnippetLanguage.Fence

open Text

/-- The characters of a tag: word characters and four marks. -/
def IsTagChar (c : Char) : Prop := isWord c = true ∨ c ∈ ['+', '#', '.', '-']

/-- A line that is a tagged fence: spaces and tabs, three backticks and then the tag, up to the first character that is
no tag character. -/
def Tagged (line tag : List Char) : Prop :=
  ∃ indentation rest, line = indentation ++ marks ++ tag ++ rest ∧ (∀ c ∈ indentation, c = ' ' ∨ c = '\t') ∧
    tag ≠ [] ∧ (∀ c ∈ tag, IsTagChar c) ∧ ∀ c ∈ rest.head?, ¬ IsTagChar c

/-- The tag of a line, if it is a tagged fence. -/
def lineTag? (line : List Char) : Option (List Char) :=
  let body := line.dropWhile fun c => c == ' ' || c == '\t'
  let tag := (body.drop 3).takeWhile fun c => isWord c || c ∈ ['+', '#', '.', '-']
  if marks <+: body ∧ tag ≠ [] then some tag else none

/-- The tag of the first line of a text that is a tagged fence. -/
def FirstTag (text : String) (tag : List Char) : Prop :=
  ∃ before line after, splitAtChar '\n' text.toList = before ++ line :: after ∧ (∀ l ∈ before, ¬ ∃ t, Tagged l t) ∧
    Tagged line tag

/-- The language that the first tagged line of a text declares. -/
def languageByLines (text : String) : Option String :=
  ((splitAtChar '\n' text.toList).findSome? lineTag?).map fun tag => canonicalName (String.ofList tag)

/-! ## Classes of characters -/

theorem indent_holds_iff {c : Char} : indent.holds c = true ↔ c = ' ' ∨ c = '\t' := by
  simp [indent, CharClass.holds]

theorem tagChar_holds_iff {c : Char} : tagChar.holds c = true ↔ IsTagChar c := by
  simp [tagChar, CharClass.holds, IsTagChar, or_assoc]

theorem not_isTagChar_newline : ¬ IsTagChar '\n' := by
  rw [← tagChar_holds_iff]
  decide

theorem not_isTagChar_mark : ¬ IsTagChar '\x60' := by
  rw [← tagChar_holds_iff]
  decide

theorem not_isTagChar_space : ¬ IsTagChar ' ' := by
  rw [← tagChar_holds_iff]
  decide

/-! ## The tag of a line -/

theorem tagAt_eq (line : List Char) :
    tagAt line = ((line.dropWhile fun c => c == ' ' || c == '\t').drop 3).takeWhile
      fun c => isWord c || c ∈ ['+', '#', '.', '-'] := by
  have htag : tagChar.holds = fun c => isWord c || decide (c ∈ ['+', '#', '.', '-']) := by
    funext c
    rw [Bool.eq_iff_iff, tagChar_holds_iff]
    simp [IsTagChar]
  rw [tagAt, htag]
  rfl

theorem tagAt_of_lineTag?_eq_some {line tag : List Char} (h : lineTag? line = some tag) : tagAt line = tag := by
  unfold lineTag? at h
  dsimp only at h
  split at h
  · rw [tagAt_eq]
    exact Option.some.inj h
  · cases h

/-- What is left of a line behind characters of a class. -/
theorem dropWhile_append_eq {p : Char → Bool} {xs rest : List Char} (hxs : ∀ c ∈ xs, p c = true)
    (hrest : ∀ c ∈ rest.head?, p c = false) : (xs ++ rest).dropWhile p = rest := by
  rw [List.dropWhile_append_of_pos hxs]
  cases rest with
  | nil => rfl
  | cons c rest => exact List.dropWhile_cons_of_neg (by simp [hrest c rfl])

theorem takeWhile_append_eq {p : Char → Bool} {xs rest : List Char} (hxs : ∀ c ∈ xs, p c = true)
    (hrest : ∀ c ∈ rest.head?, p c = false) : (xs ++ rest).takeWhile p = xs := by
  rw [List.takeWhile_append_of_pos hxs]
  cases rest with
  | nil => simp
  | cons c rest => simp [hrest c rfl]

/-- The characters that end a run of a class are not of the class. -/
theorem head?_dropWhile_eq {p : Char → Bool} {xs : List Char} {c : Char} (h : c ∈ (xs.dropWhile p).head?) :
    p c = false := by
  have := List.head?_dropWhile_not p xs
  rw [Option.mem_def.1 h] at this
  simpa using this

theorem lineTag?_eq_some_iff {line tag : List Char} : lineTag? line = some tag ↔ Tagged line tag := by
  have hclass : ∀ c, (isWord c || decide (c ∈ ['+', '#', '.', '-'])) = true ↔ IsTagChar c := by
    intro c
    simp [IsTagChar]
  constructor
  · intro h
    unfold lineTag? at h
    dsimp only at h
    split at h
    · rename_i hbody
      obtain ⟨⟨body, hb⟩, hne⟩ := hbody
      have hdrop : (line.dropWhile fun c => c == ' ' || c == '\t').drop 3 = body := by
        rw [← hb]
        rfl
      rw [hdrop] at h hne
      have htag := Option.some.inj h
      refine ⟨line.takeWhile fun c => c == ' ' || c == '\t',
        body.dropWhile fun c => isWord c || c ∈ ['+', '#', '.', '-'], ?_, ?_, htag ▸ hne, ?_, ?_⟩
      · rw [← htag, List.append_assoc, List.append_assoc, List.takeWhile_append_dropWhile, hb,
          List.takeWhile_append_dropWhile]
      · intro c hc
        simpa using List.all_eq_true.1 List.all_takeWhile c hc
      · intro c hc
        rw [← htag] at hc
        exact (hclass c).1 (List.all_eq_true.1 List.all_takeWhile c hc)
      · intro c hc ht
        rw [← hclass, head?_dropWhile_eq hc] at ht
        cases ht
    · cases h
  · intro h
    obtain ⟨indentation, rest, rfl, hindent, hne, htag, hrest⟩ := h
    have hbody : (indentation ++ marks ++ tag ++ rest).dropWhile (fun c => c == ' ' || c == '\t') =
        marks ++ (tag ++ rest) := by
      rw [List.append_assoc, List.append_assoc]
      refine dropWhile_append_eq (fun c hc => by simpa using hindent c hc) fun c hc => ?_
      obtain rfl : '\x60' = c := Option.some.inj hc
      rfl
    have hrun : (tag ++ rest).takeWhile (fun c => isWord c || c ∈ ['+', '#', '.', '-']) = tag := by
      refine takeWhile_append_eq (fun c hc => (hclass c).2 (htag c hc)) fun c hc => ?_
      rw [← Bool.not_eq_true, hclass]
      exact hrest c hc
    unfold lineTag?
    dsimp only
    rw [hbody, show (marks ++ (tag ++ rest)).drop 3 = tag ++ rest from rfl, hrun]
    exact if_pos ⟨List.prefix_append _ _, hne⟩

/-- A character that belongs to no part of a fence. -/
def OutsideFence (c : Char) : Prop := c ≠ ' ' ∧ c ≠ '\t' ∧ c ∉ marks ∧ ¬ IsTagChar c

theorem outsideFence_newline : OutsideFence '\n' := ⟨by decide, by decide, by decide, not_isTagChar_newline⟩

theorem notMem_of_outsideFence {indentation tag : List Char} {d : Char} (hd : OutsideFence d)
    (hindent : ∀ c ∈ indentation, c = ' ' ∨ c = '\t') (htag : ∀ c ∈ tag, IsTagChar c) :
    d ∉ indentation ++ marks ++ tag := by
  obtain ⟨hspace, htab, hmark, hchar⟩ := hd
  intro h
  rcases List.mem_append.1 h with h | h
  · rcases List.mem_append.1 h with h | h
    · exact (hindent _ h).elim hspace htab
    · exact hmark h
  · exact hchar (htag _ h)

/-- What comes behind a character that belongs to no part of a fence does not change the tag of a line. -/
theorem lineTag?_append_outside {line rest : List Char} {d : Char} (hd : OutsideFence d) :
    lineTag? (line ++ d :: rest) = lineTag? line := by
  apply Option.ext
  intro tag
  rw [lineTag?_eq_some_iff, lineTag?_eq_some_iff]
  constructor
  · intro h
    obtain ⟨indentation, tail, hline, hindent, hne, htag, htail⟩ := h
    have hnone := notMem_of_outsideFence hd hindent htag
    rcases List.append_eq_append_iff.1 hline with ⟨xs, hx, hrest⟩ | ⟨xs, hx, hrest⟩
    · cases xs with
      | nil => exact ⟨indentation, [], by simpa using hx.symm, hindent, hne, htag, by simp⟩
      | cons x xs =>
        obtain ⟨rfl, _⟩ := List.cons.inj hrest
        exact absurd (by rw [hx]; simp) hnone
    · refine ⟨indentation, xs, hx, hindent, hne, htag, fun c hc => htail c ?_⟩
      cases xs with
      | nil => cases hc
      | cons x xs => rw [hrest]; exact hc
  · intro h
    obtain ⟨indentation, tail, rfl, hindent, hne, htag, htail⟩ := h
    refine ⟨indentation, tail ++ d :: rest, by simp, hindent, hne, htag, fun c hc => ?_⟩
    cases tail with
    | nil =>
      obtain rfl : d = c := Option.some.inj hc
      exact hd.2.2.2
    | cons e tail => exact htail c hc

/-! ## Where a fence starts -/

/-- A fence starts at the start of a line that has a tag, and nowhere else. -/
theorem starts_head_iff {before after : List Char} :
    head.Starts ⟨before, after⟩ ↔ Place.atLineStart before = true ∧ ∃ tag, Tagged after tag := by
  rw [Pattern.starts_iff]
  constructor
  · intro h
    obtain ⟨xs, rest, rfl, h⟩ := h
    obtain ⟨_, xs, rfl, hline, h⟩ := Pattern.derives_seq.1 h
    obtain ⟨rfl, hstart⟩ := Pattern.derives_lineStart.1 hline
    obtain ⟨indentation, xs, rfl, hindent, h⟩ := Pattern.derives_seq.1 h
    obtain ⟨ms, xs, rfl, hms, h⟩ := Pattern.derives_seq.1 h
    obtain ⟨c, rfl, hc⟩ := Pattern.derives_one.1 h
    rw [Pattern.derives_star_one] at hindent
    rw [Pattern.derives_exactText, String.toList_ofList] at hms
    subst hms
    refine ⟨hstart, c :: rest.takeWhile tagChar.holds, indentation, rest.dropWhile tagChar.holds, ?_, ?_, ?_, ?_, ?_⟩
    · simp [List.takeWhile_append_dropWhile]
    · exact fun x hx => indent_holds_iff.1 (hindent x hx)
    · simp
    · intro x hx
      rcases List.mem_cons.1 hx with rfl | hx
      · exact tagChar_holds_iff.1 hc
      · exact tagChar_holds_iff.1 (List.all_eq_true.1 List.all_takeWhile x hx)
    · intro x hx
      rw [← tagChar_holds_iff, head?_dropWhile_eq hx]
      simp
  · intro h
    obtain ⟨hstart, tag, indentation, rest, rfl, hindent, hne, htag, _⟩ := h
    cases tag with
    | nil => exact absurd rfl hne
    | cons c tag =>
      refine ⟨indentation ++ (marks ++ [c]), tag ++ rest, by simp, ?_⟩
      refine Pattern.derives_seq.2 ⟨[], _, rfl, Pattern.derives_lineStart.2 ⟨rfl, hstart⟩, ?_⟩
      refine Pattern.derives_seq.2 ⟨indentation, _, rfl, Pattern.derives_star_one.2 ?_, ?_⟩
      · exact fun x hx => indent_holds_iff.2 (hindent x hx)
      refine Pattern.derives_seq.2 ⟨marks, [c], rfl, Pattern.derives_exactText.2 String.toList_ofList.symm, ?_⟩
      exact Pattern.derives_one.2 ⟨c, rfl, tagChar_holds_iff.2 (htag c (by simp))⟩

/-- Inside a line no fence starts: when none starts up to the start of a line without a tag, none starts on the line. -/
theorem noStartBefore_nextLine {text before line rest : List Char} {n : Nat}
    (htext : text = before.reverse ++ line ++ rest) (hn : n ≤ before.length + line.length) (hline : '\n' ∉ line)
    (hnone : ¬ ∃ tag, Tagged (line ++ rest) tag) (hbefore : head.NoStartBefore text before.length) :
    head.NoStartBefore text (n + 1) := by
  intro w hw hlt hs
  by_cases hlt' : w.before.length < before.length
  · exact hbefore w hw hlt' hs
  -- the place is behind the first `k` characters of the line
  obtain ⟨k, hk⟩ := Nat.exists_eq_add_of_le (Nat.le_of_not_lt hlt')
  have hplace : w = ⟨(line.take k).reverse ++ before, line.drop k ++ rest⟩ := by
    refine Pattern.place_eq_of_text ?_ ?_
    · have hsplit : line.take k ++ (line.drop k ++ rest) = line ++ rest := by
        rw [← List.append_assoc, List.take_append_drop]
      rw [hw, htext]
      simp [Place.text, hsplit]
    · simp only [List.length_append, List.length_reverse, List.length_take]
      omega
  rw [hplace, starts_head_iff] at hs
  cases k with
  | zero => exact hnone hs.2
  | succ k =>
    have hk' : k < line.length := by omega
    rw [List.take_succ_eq_append_getElem hk', List.reverse_append] at hs
    have hmem := List.getElem_mem hk'
    rw [beq_iff_eq.1 hs.1] at hmem
    exact hline hmem

/-! ## Going through the lines -/

theorem splitAtChar_of_notMem {sep : Char} {line : List Char} (h : sep ∉ line) : splitAtChar sep line = [line] := by
  rw [splitAtChar_eq_splitOn]
  exact List.splitOn_eq_singleton h

/-- A text is one line, or a line, a line feed and the lines after it. -/
theorem exists_first_line (text : List Char) :
    ∃ line, '\n' ∉ line ∧ (text = line ∨ ∃ rest, text = line ++ '\n' :: rest) := by
  induction text with
  | nil => exact ⟨[], by simp, .inl rfl⟩
  | cons c text ih =>
    by_cases hc : c = '\n'
    · exact ⟨[], by simp, .inr ⟨text, by simp [hc]⟩⟩
    · obtain ⟨line, hline, htext⟩ := ih
      refine ⟨c :: line, by simp [Ne.symm hc, hline], ?_⟩
      rcases htext with rfl | ⟨rest, rfl⟩
      · exact .inl rfl
      · exact .inr ⟨rest, rfl⟩

/-- The tag that the search finds from the start of a line on, when no fence starts before it. -/
theorem find?_eq_findSome?_lineTag? {before after : List Char} (hstart : Place.atLineStart before = true)
    (hbefore : head.NoStartBefore (before.reverse ++ after) before.length) :
    (head.find? (before.reverse ++ after)).map (fun u => tagAt u.after) =
      (splitAtChar '\n' after).findSome? lineTag? := by
  induction hlen : after.length using Nat.strongRecOn generalizing before after with
  | ind n ih =>
    -- a tag right here is the first one
    have hhere : ∀ tag, lineTag? after = some tag →
        (head.find? (before.reverse ++ after)).map (fun u => tagAt u.after) = some tag := by
      intro tag htag
      have hst : head.Starts ⟨before, after⟩ := starts_head_iff.2 ⟨hstart, tag, lineTag?_eq_some_iff.1 htag⟩
      have hfind : head.find? (before.reverse ++ after) = some ⟨before, after⟩ :=
        Pattern.find?_eq_some_iff.2 ⟨rfl, hst, hbefore⟩
      rw [hfind, Option.map_some, tagAt_of_lineTag?_eq_some htag]
    obtain ⟨line, hline, htext⟩ := exists_first_line after
    cases htag : lineTag? after with
    | some tag =>
      rw [hhere tag htag]
      rcases htext with rfl | ⟨rest, rfl⟩
      · rw [splitAtChar_of_notMem hline, List.findSome?_cons, htag]
      · rw [lineTag?_append_outside outsideFence_newline] at htag
        rw [splitAtChar_append_cons, splitAtChar_of_notMem hline, List.singleton_append, List.findSome?_cons, htag]
    | none =>
      have hnone : ¬ ∃ tag, Tagged after tag := by
        intro h
        obtain ⟨tag, ht⟩ := h
        rw [← lineTag?_eq_some_iff, htag] at ht
        cases ht
      rcases htext with rfl | ⟨rest, rfl⟩
      · -- the last line: no fence starts to its end
        have hno : head.NoStartBefore (before.reverse ++ after) (before.length + after.length + 1) :=
          @noStartBefore_nextLine _ before after [] _ (by simp) (Nat.le_refl _) hline (by simpa using hnone) hbefore
        have hfind : head.find? (before.reverse ++ after) = none := by
          rw [Option.eq_none_iff_forall_ne_some]
          intro u hu
          obtain ⟨ht, hs, _⟩ := Pattern.find?_eq_some_iff.1 hu
          have hl := congrArg List.length ht
          simp only [Place.text, List.length_append, List.length_reverse] at hl
          exact hno u ht (by omega) hs
        rw [hfind, splitAtChar_of_notMem hline, List.findSome?_cons, htag]
        rfl
      · -- the next line starts behind the line feed
        have htext : before.reverse ++ (line ++ '\n' :: rest) = ('\n' :: (line.reverse ++ before)).reverse ++ rest := by
          simp
        have hno := noStartBefore_nextLine (by simp) (Nat.le_refl _) hline hnone hbefore
        rw [lineTag?_append_outside outsideFence_newline] at htag
        rw [splitAtChar_append_cons, splitAtChar_of_notMem hline, List.singleton_append, List.findSome?_cons, htag,
          htext]
        refine ih rest.length (by rw [← hlen]; simp; omega) rfl ?_ rfl
        rw [← htext]
        simpa [Nat.add_comm] using hno

/-! ## The language of a text -/

/-- Where the backticks are followed by something else than a tag character, the line is no tagged fence. -/
theorem not_tagged_of_not_isTagChar {indentation rest tag : List Char} {c : Char}
    (hindent : ∀ c ∈ indentation, c = ' ' ∨ c = '\t') (hc : ¬ IsTagChar c) :
    ¬ Tagged (indentation ++ marks ++ c :: rest) tag := by
  intro h
  have htag := tagAt_of_lineTag?_eq_some (lineTag?_eq_some_iff.2 h)
  have hbody : (indentation ++ marks ++ c :: rest).dropWhile indent.holds = marks ++ c :: rest := by
    rw [List.append_assoc]
    refine dropWhile_append_eq (fun x hx => indent_holds_iff.2 (hindent x hx)) fun x hx => ?_
    obtain rfl : '\x60' = x := Option.some.inj hx
    decide
  have hstop : tagChar.holds c = false := Bool.eq_false_iff.2 fun ht => hc (tagChar_holds_iff.1 ht)
  have hrun : (c :: rest).takeWhile tagChar.holds = [] := by rw [List.takeWhile_cons, hstop, if_neg Bool.false_ne_true]
  rw [tagAt, hbody, List.drop_left, hrun] at htag
  obtain ⟨_, _, _, _, hne, _⟩ := h
  exact hne htag.symm

theorem languageByLines_eq_some_iff {text : String} {language : String} : languageByLines text = some language ↔
    ∃ tag, FirstTag text tag ∧ canonicalName (String.ofList tag) = language := by
  have hnone : ∀ l, lineTag? l = none ↔ ¬ ∃ t, Tagged l t := by
    intro l
    simp only [Option.eq_none_iff_forall_ne_some, Ne, lineTag?_eq_some_iff, not_exists]
  have hfirst : ∀ tag, (splitAtChar '\n' text.toList).findSome? lineTag? = some tag ↔ FirstTag text tag := by
    intro tag
    simp only [List.findSome?_eq_some_iff, hnone, lineTag?_eq_some_iff, FirstTag]
    constructor
    · intro h
      obtain ⟨before, line, after, hlines, htag, hbefore⟩ := h
      exact ⟨before, line, after, hlines, hbefore, htag⟩
    · intro h
      obtain ⟨before, line, after, hlines, hbefore, htag⟩ := h
      exact ⟨before, line, after, hlines, htag, hbefore⟩
  rw [languageByLines, Option.map_eq_some_iff]
  simp only [hfirst]

theorem languageByLines_eq_none_iff {text : String} : languageByLines text = none ↔
    ∀ line ∈ splitAtChar '\n' text.toList, ¬ ∃ tag, Tagged line tag := by
  rw [languageByLines, Option.map_eq_none_iff, List.findSome?_eq_none_iff]
  simp only [Option.eq_none_iff_forall_ne_some, Ne, lineTag?_eq_some_iff, not_exists]

/-- **The language of a text is the one that its first tagged line declares**, and there is none exactly when no line is
tagged. A fence of more backticks and one with a space before the tag are no tagged fences. -/
theorem language?_eq_languageByLines (text : String) :
    language? text = languageByLines text ∧
      (∀ language, language? text = some language ↔
        ∃ tag, FirstTag text tag ∧ canonicalName (String.ofList tag) = language) ∧
      (language? text = none ↔ ∀ line ∈ splitAtChar '\n' text.toList, ¬ ∃ tag, Tagged line tag) ∧
      ¬ ∃ indentation c rest tag, (∀ x ∈ indentation, x = ' ' ∨ x = '\t') ∧ (c = '\x60' ∨ c = ' ') ∧
        Tagged (indentation ++ marks ++ c :: rest) tag := by
  have heq : language? text = languageByLines text := by
    have h := @find?_eq_findSome?_lineTag? [] text.toList rfl fun _ _ hlt => absurd hlt (Nat.not_lt_zero _)
    rw [List.reverse_nil, List.nil_append] at h
    rw [language?, fence?, languageByLines, ← h, Option.map_map]
    simp only [Function.comp_def]
  refine ⟨heq, fun language => ?_, ?_, ?_⟩
  · rw [heq]
    exact languageByLines_eq_some_iff
  · rw [heq]
    exact languageByLines_eq_none_iff
  · intro h
    obtain ⟨indentation, c, rest, tag, hindent, hc, htag⟩ := h
    refine not_tagged_of_not_isTagChar hindent ?_ htag
    rcases hc with rfl | rfl
    · exact not_isTagChar_mark
    · exact not_isTagChar_space

end SnippetLanguage.Fence
