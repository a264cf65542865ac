import SnippetLanguage.Proofs.Pattern.LineShape
import SnippetLanguage.Proofs.Text.Letters

/-!
# Words, padded content and blank lines

Parts that several signals are made of: words in any letter case, content with blanks around it (`derives_padded`,
`derives_padded_opt`) and blank lines (`derives_blankLines`).
-/

namespace SnippetLanguage

open Text

/-! ## Spelling -/

theorem forall_of_spells {word : String} {P : Char → Prop} {xs : List Char}
    (hP : ∀ c ∈ word.toList, ∀ x, sameLetter x c = true → P x) (h : Spells word xs) : ∀ x ∈ xs, P x := by
  unfold Spells at h
  generalize word.toList = cs at hP h
  induction h with
  | nil => simp
  | @cons x c xs cs hx _ ih =>
    intro y hy
    rcases List.mem_cons.1 hy with rfl | hy
    · exact hP c (by simp) y hx
    · exact ih (fun d hd => hP d (by simp [hd])) y hy

/-- Whether the characters of a word are visible in every letter case. -/
def isVisibleWord (word : String) : Bool := word.toList.all fun c => !isBlank (letterKey c)

/-- Whether the characters of a word are letters of the ASCII range. -/
def isLetterWord (word : String) : Bool := word.toList.all fun c => (letterKey c).toNat < 128 && (letterKey c).isAlpha

/-- Whether the characters of a word are signs of the ASCII range. -/
def isSignWord (word : String) : Bool := word.toList.all fun c => c.toNat < 128 && !c.isAlpha

theorem visible_of_spells {word : String} {xs : List Char} (hw : isVisibleWord word = true) (h : Spells word xs) :
    ∀ x ∈ xs, isBlank x = false := by
  refine forall_of_spells (fun c hc x hx => isBlank_of_sameLetter hx ?_) h
  simpa using List.all_eq_true.1 hw c hc

theorem isWord_of_spells {word : String} {xs : List Char} (hw : isLetterWord word = true) (h : Spells word xs) :
    ∀ x ∈ xs, isWord x = true := by
  refine forall_of_spells (fun c hc x hx => ?_) h
  have hc : (letterKey c).toNat < 128 ∧ (letterKey c).isAlpha = true := by simpa using List.all_eq_true.1 hw c hc
  exact isWord_of_sameLetter hx hc.1 hc.2

/-- Signs are spelled as they stand. -/
theorem spells_signs_iff {word : String} {xs : List Char} (hw : isSignWord word = true) :
    Spells word xs ↔ xs = word.toList := by
  unfold isSignWord at hw
  unfold Spells
  generalize word.toList = cs at hw
  induction cs generalizing xs with
  | nil => simp
  | cons c cs ih =>
    cases xs with
    | nil => simp
    | cons x xs =>
      rw [List.all_cons, Bool.and_eq_true] at hw
      have hc : c.toNat < 128 ∧ c.isAlpha = false := by simpa using hw.1
      rw [List.forall₂_cons, sameLetter_sign_iff hc.1 hc.2, ih hw.2, List.cons.injEq]

/-! ## Content between blanks -/

/-- Content on one line, visible at both ends. -/
def OnLine (xs : List Char) : Prop := VisibleEnds xs ∧ '\n' ∉ xs

/-- Content of the given kind with blanks before and after it. -/
def Padded (IsContent : List Char → Prop) (xs : List Char) : Prop :=
  ∃ lead content trail, xs = lead ++ content ++ trail ∧ lead ≠ [] ∧ Blanks lead ∧ trail ≠ [] ∧ Blanks trail ∧
    IsContent content

theorem notMem_of_blanks {xs : List Char} {c : Char} (h : Blanks xs) (hc : isBlank c = false) : c ∉ xs := by
  intro hm
  rw [h c hm] at hc
  cases hc

theorem visibleEnds_of_forall {xs : List Char} (hne : xs ≠ []) (h : ∀ x ∈ xs, isBlank x = false) : VisibleEnds xs :=
  ⟨⟨xs.head hne, List.head?_eq_some_head hne, h _ (List.head_mem hne)⟩,
    xs.getLast hne, List.getLast?_eq_some_getLast hne, h _ (List.getLast_mem hne)⟩

theorem not_blanks_append {lead ys rest : List Char} (h : VisibleEnds (ys ++ rest)) (hne : ys ≠ []) :
    ¬ Blanks (lead ++ ys) := by
  intro hb
  obtain ⟨⟨x, hx, hxb⟩, _⟩ := h
  obtain ⟨y, ys, rfl⟩ := List.exists_cons_of_ne_nil hne
  obtain rfl : y = x := Option.some.inj hx
  have := hb y (by simp)
  rw [hxb] at this
  cases this

/-- A visible slice of padded content that has something visible before it lies in the content. -/
theorem exists_content_split {lead content trail before head after : List Char} (hlead : Blanks lead)
    (htrail : Blanks trail) (h : lead ++ content ++ trail = before ++ head ++ after) (hhead : VisibleEnds head)
    (hbefore : ¬ Blanks before) :
    ∃ b a, b ≠ [] ∧ content = b ++ head ++ a ∧ before = lead ++ b ∧ after = a ++ trail := by
  obtain ⟨⟨x, hx, hxb⟩, y, hy, hyb⟩ := hhead
  obtain ⟨head₁, hhead₁⟩ := List.head?_eq_some_iff.1 hx
  obtain ⟨head₂, hhead₂⟩ := List.getLast?_eq_some_iff.1 hy
  have hfirst : lead ++ (content ++ trail) = before ++ x :: (head₁ ++ after) := by simpa [hhead₁] using h
  obtain ⟨b, hb, hrest⟩ := exists_of_append_eq_right hfirst (notMem_of_blanks hlead hxb)
  have hlast : content ++ trail = (b ++ head₂) ++ y :: after := by
    rw [hrest, ← List.cons_append, ← hhead₁, hhead₂]
    simp
  obtain ⟨a, hcontent, hafter⟩ := exists_of_append_eq_left hlast (notMem_of_blanks htrail hyb)
  refine ⟨b, a, ?_, ?_, hb, hafter⟩
  · intro hnil
    rw [hb, hnil, List.append_nil] at hbefore
    exact hbefore hlead
  · rw [hcontent, hhead₂]
    simp

namespace Pattern

variable {p : Pattern} {before xs after : List Char}

theorem derives_padded : (seq gap (seq p gap)).Derives before xs after ↔
    ∃ lead content trail, xs = lead ++ content ++ trail ∧ lead ≠ [] ∧ Blanks lead ∧ trail ≠ [] ∧ Blanks trail ∧
      p.Derives (lead.reverse ++ before) content (trail ++ after) := by
  constructor
  · intro h
    obtain ⟨lead, ys, rfl, hlead, h⟩ := derives_seq.1 h
    obtain ⟨content, trail, rfl, hcontent, htrail⟩ := derives_seq.1 h
    rw [derives_gap] at hlead htrail
    exact ⟨lead, content, trail, by simp, hlead.1, hlead.2, htrail.1, htrail.2, hcontent⟩
  · intro h
    obtain ⟨lead, content, trail, rfl, hlead, hleadb, htrail, htrailb, hcontent⟩ := h
    rw [List.append_assoc]
    refine derives_seq.2 ⟨lead, content ++ trail, rfl, derives_gap.2 ⟨hlead, hleadb⟩, ?_⟩
    exact derives_seq.2 ⟨content, trail, rfl, hcontent, derives_gap.2 ⟨htrail, htrailb⟩⟩

/-- Content that may be left out, when there are two blanks or more. -/
theorem derives_padded_opt : (seq (one .blank) (seq (opt (seq blanks p)) gap)).Derives before xs after ↔
    ∃ lead content trail, xs = lead ++ content ++ trail ∧ lead ≠ [] ∧ Blanks lead ∧ trail ≠ [] ∧ Blanks trail ∧
      (content = [] ∨ p.Derives (lead.reverse ++ before) content (trail ++ after)) := by
  constructor
  · intro h
    obtain ⟨b, ys, rfl, hb, h⟩ := derives_seq.1 h
    obtain ⟨b, rfl, hblank⟩ := derives_blank.1 hb
    obtain ⟨content, trail, rfl, hcontent, htrail⟩ := derives_seq.1 h
    rw [derives_gap] at htrail
    rcases derives_opt.1 hcontent with hcontent | rfl
    · obtain ⟨bs, content, rfl, hbs, hcontent⟩ := derives_seq.1 hcontent
      rw [derives_blanks] at hbs
      exact ⟨b :: bs, content, trail, by simp, by simp, blanks_cons_iff.2 ⟨hblank, hbs⟩, htrail.1, htrail.2,
        .inr (by simpa using hcontent)⟩
    · exact ⟨[b], [], trail, by simp, by simp, blanks_cons_iff.2 ⟨hblank, blanks_nil⟩, htrail.1, htrail.2, .inl rfl⟩
  · intro h
    obtain ⟨lead, content, trail, rfl, hlead, hleadb, htrail, htrailb, hcontent⟩ := h
    obtain ⟨b, bs, rfl⟩ := List.exists_cons_of_ne_nil hlead
    obtain ⟨hblank, hbs⟩ := blanks_cons_iff.1 hleadb
    have hb : (one .blank).Derives before [b] (bs ++ content ++ trail ++ after) :=
      derives_blank.2 ⟨b, rfl, hblank⟩
    refine derives_seq.2 ⟨[b], bs ++ content ++ trail, by simp, hb, ?_⟩
    rcases hcontent with rfl | hcontent
    · refine derives_seq.2 ⟨[], bs ++ trail, by simp, derives_opt.2 (.inr rfl), derives_gap.2 ⟨by simp [htrail], ?_⟩⟩
      exact blanks_append_iff.2 ⟨hbs, htrailb⟩
    · refine derives_seq.2 ⟨bs ++ content, trail, rfl, derives_opt.2 (.inl ?_), derives_gap.2 ⟨htrail, htrailb⟩⟩
      exact derives_seq.2 ⟨bs, content, rfl, derives_blanks.2 hbs, by simpa using hcontent⟩

/-- The content of a signature is read between the blanks around it. -/
theorem spans_content {p v o t : Pattern} : (seq p (.seq .gap (.seq v (.seq o (.seq .gap t))))).Spans =
    (seq p (.seq (.seq .gap (.seq (.seq v o) .gap)) t)).Spans := by
  refine spans_seq_congr rfl ?_
  rw [spans_seq_assoc]
  refine spans_seq_congr rfl ?_
  rw [spans_seq_assoc, spans_seq_assoc]

end Pattern

/-! ## Blank lines -/

/-- Blank lines up to and including the last line feed. -/
def BlankLines (xs : List Char) : Prop := Blanks xs ∧ ∀ c ∈ xs.getLast?, c = '\n'

theorem blankLines_nil : BlankLines [] := ⟨blanks_nil, fun _ h => nomatch h⟩

/-- The first line feed ends a blank line, and blank lines come after it. -/
theorem blankLines_append_iff {bs zs : List Char} : BlankLines (bs ++ '\n' :: zs) ↔ Blanks bs ∧ BlankLines zs := by
  have hlast : (bs ++ '\n' :: zs).getLast? = some (zs.getLast?.getD '\n') := by
    simp [List.getLast?_append, List.getLast?_cons]
  rw [BlankLines, blanks_append_iff, blanks_cons_iff, hlast]
  constructor
  · intro h
    obtain ⟨⟨hbs, _, hzs⟩, hl⟩ := h
    refine ⟨hbs, hzs, fun c hc => ?_⟩
    have := hl _ rfl
    rwa [Option.mem_def.1 hc] at this
  · intro h
    obtain ⟨hbs, hzs, hl⟩ := h
    refine ⟨⟨hbs, by decide, hzs⟩, fun c hc => ?_⟩
    obtain rfl := Option.some.inj hc
    cases hz : zs.getLast? with
    | none => rfl
    | some d => exact hl d hz

/-- Blanks before the rest of a line start with blank lines, up to the last line feed. -/
theorem exists_blankLines {bs rest : List Char} (hb : Blanks bs) (hrest : '\n' ∉ rest) :
    ∃ lines rest', bs ++ rest = lines ++ rest' ∧ BlankLines lines ∧ '\n' ∉ rest' := by
  induction bs with
  | nil => exact ⟨[], rest, rfl, blankLines_nil, hrest⟩
  | cons c bs ih =>
    obtain ⟨hc, hbs⟩ := blanks_cons_iff.1 hb
    obtain ⟨lines, rest', hsplit, hlines, hrest'⟩ := ih hbs
    by_cases hnl : lines = [] ∧ c ≠ '\n'
    · obtain ⟨rfl, hne⟩ := hnl
      exact ⟨[], c :: rest', by simpa using hsplit, blankLines_nil, by simp [hrest', Ne.symm hne]⟩
    · refine ⟨c :: lines, rest', by simp [hsplit], ⟨blanks_cons_iff.2 ⟨hc, hlines.1⟩, ?_⟩, hrest'⟩
      cases lines with
      | nil =>
        intro x hx
        obtain rfl : c = x := Option.some.inj hx
        by_contra hne
        exact hnl ⟨rfl, hne⟩
      | cons l lines => exact hlines.2

namespace Pattern

variable {before xs after : List Char}

theorem derives_blankLine : (seq (star (one .blankInLine)) (one (.char '\n'))).Derives before xs after ↔
    ∃ bs, xs = bs ++ ['\n'] ∧ Blanks bs ∧ '\n' ∉ bs := by
  have hclass : ∀ c, CharClass.blankInLine.holds c = true ↔ isBlank c = true ∧ c ≠ '\n' := by
    simp [CharClass.blankInLine, CharClass.holds]
  constructor
  · intro h
    obtain ⟨bs, ys, rfl, hbs, hy⟩ := derives_seq.1 h
    obtain ⟨c, rfl, hc⟩ := derives_one.1 hy
    obtain rfl : c = '\n' := beq_iff_eq.1 hc
    rw [derives_star_one] at hbs
    exact ⟨bs, rfl, fun x hx => ((hclass x).1 (hbs x hx)).1, fun hm => ((hclass _).1 (hbs _ hm)).2 rfl⟩
  · intro h
    obtain ⟨bs, rfl, hbs, hnl⟩ := h
    refine derives_seq.2 ⟨bs, ['\n'], rfl, derives_star_one.2 fun x hx => (hclass x).2 ⟨hbs x hx, ?_⟩, ?_⟩
    · intro he
      exact hnl (he ▸ hx)
    · exact derives_one.2 ⟨'\n', rfl, beq_self_eq_true _⟩

theorem derives_blankLines :
    (star (seq (star (one .blankInLine)) (one (.char '\n')))).Derives before xs after ↔ BlankLines xs := by
  induction hn : xs.length using Nat.strongRecOn generalizing before xs with
  | ind n ih =>
    constructor
    · intro h
      rcases derives_star_iff.1 h with rfl | ⟨ys, zs, hne, rfl, hy, hz⟩
      · exact blankLines_nil
      · obtain ⟨bs, rfl, hbs, _⟩ := derives_blankLine.1 hy
        have hzs := (ih zs.length (by rw [← hn]; simp; omega) rfl).1 hz
        rw [List.append_assoc]
        exact blankLines_append_iff.2 ⟨hbs, hzs⟩
    · intro h
      rcases List.eq_nil_or_concat' xs with rfl | ⟨xs', c, rfl⟩
      · exact derives_star_nil
      · -- the first line feed ends the first line
        have hnl : '\n' ∈ xs' ++ [c] := by
          have := h.2 c (by simp)
          simp [this]
        obtain ⟨bs, zs, hsplit, hnone⟩ := List.eq_append_cons_of_mem hnl
        rw [hsplit] at h hn ⊢
        obtain ⟨hbs, hzs⟩ := blankLines_append_iff.1 h
        have hline : (seq (star (one .blankInLine)) (one (.char '\n'))).Derives before (bs ++ ['\n']) (zs ++ after) :=
          derives_blankLine.2 ⟨bs, rfl, hbs, hnone⟩
        have := derives_star_append hline ((ih zs.length (by rw [← hn]; simp; omega) rfl).2 hzs)
        simpa using this

end Pattern

end SnippetLanguage
