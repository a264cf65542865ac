import SnippetLanguage.Proofs.Rule.HeadGuard
import SnippetLanguage.Proofs.Text.LineEnding

/-!
# Heads, gaps and tails with other line endings

A shape is `Steady` when a carriage return before every line feed makes no difference to its heads, its tails and where
a head is noticed, and leaves its gaps gaps. The readings of a text are then readings of the text with carriage returns,
and no more of them are cut off (`exists_reading_crlf`). Where what is a gap with carriage returns is a gap without them,
the readings go back to the text as well (`exists_reading_of_crlf`).

All five shapes are steady (`steady_shape`). The gap of a condition does not go back: it needs two blanks, and a single
line feed becomes two.
-/

namespace SnippetLanguage

open Text

namespace LineShape

/-- Whether a shape is the same in a text and in the text with carriage returns, but for gaps of the longer text. -/
structure Steady (S : LineShape) : Prop where
  isHead_crlf : ∀ {xs}, S.IsHead (crlf xs) ↔ S.IsHead xs
  isTail_crlf : ∀ {xs}, S.IsTail (crlf xs) ↔ S.IsTail xs
  visible_head : ∀ {xs}, S.IsHead xs → VisibleEnds xs
  visible_tail : ∀ {xs}, S.IsTail xs → VisibleEnds xs
  noticed_crlf : ∀ {before after}, S.Noticed (crlf before) (crlf after) ↔ S.Noticed before after
  isGap_crlf : ∀ {xs}, S.IsGap xs → S.IsGap (crlf xs)

/-! ## Readings -/

namespace Steady

variable {S : LineShape} {text gap before after : List Char}

theorem reads_crlf (hS : S.Steady) (h : S.Reads text gap) : S.Reads (crlf text) (crlf gap) := by
  obtain ⟨pre, head, tail, post, rfl, hhead, hgap, htail⟩ := h
  refine ⟨crlf pre, crlf head, crlf tail, crlf post, ?_, hS.isHead_crlf.2 hhead, hS.isGap_crlf hgap,
    hS.isTail_crlf.2 htail⟩
  simp only [crlf_append]

theorem exists_reads_of_crlf (hS : S.Steady) (hback : ∀ xs, S.IsGap (crlf xs) → S.IsGap xs)
    (h : S.Reads (crlf text) after) : ∃ gap, crlf gap = after ∧ S.Reads text gap := by
  obtain ⟨pre, head, tail, post, htext, hhead, hgap, htail⟩ := h
  obtain ⟨front, tail, post, rfl, hfront, rfl, _⟩ := exists_split_of_crlf_eq htext (hS.visible_tail htail)
  obtain ⟨pre, head, gap, rfl, _, rfl, rfl⟩ := exists_split_of_crlf_eq hfront (hS.visible_head hhead)
  exact ⟨gap, rfl, pre, head, tail, post, rfl, hS.isHead_crlf.1 hhead, hback gap hgap, hS.isTail_crlf.1 htail⟩

theorem laterHead_crlf (hS : S.Steady) (h : S.LaterHead gap before after) :
    S.LaterHead (crlf gap) (crlf before) (crlf after) := by
  obtain ⟨head, rfl, hhead, hnoticed⟩ := h
  refine ⟨crlf head, ?_, hS.isHead_crlf.2 hhead, hS.noticed_crlf.2 hnoticed⟩
  simp only [crlf_append]

theorem exists_laterHead_of_crlf (hS : S.Steady) (h : S.LaterHead (crlf gap) before after) :
    ∃ b a, crlf b = before ∧ crlf a = after ∧ S.LaterHead gap b a := by
  obtain ⟨head, hgap, hhead, hnoticed⟩ := h
  obtain ⟨b, head, a, rfl, rfl, rfl, rfl⟩ := exists_split_of_crlf_eq hgap (hS.visible_head hhead)
  exact ⟨b, a, rfl, rfl, head, rfl, hS.isHead_crlf.1 hhead, hS.noticed_crlf.1 hnoticed⟩

/-- Of two later heads the one further behind is further behind with carriage returns as well. -/
theorem length_crlf_le_of_laterHead {b a : List Char} (h : S.LaterHead gap b a)
    (h' : S.LaterHead gap before after) : (crlf b).length ≤ (crlf before).length ↔ b.length ≤ before.length := by
  obtain ⟨head, hgap, _⟩ := h
  obtain ⟨head', hgap', _⟩ := h'
  rw [List.append_assoc] at hgap hgap'
  exact length_crlf_le_iff (hgap.symm.trans hgap')

theorem cutOff_of_crlf (hS : S.Steady) (h : S.CutOff (crlf gap)) : S.CutOff gap := by
  obtain ⟨_, _, hlater', hlast, hno⟩ := h
  obtain ⟨before, after, rfl, rfl, hlater⟩ := hS.exists_laterHead_of_crlf hlater'
  refine ⟨before, after, hlater, fun b a hb => ?_, fun hgap => hno (hS.isGap_crlf hgap)⟩
  exact (length_crlf_le_of_laterHead hb hlater).1 (hlast _ _ (hS.laterHead_crlf hb))

theorem cutOff_crlf (hS : S.Steady) (hback : ∀ xs, S.IsGap (crlf xs) → S.IsGap xs) (h : S.CutOff gap) :
    S.CutOff (crlf gap) := by
  obtain ⟨before, after, hlater, hlast, hno⟩ := h
  refine ⟨crlf before, crlf after, hS.laterHead_crlf hlater, fun _ _ hb' => ?_, fun hgap => hno (hback after hgap)⟩
  obtain ⟨b, a, rfl, rfl, hb⟩ := hS.exists_laterHead_of_crlf hb'
  exact (length_crlf_le_of_laterHead hb hlater).2 (hlast b a hb)

/-- **A reading that is not cut off is one with carriage returns.** -/
theorem exists_reading_crlf (hS : S.Steady) (h : ∃ gap, S.Reads text gap ∧ ¬ S.CutOff gap) :
    ∃ gap, S.Reads (crlf text) gap ∧ ¬ S.CutOff gap := by
  obtain ⟨gap, hreads, hcut⟩ := h
  exact ⟨crlf gap, hS.reads_crlf hreads, fun hcut' => hcut (hS.cutOff_of_crlf hcut')⟩

/-- **A reading with carriage returns that is not cut off is one without them.** -/
theorem exists_reading_of_crlf (hS : S.Steady) (hback : ∀ xs, S.IsGap (crlf xs) → S.IsGap xs)
    (h : ∃ gap, S.Reads (crlf text) gap ∧ ¬ S.CutOff gap) : ∃ gap, S.Reads text gap ∧ ¬ S.CutOff gap := by
  obtain ⟨_, hreads', hcut⟩ := h
  obtain ⟨gap, rfl, hreads⟩ := hS.exists_reads_of_crlf hback hreads'
  exact ⟨gap, hreads, fun hcut' => hcut (hS.cutOff_crlf hback hcut')⟩

end Steady

end LineShape

/-! ## Parts of shapes -/

section Parts

variable {xs : List Char} {A P B IsContent : List Char → Prop}

/-- What allows for no line feed holds of the same slices of both texts. -/
theorem crlf_iff_of_notMem (hP : ∀ xs, P xs → '\n' ∉ xs) : P (crlf xs) ↔ P xs := by
  constructor
  · intro h
    rwa [eq_of_crlf_eq rfl (hP _ h)]
  · intro h
    rwa [crlf_eq_self (hP _ h)]

theorem onLine_of_visible (hne : xs ≠ []) (h : ∀ x ∈ xs, isBlank x = false) : OnLine xs := by
  refine ⟨visibleEnds_of_forall hne h, fun hn => ?_⟩
  have := h '\n' hn
  revert this
  decide

theorem onLine_of_spells {word : String} (hword : word.toList ≠ []) (hvisible : isVisibleWord word = true)
    (h : Spells word xs) : OnLine xs := by
  refine onLine_of_visible ?_ (visible_of_spells hvisible h)
  rintro rfl
  exact hword (List.length_eq_zero_iff.1 h.length_eq.symm)

theorem VisibleEnds.join {ys mid : List Char} (h : VisibleEnds xs) (h' : VisibleEnds ys) :
    VisibleEnds (xs ++ mid ++ ys) := by
  obtain ⟨⟨c, hc, hcb⟩, _⟩ := h
  obtain ⟨_, d, hd, hdb⟩ := h'
  refine ⟨⟨c, ?_, hcb⟩, d, ?_, hdb⟩
  · rw [List.append_assoc, List.head?_append, hc]
    rfl
  · rw [List.getLast?_append, hd]
    rfl

/-- Two parts with something between them. -/
def Joined (A P B : List Char → Prop) (xs : List Char) : Prop :=
  ∃ a mid b, xs = a ++ mid ++ b ∧ A a ∧ P mid ∧ B b

theorem visibleEnds_of_joined (hA : ∀ xs, A xs → OnLine xs) (hB : ∀ xs, B xs → OnLine xs) (h : Joined A P B xs) :
    VisibleEnds xs := by
  obtain ⟨a, mid, b, rfl, ha, _, hb⟩ := h
  exact VisibleEnds.join (hA a ha).1 (hB b hb).1

theorem joined_crlf_iff (hA : ∀ xs, A xs → OnLine xs) (hB : ∀ xs, B xs → OnLine xs)
    (hP : ∀ xs, P (crlf xs) ↔ P xs) : Joined A P B (crlf xs) ↔ Joined A P B xs := by
  have hA' : ∀ {ys}, A (crlf ys) ↔ A ys := crlf_iff_of_notMem fun ys hys => (hA ys hys).2
  have hB' : ∀ {ys}, B (crlf ys) ↔ B ys := crlf_iff_of_notMem fun ys hys => (hB ys hys).2
  constructor
  · intro h
    obtain ⟨a, mid, b, hxs, ha, hmid, hb⟩ := h
    have hxs : crlf xs = (a ++ mid) ++ b ++ [] := by rw [hxs, List.append_nil]
    obtain ⟨front, b, rest, rfl, hfront, rfl, hrest⟩ := exists_split_of_crlf_eq hxs (hB _ hb).1
    have hfront : crlf front = [] ++ a ++ mid := by rw [hfront, List.nil_append]
    obtain ⟨pre, a, mid, rfl, hpre, rfl, rfl⟩ := exists_split_of_crlf_eq hfront (hA _ ha).1
    obtain rfl := crlf_eq_nil_iff.1 hpre
    obtain rfl := crlf_eq_nil_iff.1 hrest
    exact ⟨a, mid, b, by simp, hA'.1 ha, (hP mid).1 hmid, hB'.1 hb⟩
  · intro h
    obtain ⟨a, mid, b, rfl, ha, hmid, hb⟩ := h
    exact ⟨crlf a, crlf mid, crlf b, by simp, hA'.2 ha, (hP mid).2 hmid, hB'.2 hb⟩

theorem padded_crlf (hC : ∀ xs, IsContent xs → IsContent (crlf xs)) (h : Padded IsContent xs) :
    Padded IsContent (crlf xs) := by
  obtain ⟨lead, content, trail, rfl, hl, hlead, ht, htrail, hcontent⟩ := h
  refine ⟨crlf lead, crlf content, crlf trail, by simp, ?_, blanks_crlf_iff.2 hlead, ?_, blanks_crlf_iff.2 htrail,
    hC content hcontent⟩
  · rwa [Ne, crlf_eq_nil_iff]
  · rwa [Ne, crlf_eq_nil_iff]

theorem padded_onLine_of_crlf (h : Padded OnLine (crlf xs)) : Padded OnLine xs := by
  obtain ⟨lead, content, trail, hxs, hl, hlead, ht, htrail, hcontent⟩ := h
  obtain ⟨lead, content, trail, rfl, rfl, rfl, rfl⟩ := exists_split_of_crlf_eq hxs hcontent.1
  rw [Ne, crlf_eq_nil_iff] at hl ht
  exact ⟨lead, content, trail, rfl, hl, blanks_crlf_iff.1 hlead, ht, blanks_crlf_iff.1 htrail,
    (crlf_iff_of_notMem fun _ h => h.2).1 hcontent⟩

theorem gap_crlf_iff : (crlf xs ≠ [] ∧ Blanks (crlf xs)) ↔ xs ≠ [] ∧ Blanks xs := by
  rw [Ne, crlf_eq_nil_iff, blanks_crlf_iff]

end Parts

namespace LineShape

/-! ## The shapes -/

theorem steady_attribute : LineShape.attribute.Steady where
  isHead_crlf := crlf_iff_of_notMem (by rintro _ rfl; decide)
  isTail_crlf := crlf_iff_of_notMem (by rintro _ rfl; decide)
  visible_head h := (onLine_of_spells (by decide) (by decide) (spells_attributeHead.2 h)).1
  visible_tail h := (onLine_of_spells (by decide) (by decide) (spells_closingBracket.2 h)).1
  noticed_crlf := Iff.rfl
  isGap_crlf := (crlf_iff_of_notMem fun _ h => h.2).2

theorem steady_word {word : String} (hword : word.toList ≠ []) {IsTail : List Char → Prop}
    (hvisible : isVisibleWord word = true) (htail : ∀ xs, IsTail (crlf xs) ↔ IsTail xs)
    (hends : ∀ xs, IsTail xs → VisibleEnds xs) : (LineShape.word word hword IsTail).Steady where
  isHead_crlf := crlf_iff_of_notMem fun _ h => (onLine_of_spells hword hvisible h).2
  isTail_crlf := htail _
  visible_head h := (onLine_of_spells hword hvisible h).1
  visible_tail h := hends _ h
  noticed_crlf := by
    intro before after
    have hblank : isBlank '\r' = isBlank '\n' := by decide
    simp only [LineShape.word, blanks_crlf_iff, Option.mem_def, ← Option.any_eq_true, any_head?_crlf hblank]
  isGap_crlf := padded_crlf fun _ => (crlf_iff_of_notMem fun _ h => h.2).2

theorem isHead_condition_iff {xs : List Char} : LineShape.condition.IsHead xs ↔
    Joined (Spells "if") (fun mid => mid ≠ [] ∧ Blanks mid) (· = ['[']) xs := by
  constructor
  · intro h
    obtain ⟨i, w, rfl, hi, hw⟩ := h
    exact ⟨i, w, ['['], rfl, hi, hw, rfl⟩
  · intro h
    obtain ⟨i, w, _, rfl, hi, hw, rfl⟩ := h
    exact ⟨i, w, rfl, hi, hw⟩

theorem isTail_condition_iff {xs : List Char} : LineShape.condition.IsTail xs ↔
    Joined (· = [']']) Blanks (· = [';']) xs := by
  constructor
  · intro h
    obtain ⟨w, rfl, hw⟩ := h
    exact ⟨[']'], w, [';'], rfl, rfl, hw, rfl⟩
  · intro h
    obtain ⟨_, w, _, rfl, rfl, hw, rfl⟩ := h
    exact ⟨w, rfl, hw⟩

theorem steady_condition : LineShape.condition.Steady := by
  have hif : ∀ xs, Spells "if" xs → OnLine xs := fun _ h => onLine_of_spells (by decide) (by decide) h
  have hsign : ∀ c : Char, isBlank c = false → ∀ xs, xs = [c] → OnLine xs := by
    rintro c hc _ rfl
    exact onLine_of_visible (by simp) (by simpa using hc)
  refine ⟨?_, ?_, ?_, ?_, ?_, ?_⟩
  · intro xs
    rw [isHead_condition_iff, isHead_condition_iff]
    exact joined_crlf_iff hif (hsign '[' (by decide)) fun _ => gap_crlf_iff
  · intro xs
    rw [isTail_condition_iff, isTail_condition_iff]
    exact joined_crlf_iff (hsign ']' (by decide)) (hsign ';' (by decide)) fun _ => blanks_crlf_iff
  · intro xs h
    exact visibleEnds_of_joined hif (hsign '[' (by decide)) (isHead_condition_iff.1 h)
  · intro xs h
    exact visibleEnds_of_joined (hsign ']' (by decide)) (hsign ';' (by decide)) (isTail_condition_iff.1 h)
  · intro before after
    simp only [LineShape.condition, blanks_crlf_iff, getLast?_crlf]
  · refine padded_crlf fun xs h => ?_
    rcases h with rfl | h
    · exact .inl rfl
    · exact .inr ((crlf_iff_of_notMem fun _ h => h.2).2 h)

theorem steady_tag : LineShape.tag.Steady := by
  have hhead : ∀ xs, LineShape.tag.IsHead xs → OnLine xs := by
    intro xs h
    obtain ⟨name, rfl, _, hname⟩ := h
    refine onLine_of_visible (by simp) fun c hc => ?_
    rcases List.mem_cons.1 hc with rfl | hc
    · decide
    · exact isBlank_of_isWord (hname c hc)
  have htail : ∀ xs, LineShape.tag.IsTail xs → OnLine xs :=
    fun _ h => onLine_of_spells (by decide) (by decide) (spells_tagClosing.2 h)
  refine ⟨?_, ?_, fun h => (hhead _ h).1, fun h => (htail _ h).1, ?_, ?_⟩
  · exact crlf_iff_of_notMem fun xs h => (hhead xs h).2
  · exact crlf_iff_of_notMem fun xs h => (htail xs h).2
  · intro before after
    have hword : isWord '\r' = isWord '\n' := by decide
    simp only [LineShape.tag, Option.mem_def, ← Option.any_eq_false, any_head?_crlf hword]
  · intro xs h
    obtain ⟨lead, rest, rfl, hne, hlead, hrest⟩ := h
    refine ⟨crlf lead, crlf rest, crlf_append, ?_, blanks_crlf_iff.2 hlead, ?_⟩
    · rwa [Ne, crlf_eq_nil_iff]
    · rwa [newline_mem_crlf_iff]

theorem isGap_tag_of_crlf {xs : List Char} (h : LineShape.tag.IsGap (crlf xs)) : LineShape.tag.IsGap xs := by
  obtain ⟨lead, rest, hxs, hne, hlead, hrest⟩ := h
  obtain ⟨lead, rest, rfl, rfl, rfl⟩ :=
    exists_split_of_crlf_eq_append hxs fun _ hn => hrest (List.mem_of_mem_head? hn)
  rw [Ne, crlf_eq_nil_iff] at hne
  rw [newline_mem_crlf_iff] at hrest
  exact ⟨lead, rest, rfl, hne, blanks_crlf_iff.1 hlead, hrest⟩

end LineShape

namespace LineSignature

/-- The part of a source behind `from` and the blanks. -/
def IsReactName (xs : List Char) : Prop :=
  ∃ q r q', xs = q :: r ++ [q'] ∧ (q = '"' ∨ q = '\'') ∧ Spells "react" r ∧ (q' = '"' ∨ q' = '\'')

theorem isReactSource_iff {xs : List Char} : IsReactSource xs ↔
    Joined (Spells "from") (fun mid => mid ≠ [] ∧ Blanks mid) IsReactName xs := by
  constructor
  · intro h
    obtain ⟨f, w, q, r, q', rfl, hf, hne, hw, hq, hr, hq'⟩ := h
    exact ⟨f, w, q :: r ++ [q'], by simp, hf, ⟨hne, hw⟩, q, r, q', rfl, hq, hr, hq'⟩
  · intro h
    obtain ⟨f, w, _, rfl, hf, ⟨hne, hw⟩, q, r, q', rfl, hq, hr, hq'⟩ := h
    exact ⟨f, w, q, r, q', by simp, hf, hne, hw, hq, hr, hq'⟩

theorem onLine_of_isReactName {xs : List Char} (h : IsReactName xs) : OnLine xs := by
  have hquote : ∀ {c : Char}, c = '"' ∨ c = '\'' → isBlank c = false := by
    rintro c (rfl | rfl)
    · decide
    · decide
  obtain ⟨q, r, q', rfl, hq, hr, hq'⟩ := h
  refine onLine_of_visible (by simp) fun c hc => ?_
  rw [List.cons_append, List.mem_cons, List.mem_append, List.mem_singleton] at hc
  rcases hc with rfl | hc | rfl
  · exact hquote hq
  · exact visible_of_spells (by decide) hr c hc
  · exact hquote hq'

/-- The shape of every signature is steady. -/
theorem steady_shape (g : LineSignature) : g.shape.Steady := by
  cases g with
  | innerAttribute => exact LineShape.steady_attribute
  | selectFrom =>
    have hfrom : ∀ xs, Spells "FROM" xs → OnLine xs := fun _ h => onLine_of_spells (by decide) (by decide) h
    refine LineShape.steady_word (by decide) (by decide) (fun xs => ?_) fun xs h => (hfrom xs h).1
    exact crlf_iff_of_notMem fun xs h => (hfrom xs h).2
  | reactImport =>
    have hfrom : ∀ xs, Spells "from" xs → OnLine xs := fun _ h => onLine_of_spells (by decide) (by decide) h
    refine LineShape.steady_word (by decide) (by decide) (fun xs => ?_) fun xs h => ?_
    · rw [isReactSource_iff, isReactSource_iff]
      exact joined_crlf_iff hfrom (fun _ => onLine_of_isReactName) fun _ => gap_crlf_iff
    · exact visibleEnds_of_joined hfrom (fun _ => onLine_of_isReactName) (isReactSource_iff.1 h)
  | selfClosingTag => exact LineShape.steady_tag
  | bracketCondition => exact LineShape.steady_condition

theorem isGap_of_crlf {g : LineSignature} (hg : g ≠ bracketCondition) {xs : List Char}
    (h : g.shape.IsGap (crlf xs)) : g.shape.IsGap xs := by
  cases g with
  | innerAttribute => exact (crlf_iff_of_notMem fun _ h => h.2).1 h
  | selectFrom => exact padded_onLine_of_crlf h
  | reactImport => exact padded_onLine_of_crlf h
  | selfClosingTag => exact LineShape.isGap_tag_of_crlf h
  | bracketCondition => exact absurd rfl hg

variable {text : List Char}

/-- **What a signature finds it finds with carriage returns.** -/
theorem isIn_crlf (g : LineSignature) (h : g.pattern.isIn text = true) : g.pattern.isIn (crlf text) = true := by
  rw [(describes_shape g _).2] at h ⊢
  exact g.steady_shape.exists_reading_crlf h

/-- **A signature other than the condition is in both texts or in neither.** -/
theorem isIn_crlf_eq {g : LineSignature} (hg : g ≠ bracketCondition) :
    g.pattern.isIn (crlf text) = g.pattern.isIn text := by
  rw [Bool.eq_iff_iff]
  constructor
  · intro h
    rw [(describes_shape g _).2] at h ⊢
    exact g.steady_shape.exists_reading_of_crlf (fun _ => isGap_of_crlf hg) h
  · exact isIn_crlf g

end LineSignature

end SnippetLanguage
