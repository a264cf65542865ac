import SnippetLanguage.Proofs.Pattern.Padded
import SnippetLanguage.Rule.Default

/-!
# Where a scan that stops at the next head misses a match

Five signatures of the default table look for a head, a gap and a tail, and their scan stops at the next head. Without
the stop they find every text that can be read as head, gap and tail; with it they miss the texts that can be read so
only with a gap that is cut off at its last later head (`isIn_iff_exists_reading`). Such texts exist for each of the
five (`isIn_ne_withoutGuards`).
-/

namespace SnippetLanguage

open Text

/-! ## Inner attributes -/

/-- `#![`, something on the line, and `]`. -/
def LineShape.attribute : LineShape where
  IsHead xs := xs = ['#', '!', '[']
  IsGap xs := xs ≠ [] ∧ '\n' ∉ xs
  IsTail xs := xs = [']']
  Noticed _ _ := True
  head_ne_nil := by
    rintro _ rfl
    simp
  noticed_append := fun _ => trivial

theorem spells_attributeHead {xs : List Char} : Spells "#![" xs ↔ xs = ['#', '!', '['] :=
  spells_signs_iff (by decide)

theorem spells_closingBracket {xs : List Char} : Spells "]" xs ↔ xs = [']'] := spells_signs_iff (by decide)

namespace Pattern

variable {before gap after : List Char}

theorem derives_attributeGap {q : Pattern} {Stops : List Char → List Char → Prop} (hq : Scans q Stops) :
    (plus q).Derives before gap after ↔ LineShape.attribute.IsGap gap ∧
      ∀ ys rest, gap = ys ++ rest → rest ≠ [] → ¬ Stops (ys.reverse ++ before) (rest ++ after) := by
  rw [hq.derives_plus, hq.derives_star, ← and_assoc]
  exact Iff.rfl

theorem starts_attributeHead_iff : (text "#![").Starts ⟨before, after⟩ ↔ ∃ rest, after = '#' :: '!' :: '[' :: rest := by
  rw [starts_iff]
  constructor
  · intro h
    obtain ⟨xs, rest, hafter, hxs⟩ := h
    rw [derives_text, spells_attributeHead] at hxs
    exact ⟨rest, by simp [hafter, hxs]⟩
  · intro h
    obtain ⟨rest, hafter⟩ := h
    exact ⟨['#', '!', '['], rest, hafter, derives_text.2 (spells_attributeHead.2 rfl)⟩

/-- A scan through the gap of an attribute stops at the later heads. -/
theorem attribute_stops_iff :
    (∀ ys rest, gap = ys ++ rest → rest ≠ [] →
      ¬ (text "#![").Starts ⟨ys.reverse ++ before, rest ++ (']' :: after)⟩) ↔
      ∀ b a, ¬ LineShape.attribute.LaterHead gap b a := by
  constructor
  · intro h b a hlater
    obtain ⟨head, hgap, hhead, _⟩ := hlater
    subst hhead
    refine h b ('#' :: '!' :: '[' :: a) (by simp [hgap]) (by simp) ?_
    exact starts_attributeHead_iff.2 ⟨a ++ ']' :: after, rfl⟩
  · intro h ys rest hgap _ hstarts
    obtain ⟨r, hr⟩ := starts_attributeHead_iff.1 hstarts
    have hhead : rest ++ ']' :: after = ['#', '!', '['] ++ r := hr
    obtain ⟨zs, hrest, _⟩ := exists_of_append_cons_eq hhead (by decide)
    exact h ys zs ⟨['#', '!', '['], by rw [hgap, hrest, List.append_assoc], rfl, trivial⟩

end Pattern

namespace LineShape

theorem describes_innerAttribute : LineShape.attribute.Describes Rule.innerAttribute := by
  refine @describes_of_body _ _ (Pattern.text "#![") (Pattern.plus (.seq (.notAhead (.text "#![")) (.one .inLine)))
    (Pattern.plus (.seq .empty (.one .inLine))) (Pattern.text "]") rfl rfl ?_ ?_ ?_ ?_
  · exact fun _ _ _ => Pattern.derives_text.trans spells_attributeHead
  · exact fun _ _ _ => Pattern.derives_text.trans spells_closingBracket
  · intro before gap xs after hxs
    obtain rfl : xs = [']'] := hxs
    rw [Pattern.derives_attributeGap (Pattern.scans_guarded _)]
    exact and_congr_right fun _ => Pattern.attribute_stops_iff
  · intro before gap xs after _
    rw [Pattern.derives_attributeGap Pattern.scans_unguarded]
    simp

end LineShape

/-! ## A word, content between blanks, and a tail -/

/-- A word in any letter case, content between blanks, and a tail. A later head is noticed when there is something
visible before it and a blank behind it. -/
def LineShape.word (word : String) (hword : word.toList ≠ []) (IsTail : List Char → Prop) : LineShape where
  IsHead := Spells word
  IsGap := Padded OnLine
  IsTail := IsTail
  Noticed before after := ¬ Blanks before ∧ ∃ c ∈ after.head?, isBlank c = true
  head_ne_nil := by
    intro xs hxs hnil
    have := hxs.length_eq
    rw [hnil] at this
    exact hword (List.length_eq_zero_iff.1 this.symm)
  noticed_append := by
    intro xs before after h
    exact ⟨fun hb => h.1 (blanks_append_iff.1 hb).2, h.2⟩

namespace Pattern

variable {word : String} {before after : List Char}

theorem starts_wordThenBlank_iff : (seq (text word) (one .blank)).Starts ⟨before, after⟩ ↔
    ∃ s c rest, after = s ++ c :: rest ∧ Spells word s ∧ isBlank c = true := by
  rw [starts_iff]
  constructor
  · intro h
    obtain ⟨xs, rest, hafter, hxs⟩ := h
    obtain ⟨s, ys, rfl, hs, hy⟩ := derives_seq.1 hxs
    obtain ⟨c, rfl, hc⟩ := derives_blank.1 hy
    exact ⟨s, c, rest, by simp [hafter], derives_text.1 hs, hc⟩
  · intro h
    obtain ⟨s, c, rest, hafter, hs, hc⟩ := h
    refine ⟨s ++ [c], rest, by simp [hafter], ?_⟩
    exact derives_seq.2 ⟨s, [c], rfl, derives_text.2 hs, derives_blank.2 ⟨c, rfl, hc⟩⟩

/-- A scan through the content stops at the later heads when the word has two visible letters or more. Such a word
cannot begin at the last character of the content, which the scan does not look at. -/
theorem word_stops_iff {hword : word.toList ≠ []} {IsTail : List Char → Prop} {lead content trail : List Char}
    (hvisible : isVisibleWord word = true) (hlength : 2 ≤ word.toList.length)
    (hlead : Blanks lead) (htrail : Blanks trail) (hne : trail ≠ []) (hcontent : VisibleEnds content) :
    (∀ ys rest, content = ys ++ rest → ys ≠ [] → 2 ≤ rest.length →
      ¬ (seq (text word) (one .blank)).Starts ⟨ys.reverse ++ (lead.reverse ++ before), rest ++ (trail ++ after)⟩) ↔
      ∀ b a, ¬ (LineShape.word word hword IsTail).LaterHead (lead ++ content ++ trail) b a := by
  obtain ⟨t, ts, rfl⟩ := List.exists_cons_of_ne_nil hne
  have ht : isBlank t = true := htrail t (by simp)
  constructor
  · intro h b a hlater
    obtain ⟨s, hgap, hs, hb, c, hc, hcb⟩ := hlater
    have hslen : 2 ≤ s.length := by rw [hs.length_eq]; exact hlength
    have hends : VisibleEnds s := by
      refine visibleEnds_of_forall (fun hnil => ?_) (visible_of_spells hvisible hs)
      rw [hnil] at hslen
      simp at hslen
    obtain ⟨ys, zs, hys, hsplit, rfl, rfl⟩ := exists_content_split hlead htrail hgap hends hb
    refine h ys (s ++ zs) (by simp [hsplit]) hys (by simp; omega) (starts_wordThenBlank_iff.2 ?_)
    obtain ⟨rest, hrest⟩ := List.head?_eq_some_iff.1 hc
    exact ⟨s, c, rest ++ after, by rw [List.append_assoc, ← List.append_assoc zs, hrest]; rfl, hs, hcb⟩
  · intro h ys rest hsplit hys hlen hstarts
    obtain ⟨s, c, r, hr, hs, hc⟩ := starts_wordThenBlank_iff.1 hstarts
    have hts : t ∉ s := by
      intro hm
      rw [visible_of_spells hvisible hs t hm] at ht
      cases ht
    obtain ⟨zs, hrest, hr'⟩ := exists_of_append_cons_eq (show rest ++ t :: (ts ++ after) = s ++ c :: r from hr) hts
    refine h (lead ++ ys) (zs ++ t :: ts) ⟨s, by simp [hsplit, hrest], hs, ?_, ?_⟩
    · rw [hsplit] at hcontent
      exact not_blanks_append hcontent hys
    · cases zs with
      | nil => exact ⟨t, rfl, ht⟩
      | cons z zs =>
        obtain ⟨rfl, _⟩ := List.cons.inj hr'
        exact ⟨c, rfl, hc⟩

end Pattern

namespace LineShape

variable {p tail : Pattern}

theorem describes_word {word : String} (hword : word.toList ≠ []) {IsTail : List Char → Prop}
    (hvisible : isVisibleWord word = true) (hlength : 2 ≤ word.toList.length)
    (hp : p = .seq (.text word) (.seq .gap (.seq (.one .visible) (.seq (.opt (.seq
      (.lineUntil (.inOrder [.text word, .one .blank])) (.one .visible))) (.seq .gap tail)))))
    (hfree : p.withoutGuards = .seq (.text word) (.seq .gap (.seq (.one .visible) (.seq (.opt (.seq
      (.star (.seq .empty (.one .inLine))) (.one .visible))) (.seq .gap tail)))))
    (htail : ∀ before xs after, tail.Derives before xs after ↔ IsTail xs) :
    (LineShape.word word hword IsTail).Describes p := by
  refine describes_of_body (by rw [hp, Pattern.spans_content]) (by rw [hfree, Pattern.spans_content])
    (fun _ _ _ => Pattern.derives_text) htail ?_ ?_
  · intro before gap xs after _
    rw [Pattern.derives_padded]
    constructor
    · intro h
      obtain ⟨lead, content, trail, rfl, hl, hlead, ht, htrail, hcontent⟩ := h
      obtain ⟨hends, hnl, hstops⟩ := (Pattern.scans_guarded _).derives_content.1 hcontent
      exact ⟨⟨lead, content, trail, rfl, hl, hlead, ht, htrail, hends, hnl⟩,
        (Pattern.word_stops_iff hvisible hlength hlead htrail ht hends).1 hstops⟩
    · intro h
      obtain ⟨⟨lead, content, trail, rfl, hl, hlead, ht, htrail, hends, hnl⟩, hlater⟩ := h
      refine ⟨lead, content, trail, rfl, hl, hlead, ht, htrail, ?_⟩
      refine (Pattern.scans_guarded _).derives_content.2 ⟨hends, hnl, ?_⟩
      exact (Pattern.word_stops_iff hvisible hlength hlead htrail ht hends).2 hlater
  · intro before gap xs after _
    rw [Pattern.derives_padded]
    simp only [Pattern.scans_unguarded.derives_content, not_false_iff, implies_true, and_true]
    exact Iff.rfl

end LineShape

/-! ## Conditions between brackets -/

/-- `if [`, a condition between blanks or blanks only, `]` and `;`. A later head is noticed when there is something
visible before it and it does not continue a word. -/
def LineShape.condition : LineShape where
  IsHead xs := ∃ i w, xs = i ++ w ++ ['['] ∧ Spells "if" i ∧ w ≠ [] ∧ Blanks w
  IsGap := Padded fun xs => xs = [] ∨ OnLine xs
  IsTail xs := ∃ w, xs = ']' :: w ++ [';'] ∧ Blanks w
  Noticed before _ := ¬ Blanks before ∧ ∃ c ∈ before.getLast?, isWord c = false
  head_ne_nil := by
    intro xs h
    obtain ⟨i, w, rfl, _⟩ := h
    simp
  noticed_append := by
    intro xs before after h
    obtain ⟨hb, c, hc, hw⟩ := h
    refine ⟨fun hb' => hb (blanks_append_iff.1 hb').2, c, ?_, hw⟩
    rw [List.getLast?_append, hc]
    rfl

theorem spells_openingBracket {xs : List Char} : Spells "[" xs ↔ xs = ['['] := spells_signs_iff (by decide)

theorem spells_semicolon {xs : List Char} : Spells ";" xs ↔ xs = [';'] := spells_signs_iff (by decide)

namespace Pattern

variable {before after : List Char}

theorem starts_condition_iff :
    (inOrder [wordEdge, text "if", gap, text "["]).Starts ⟨before, after⟩ ↔
      Place.atWordEdge before after = true ∧
        ∃ i w rest, after = i ++ w ++ '[' :: rest ∧ Spells "if" i ∧ w ≠ [] ∧ Blanks w := by
  rw [starts_iff]
  constructor
  · intro h
    obtain ⟨xs, rest, hafter, h⟩ := h
    obtain ⟨e, xs, rfl, he, h⟩ := derives_seq.1 h
    obtain ⟨i, xs, rfl, hi, h⟩ := derives_seq.1 h
    obtain ⟨w, xs, rfl, hw, h⟩ := derives_seq.1 h
    obtain ⟨rfl, hedge⟩ := derives_wordEdge.1 he
    rw [derives_text] at hi
    rw [derives_gap] at hw
    obtain rfl := spells_openingBracket.1 (derives_text.1 h)
    have hsplit : after = i ++ w ++ '[' :: rest := by simp [hafter]
    refine ⟨?_, i, w, rest, hsplit, hi, hw.1, hw.2⟩
    rw [hsplit]
    simpa using hedge
  · intro h
    obtain ⟨he, i, w, rest, hafter, hi, hw⟩ := h
    refine ⟨i ++ (w ++ ['[']), rest, by simp [hafter], ?_⟩
    refine derives_seq.2 ⟨[], i ++ (w ++ ['[']), rfl, derives_wordEdge.2 ⟨rfl, ?_⟩, ?_⟩
    · rw [hafter] at he
      simpa using he
    refine derives_seq.2 ⟨i, w ++ ['['], rfl, derives_text.2 hi, ?_⟩
    exact derives_seq.2 ⟨w, ['['], rfl, derives_gap.2 hw, derives_text.2 (spells_openingBracket.2 rfl)⟩

/-- The word `if` is at a word edge where the character before it belongs to no word. -/
theorem atWordEdge_iff {ys before i rest : List Char} (hys : ys ≠ []) (hi : Spells "if" i) :
    Place.atWordEdge (ys.reverse ++ before) (i ++ rest) = true ↔ ∃ c ∈ ys.getLast?, isWord c = false := by
  obtain ⟨x, i, rfl⟩ := List.exists_cons_of_length_eq_add_one hi.length_eq
  have hx : isWord x = true := isWord_of_spells (by decide) hi x (by simp)
  rcases List.eq_nil_or_concat' ys with hnil | ⟨ys, c, rfl⟩
  · exact absurd hnil hys
  · simp [Place.atWordEdge, hx]

/-- A scan through a condition stops at the later heads. -/
theorem condition_stops_iff {lead content trail : List Char} (hlead : Blanks lead) (htrail : Blanks trail)
    (hcontent : VisibleEnds content) :
    (∀ ys rest, content = ys ++ rest → ys ≠ [] → 2 ≤ rest.length →
      ¬ (inOrder [wordEdge, text "if", gap, text "["]).Starts
        ⟨ys.reverse ++ (lead.reverse ++ before), rest ++ (trail ++ ']' :: after)⟩) ↔
      ∀ b a, ¬ LineShape.condition.LaterHead (lead ++ content ++ trail) b a := by
  have hvisible : ∀ {i : List Char}, Spells "if" i → ∀ x ∈ i, isBlank x = false := visible_of_spells (by decide)
  have hlast : ∀ ys : List Char, ys ≠ [] → (lead ++ ys).getLast? = ys.getLast? :=
    fun ys hys => List.getLast?_append_of_ne_nil lead hys
  constructor
  · intro h b a hlater
    obtain ⟨head, hgap, ⟨i, w, hhead, hi, hw, hwb⟩, hb, hedge⟩ := hlater
    obtain ⟨x, i', hcons⟩ := List.exists_cons_of_length_eq_add_one hi.length_eq
    have hends : VisibleEnds head := by
      refine ⟨⟨x, by simp [hhead, hcons], hvisible hi x (by simp [hcons])⟩, '[', by simp [hhead], by decide⟩
    obtain ⟨ys, zs, hys, hsplit, rfl, rfl⟩ := exists_content_split hlead htrail hgap hends hb
    rw [hlast ys hys] at hedge
    have hrest : head ++ zs ++ (trail ++ ']' :: after) = i ++ (w ++ '[' :: (zs ++ (trail ++ ']' :: after))) := by
      simp [hhead]
    refine h ys (head ++ zs) (by rw [hsplit, List.append_assoc]) hys ?_ (starts_condition_iff.2 ⟨?_, ?_⟩)
    · have := hi.length_eq
      simp [hhead] at this ⊢
      omega
    · rw [hrest]
      exact (atWordEdge_iff hys hi).2 hedge
    · exact ⟨i, w, zs ++ (trail ++ ']' :: after), by rw [hrest, List.append_assoc], hi, hw, hwb⟩
  · intro h ys rest hsplit hys hlen hstarts
    obtain ⟨hedge, i, w, r, hr, hi, hw, hwb⟩ := starts_condition_iff.1 hstarts
    have hbracket : ']' ∉ i ++ w ++ ['['] := by
      intro hm
      simp only [List.mem_append, List.mem_singleton] at hm
      rcases hm with (hm | hm) | hm
      · have hword := isWord_of_spells (by decide) hi ']' hm
        revert hword
        decide
      · exact notMem_of_blanks hwb (by decide) hm
      · revert hm
        decide
    have htext : (rest ++ trail) ++ ']' :: after = (i ++ w ++ ['[']) ++ r := by simpa using hr
    obtain ⟨zs, hzs, _⟩ := exists_of_append_cons_eq htext hbracket
    have hzs' : rest ++ trail = (i ++ w) ++ '[' :: zs := by simpa using hzs
    obtain ⟨zs, hrest, rfl⟩ := exists_of_append_eq_left hzs' (notMem_of_blanks htrail (by decide))
    refine h (lead ++ ys) (zs ++ trail) ⟨i ++ w ++ ['['], by simp [hsplit, hrest], ⟨i, w, rfl, hi, hw, hwb⟩, ?_, ?_⟩
    · rw [hsplit] at hcontent
      exact not_blanks_append hcontent hys
    · rw [hlast ys hys]
      rw [hr, List.append_assoc] at hedge
      exact (atWordEdge_iff hys hi).1 hedge

end Pattern

namespace LineShape

/-- The brackets of a condition belong to its head and its tail. -/
theorem spans_condition {i g k b o h m n s : Pattern} :
    (Pattern.seq i (.seq g (.seq k (.seq b (.seq o (.seq h (.seq m (.seq n s)))))))).Spans =
    (Pattern.seq (.seq i (.seq g k)) (.seq (.seq b (.seq o h)) (.seq m (.seq n s)))).Spans := by
  rw [Pattern.spans_seq_assoc]
  refine Pattern.spans_seq_congr rfl ?_
  rw [Pattern.spans_seq_assoc]
  refine Pattern.spans_seq_congr rfl (Pattern.spans_seq_congr rfl ?_)
  rw [Pattern.spans_seq_assoc]
  refine Pattern.spans_seq_congr rfl ?_
  rw [Pattern.spans_seq_assoc]

/-- Among blanks no later head is noticed. -/
theorem not_laterHead_of_blanks {lead trail : List Char} (hlead : Blanks lead) (htrail : Blanks trail)
    (b a : List Char) : ¬ LineShape.condition.LaterHead (lead ++ [] ++ trail) b a := by
  intro h
  obtain ⟨head, hgap, _, hb, _⟩ := h
  have hall : Blanks (b ++ head ++ a) := by
    rw [← hgap, List.append_nil]
    exact blanks_append_iff.2 ⟨hlead, htrail⟩
  exact hb (blanks_append_iff.1 (blanks_append_iff.1 hall).1).1

theorem describes_bracketCondition : LineShape.condition.Describes Rule.bracketCondition := by
  refine describes_of_body spans_condition spans_condition ?_ ?_ ?_ ?_
  · intro before xs after
    rw [Pattern.derives_seq]
    constructor
    · intro h
      obtain ⟨i, ys, rfl, hi, h⟩ := h
      obtain ⟨w, zs, rfl, hw, h⟩ := Pattern.derives_seq.1 h
      obtain rfl := spells_openingBracket.1 (Pattern.derives_text.1 h)
      rw [Pattern.derives_gap] at hw
      exact ⟨i, w, by simp, Pattern.derives_text.1 hi, hw.1, hw.2⟩
    · intro h
      obtain ⟨i, w, rfl, hi, hw⟩ := h
      refine ⟨i, w ++ ['['], by simp, Pattern.derives_text.2 hi, Pattern.derives_seq.2 ⟨w, ['['], rfl, ?_, ?_⟩⟩
      · exact Pattern.derives_gap.2 hw
      · exact Pattern.derives_text.2 (spells_openingBracket.2 rfl)
  · intro before xs after
    rw [Pattern.derives_seq]
    constructor
    · intro h
      obtain ⟨k, ys, rfl, hk, h⟩ := h
      obtain ⟨w, zs, rfl, hw, h⟩ := Pattern.derives_seq.1 h
      obtain rfl := spells_closingBracket.1 (Pattern.derives_text.1 hk)
      obtain rfl := spells_semicolon.1 (Pattern.derives_text.1 h)
      exact ⟨w, rfl, Pattern.derives_blanks.1 hw⟩
    · intro h
      obtain ⟨w, rfl, hw⟩ := h
      refine ⟨[']'], w ++ [';'], rfl, Pattern.derives_text.2 (spells_closingBracket.2 rfl), ?_⟩
      refine Pattern.derives_seq.2 ⟨w, [';'], rfl, Pattern.derives_blanks.2 hw, ?_⟩
      exact Pattern.derives_text.2 (spells_semicolon.2 rfl)
  · intro before gap xs after hxs
    obtain ⟨w, rfl, _⟩ := hxs
    refine Pattern.derives_padded_opt.trans ?_
    constructor
    · intro h
      obtain ⟨lead, content, trail, rfl, hl, hlead, ht, htrail, hcontent⟩ := h
      rcases hcontent with rfl | hcontent
      · exact ⟨⟨lead, [], trail, rfl, hl, hlead, ht, htrail, .inl rfl⟩, not_laterHead_of_blanks hlead htrail⟩
      · obtain ⟨hends, hnl, hstops⟩ := (Pattern.scans_guarded _).derives_content.1 hcontent
        exact ⟨⟨lead, content, trail, rfl, hl, hlead, ht, htrail, .inr ⟨hends, hnl⟩⟩,
          (Pattern.condition_stops_iff hlead htrail hends).1 hstops⟩
    · intro h
      obtain ⟨⟨lead, content, trail, rfl, hl, hlead, ht, htrail, hcontent⟩, hlater⟩ := h
      refine ⟨lead, content, trail, rfl, hl, hlead, ht, htrail, ?_⟩
      rcases hcontent with rfl | ⟨hends, hnl⟩
      · exact .inl rfl
      · refine .inr ((Pattern.scans_guarded _).derives_content.2 ⟨hends, hnl, ?_⟩)
        exact (Pattern.condition_stops_iff hlead htrail hends).2 hlater
  · intro before gap xs after _
    refine Pattern.derives_padded_opt.trans ?_
    constructor
    · intro h
      obtain ⟨lead, content, trail, rfl, hl, hlead, ht, htrail, hcontent⟩ := h
      refine ⟨lead, content, trail, rfl, hl, hlead, ht, htrail, hcontent.imp_right fun hc => ?_⟩
      obtain ⟨hends, hnl, _⟩ := Pattern.scans_unguarded.derives_content.1 hc
      exact ⟨hends, hnl⟩
    · intro h
      obtain ⟨lead, content, trail, rfl, hl, hlead, ht, htrail, hcontent⟩ := h
      refine ⟨lead, content, trail, rfl, hl, hlead, ht, htrail, hcontent.imp_right fun hc => ?_⟩
      exact Pattern.scans_unguarded.derives_content.2 ⟨hc.1, hc.2, fun _ _ _ _ _ => not_false⟩

end LineShape

/-! ## Tags that close themselves -/

/-- `<` and a name, blanks that reach over all line feeds, the rest of the tag, and `/>`. A later head is noticed with
its whole name. -/
def LineShape.tag : LineShape where
  IsHead xs := ∃ name, xs = '<' :: name ∧ name ≠ [] ∧ ∀ c ∈ name, isWord c = true
  IsGap xs := ∃ lead rest, xs = lead ++ rest ∧ lead ≠ [] ∧ Blanks lead ∧ '\n' ∉ rest
  IsTail xs := xs = ['/', '>']
  Noticed _ after := ∀ c ∈ after.head?, isWord c = false
  head_ne_nil := by
    intro xs h
    obtain ⟨name, rfl, _⟩ := h
    simp
  noticed_append := fun h => h

theorem spells_tagOpening {xs : List Char} : Spells "<" xs ↔ xs = ['<'] := spells_signs_iff (by decide)

theorem spells_tagClosing {xs : List Char} : Spells "/>" xs ↔ xs = ['/', '>'] := spells_signs_iff (by decide)

namespace Pattern

variable {before xs after : List Char}

/-- What a tag has between its name and its closing. -/
theorem derives_tagGap {q : Pattern} {Stops : List Char → List Char → Prop} (hq : Scans q Stops) :
    (seq (one .blank) (seq (star (seq (star (one .blankInLine)) (one (.char '\n'))))
      (star q))).Derives before xs after ↔
      ∃ b lines rest, xs = b :: lines ++ rest ∧ isBlank b = true ∧ BlankLines lines ∧ '\n' ∉ rest ∧
        ∀ ys zs, rest = ys ++ zs → zs ≠ [] →
          ¬ Stops (ys.reverse ++ ((b :: lines).reverse ++ before)) (zs ++ after) := by
  constructor
  · intro h
    obtain ⟨b, xs, rfl, hb, h⟩ := derives_seq.1 h
    obtain ⟨lines, rest, rfl, hlines, hrest⟩ := derives_seq.1 h
    obtain ⟨b, rfl, hblank⟩ := derives_blank.1 hb
    rw [hq.derives_star] at hrest
    refine ⟨b, lines, rest, by simp, hblank, derives_blankLines.1 hlines, hrest.1, fun ys zs hsplit hne => ?_⟩
    simpa using hrest.2 ys zs hsplit hne
  · intro h
    obtain ⟨b, lines, rest, rfl, hblank, hlines, hnl, hstops⟩ := h
    refine derives_seq.2 ⟨[b], lines ++ rest, by simp, derives_blank.2 ⟨b, rfl, hblank⟩, ?_⟩
    refine derives_seq.2 ⟨lines, rest, rfl, derives_blankLines.2 hlines, hq.derives_star.2 ⟨hnl, ?_⟩⟩
    intro ys zs hsplit hne
    simpa using hstops ys zs hsplit hne

theorem isGap_tag_iff : LineShape.tag.IsGap xs ↔
    ∃ b lines rest, xs = b :: lines ++ rest ∧ isBlank b = true ∧ BlankLines lines ∧ '\n' ∉ rest := by
  constructor
  · intro h
    obtain ⟨lead, rest, rfl, hne, hlead, hrest⟩ := h
    obtain ⟨b, bs, rfl⟩ := List.exists_cons_of_ne_nil hne
    obtain ⟨hb, hbs⟩ := blanks_cons_iff.1 hlead
    obtain ⟨lines, rest', hsplit, hlines, hrest'⟩ := exists_blankLines hbs hrest
    exact ⟨b, lines, rest', by simp [hsplit], hb, hlines, hrest'⟩
  · intro h
    obtain ⟨b, lines, rest, rfl, hb, hlines, hrest⟩ := h
    exact ⟨b :: lines, rest, rfl, by simp, blanks_cons_iff.2 ⟨hb, hlines.1⟩, hrest⟩

theorem starts_tag_iff : (inOrder [text "<", one .word]).Starts ⟨before, after⟩ ↔
    ∃ w rest, after = '<' :: w :: rest ∧ isWord w = true := by
  rw [starts_iff]
  constructor
  · intro h
    obtain ⟨xs, rest, hafter, h⟩ := h
    obtain ⟨s, ys, rfl, hs, hy⟩ := derives_seq.1 h
    obtain ⟨w, rfl, hw⟩ := derives_one.1 hy
    obtain rfl := spells_tagOpening.1 (derives_text.1 hs)
    exact ⟨w, rest, hafter, hw⟩
  · intro h
    obtain ⟨w, rest, hafter, hw⟩ := h
    refine ⟨['<', w], rest, hafter, ?_⟩
    exact derives_seq.2 ⟨['<'], [w], rfl, derives_text.2 (spells_tagOpening.2 rfl), derives_one.2 ⟨w, rfl, hw⟩⟩

/-- A scan through a tag stops at the later heads. -/
theorem tag_stops_iff {lead rest : List Char} (hlead : Blanks lead) :
    (∀ ys zs, rest = ys ++ zs → zs ≠ [] →
      ¬ (inOrder [text "<", one .word]).Starts ⟨ys.reverse ++ (lead.reverse ++ before), zs ++ '/' :: after⟩) ↔
      ∀ b a, ¬ LineShape.tag.LaterHead (lead ++ rest) b a := by
  constructor
  · intro h b a hlater
    obtain ⟨head, hgap, ⟨name, rfl, hne, hname⟩, _⟩ := hlater
    obtain ⟨w, name, rfl⟩ := List.exists_cons_of_ne_nil hne
    have hsplit : lead ++ rest = b ++ '<' :: (w :: name ++ a) := by simpa using hgap
    obtain ⟨ys, rfl, hrest⟩ := exists_of_append_eq_right hsplit (notMem_of_blanks hlead (by decide))
    refine h ys ('<' :: (w :: name ++ a)) hrest (by simp) (starts_tag_iff.2 ?_)
    exact ⟨w, name ++ a ++ '/' :: after, by simp, hname w (by simp)⟩
  · intro h ys zs hrest _ hstarts
    obtain ⟨w, r, hr, hw⟩ := starts_tag_iff.1 hstarts
    have hslash : '/' ∉ ['<', w] := by
      intro hm
      have hslash : '/' = w := by simpa using hm
      rw [← hslash] at hw
      revert hw
      decide
    obtain ⟨zs', hzs, _⟩ := exists_of_append_cons_eq (show zs ++ '/' :: after = ['<', w] ++ r from hr) hslash
    refine h (lead ++ ys) (zs'.dropWhile isWord) ⟨'<' :: w :: zs'.takeWhile isWord, ?_, ⟨_, rfl, by simp, ?_⟩, ?_⟩
    · rw [hrest, hzs]
      simp [List.takeWhile_append_dropWhile]
    · intro c hc
      rcases List.mem_cons.1 hc with rfl | hc
      · exact hw
      · exact List.all_eq_true.1 List.all_takeWhile c hc
    · intro c hc
      have := List.head?_dropWhile_not isWord zs'
      rw [Option.mem_def.1 hc] at this
      simpa using this

end Pattern

namespace LineShape

/-- The name of a tag belongs to its head. -/
theorem spans_tag {o n b l s t : Pattern} : (Pattern.seq o (.seq n (.seq b (.seq l (.seq s t))))).Spans =
    (Pattern.seq (.seq o n) (.seq (.seq b (.seq l s)) t)).Spans := by
  rw [Pattern.spans_seq_assoc]
  refine Pattern.spans_seq_congr rfl (Pattern.spans_seq_congr rfl ?_)
  rw [Pattern.spans_seq_assoc]
  refine Pattern.spans_seq_congr rfl ?_
  rw [Pattern.spans_seq_assoc]

theorem describes_selfClosingTag : LineShape.tag.Describes Rule.selfClosingTag := by
  refine describes_of_body spans_tag spans_tag ?_ ?_ ?_ ?_
  · intro before xs after
    rw [Pattern.derives_seq]
    constructor
    · intro h
      obtain ⟨s, name, rfl, hs, hname⟩ := h
      obtain rfl := spells_tagOpening.1 (Pattern.derives_text.1 hs)
      rw [Pattern.derives_ident] at hname
      exact ⟨name, rfl, hname.1, hname.2⟩
    · intro h
      obtain ⟨name, rfl, hname⟩ := h
      exact ⟨['<'], name, rfl, Pattern.derives_text.2 (spells_tagOpening.2 rfl), Pattern.derives_ident.2 hname⟩
  · exact fun _ _ _ => Pattern.derives_text.trans spells_tagClosing
  · intro before gap xs after hxs
    obtain rfl : xs = ['/', '>'] := hxs
    refine (Pattern.derives_tagGap (Pattern.scans_guarded _)).trans ?_
    rw [Pattern.isGap_tag_iff]
    constructor
    · intro h
      obtain ⟨b, lines, rest, rfl, hb, hlines, hnl, hstops⟩ := h
      exact ⟨⟨b, lines, rest, rfl, hb, hlines, hnl⟩, (Pattern.tag_stops_iff (blanks_cons_iff.2 ⟨hb, hlines.1⟩)).1 hstops⟩
    · intro h
      obtain ⟨⟨b, lines, rest, rfl, hb, hlines, hnl⟩, hlater⟩ := h
      exact ⟨b, lines, rest, rfl, hb, hlines, hnl, (Pattern.tag_stops_iff (blanks_cons_iff.2 ⟨hb, hlines.1⟩)).2 hlater⟩
  · intro before gap xs after _
    refine (Pattern.derives_tagGap Pattern.scans_unguarded).trans ?_
    rw [Pattern.isGap_tag_iff]
    simp only [not_false_iff, implies_true, and_true]

end LineShape

/-! ## The signatures -/

/-- The signatures that look for a head, a gap and a tail and stop at the next head. -/
inductive LineSignature where
  | innerAttribute
  | selectFrom
  | reactImport
  | selfClosingTag
  | bracketCondition
  deriving Repr, DecidableEq

namespace LineSignature

/-- The pattern in the default table. -/
def pattern : LineSignature → Pattern
  | innerAttribute => Rule.innerAttribute
  | selectFrom => Rule.selectFrom
  | reactImport => Rule.reactImport
  | selfClosingTag => Rule.selfClosingTag
  | bracketCondition => Rule.bracketCondition

/-- The rule of the default table that the signature belongs to. -/
def rule : LineSignature → Rule
  | innerAttribute => .rust
  | selectFrom => .sql
  | reactImport => .react
  | selfClosingTag => .react
  | bracketCondition => .shell

/-- `from` and `react` between quotes. -/
def IsReactSource (xs : List Char) : Prop :=
  ∃ f w q r q', xs = f ++ w ++ q :: r ++ [q'] ∧ Spells "from" f ∧ w ≠ [] ∧ Blanks w ∧ (q = '"' ∨ q = '\'') ∧
    Spells "react" r ∧ (q' = '"' ∨ q' = '\'')

/-- How the signature reads a text. -/
def shape : LineSignature → LineShape
  | innerAttribute => .attribute
  | selectFrom => .word "SELECT" (by decide) (Spells "FROM")
  | reactImport => .word "import" (by decide) IsReactSource
  | selfClosingTag => .tag
  | bracketCondition => .condition

theorem derives_reactSource {before xs after : List Char} :
    (Pattern.inOrder [.text "from", .gap, .one .quote, .text "react", .one .quote]).Derives before xs after ↔
      IsReactSource xs := by
  have hquote : ∀ {c : Char}, CharClass.quote.holds c = true ↔ c = '"' ∨ c = '\'' := by
    simp [CharClass.quote, CharClass.holds]
  constructor
  · intro h
    obtain ⟨f, xs, rfl, hf, h⟩ := Pattern.derives_seq.1 h
    obtain ⟨w, xs, rfl, hw, h⟩ := Pattern.derives_seq.1 h
    obtain ⟨qs, xs, rfl, hq, h⟩ := Pattern.derives_seq.1 h
    obtain ⟨r, qs', rfl, hr, hq'⟩ := Pattern.derives_seq.1 h
    obtain ⟨q, rfl, hopen⟩ := Pattern.derives_one.1 hq
    obtain ⟨q', rfl, hclose⟩ := Pattern.derives_one.1 hq'
    rw [Pattern.derives_gap] at hw
    exact ⟨f, w, q, r, q', by simp, Pattern.derives_text.1 hf, hw.1, hw.2, hquote.1 hopen, Pattern.derives_text.1 hr,
      hquote.1 hclose⟩
  · intro h
    obtain ⟨f, w, q, r, q', rfl, hf, hw, hwb, hq, hr, hq'⟩ := h
    refine Pattern.derives_seq.2 ⟨f, w ++ ([q] ++ (r ++ [q'])), by simp, Pattern.derives_text.2 hf, ?_⟩
    refine Pattern.derives_seq.2 ⟨w, [q] ++ (r ++ [q']), rfl, Pattern.derives_gap.2 ⟨hw, hwb⟩, ?_⟩
    refine Pattern.derives_seq.2 ⟨[q], r ++ [q'], rfl, Pattern.derives_one.2 ⟨q, rfl, hquote.2 hq⟩, ?_⟩
    refine Pattern.derives_seq.2 ⟨r, [q'], rfl, Pattern.derives_text.2 hr, ?_⟩
    exact Pattern.derives_one.2 ⟨q', rfl, hquote.2 hq'⟩

theorem describes_shape (s : LineSignature) : s.shape.Describes s.pattern := by
  cases s with
  | innerAttribute => exact LineShape.describes_innerAttribute
  | selectFrom =>
    exact LineShape.describes_word (by decide) (by decide) (by decide) rfl rfl fun _ _ _ => Pattern.derives_text
  | reactImport =>
    exact LineShape.describes_word (by decide) (by decide) (by decide) rfl rfl fun _ _ _ => derives_reactSource
  | selfClosingTag => exact LineShape.describes_selfClosingTag
  | bracketCondition => exact LineShape.describes_bracketCondition

theorem mem_signatures (s : LineSignature) : Signal.pattern s.pattern ∈ s.rule.signatures := by
  cases s <;> simp [pattern, rule, Rule.rust, Rule.sql, Rule.react, Rule.shell]

theorem mem_default (s : LineSignature) : s.rule ∈ Table.default.rules := by
  cases s <;> simp [rule, Table.default, Rule.defaults]

/-- **A signature finds a text when the text can be read as head, gap and tail with a gap that is not cut off.** Without
its guard it finds every text that can be read so. -/
theorem isIn_iff_exists_reading (s : LineSignature) (text : List Char) :
    s.rule ∈ Table.default.rules ∧ Signal.pattern s.pattern ∈ s.rule.signatures ∧
      (s.pattern.withoutGuards.isIn text = true ↔ ∃ gap, s.shape.Reads text gap) ∧
      (s.pattern.isIn text = true ↔ ∃ gap, s.shape.Reads text gap ∧ ¬ s.shape.CutOff gap) := by
  exact ⟨s.mem_default, s.mem_signatures, describes_shape s text⟩

/-- Texts that the signatures find without their guards only. -/
theorem isIn_ne_withoutGuards :
    (Rule.innerAttribute.isIn "#![#![]".toList = false ∧
      Rule.innerAttribute.withoutGuards.isIn "#![#![]".toList = true) ∧
    (Rule.selectFrom.isIn "SELECT a preselect FROM t".toList = false ∧
      Rule.selectFrom.withoutGuards.isIn "SELECT a preselect FROM t".toList = true) ∧
    (Rule.reactImport.isIn "import a, reimport from 'react'".toList = false ∧
      Rule.reactImport.withoutGuards.isIn "import a, reimport from 'react'".toList = true) ∧
    (Rule.selfClosingTag.isIn "<a <b/>".toList = false ∧
      Rule.selfClosingTag.withoutGuards.isIn "<a <b/>".toList = true) ∧
    (Rule.bracketCondition.isIn "if [ a if [b ];".toList = false ∧
      Rule.bracketCondition.withoutGuards.isIn "if [ a if [b ];".toList = true) := by
  decide +kernel

end LineSignature

end SnippetLanguage
