import SnippetLanguage.Proofs.Pattern.Slice

/-!
# Head, gap and tail

Some signals ask for a head, a gap and a tail of a text, and their scan through the gap stops where it notices the next
head. A `LineShape` says what the three parts are and where in a gap a head is noticed. A text read as head, gap and
tail (`Reads`) is missed by such a scan when a later head is noticed in the gap.

The scan can go on from the last of the later heads when what follows it is a gap again. So some reading without later
heads exists exactly when some reading is not cut off at its last later head (`exists_reads_iff`).
-/

namespace SnippetLanguage

open Text

/-- The parts of a signal of the form head, gap and tail. -/
structure LineShape where
  IsHead : List Char → Prop
  IsGap : List Char → Prop
  IsTail : List Char → Prop
  /-- Whether a head in a gap is noticed, from what the gap has before and after the head. -/
  Noticed : List Char → List Char → Prop
  head_ne_nil : ∀ {xs}, IsHead xs → xs ≠ []
  noticed_append : ∀ {xs before after}, Noticed before after → Noticed (xs ++ before) after

namespace LineShape

variable {S : LineShape} {text gap before after : List Char}

/-- The text has a head, this gap and a tail, one after the other. -/
def Reads (S : LineShape) (text gap : List Char) : Prop :=
  ∃ pre head tail post, text = pre ++ head ++ gap ++ tail ++ post ∧ S.IsHead head ∧ S.IsGap gap ∧ S.IsTail tail

/-- A head is noticed in the gap between `before` and `after`. -/
def LaterHead (S : LineShape) (gap before after : List Char) : Prop :=
  ∃ head, gap = before ++ head ++ after ∧ S.IsHead head ∧ S.Noticed before after

/-- The gap has a later head, and what it has after the last one is no gap. -/
def CutOff (S : LineShape) (gap : List Char) : Prop :=
  ∃ before after, S.LaterHead gap before after ∧ (∀ b a, S.LaterHead gap b a → b.length ≤ before.length) ∧
    ¬ S.IsGap after

theorem exists_last_laterHead (h : S.LaterHead gap before after) :
    ∃ b a, S.LaterHead gap b a ∧ ∀ b' a', S.LaterHead gap b' a' → b'.length ≤ b.length := by
  induction hn : gap.length - before.length using Nat.strongRecOn generalizing before after with
  | ind n ih =>
    by_cases hex : ∃ b a, S.LaterHead gap b a ∧ before.length < b.length
    · obtain ⟨b, a, hb, hlt⟩ := hex
      have hle : b.length ≤ gap.length := by
        obtain ⟨head, hgap, _⟩ := hb
        rw [hgap]
        simp only [List.length_append]
        omega
      exact ih (gap.length - b.length) (by omega) hb rfl
    · refine ⟨before, after, h, fun b' a' hb' => ?_⟩
      by_contra hlt
      exact hex ⟨b', a', hb', by omega⟩

/-- The text can be read from a later head on. -/
theorem Reads.restart (h : S.Reads text gap) (hlater : S.LaterHead gap before after) (hgap : S.IsGap after) :
    S.Reads text after := by
  obtain ⟨pre, head, tail, post, rfl, _, _, htail⟩ := h
  obtain ⟨head', rfl, hhead', _⟩ := hlater
  exact ⟨pre ++ head ++ before, head', tail, post, by simp, hhead', hgap, htail⟩

/-- A head noticed behind a later head is noticed in the whole gap. -/
theorem LaterHead.trans {b a : List Char} (h : S.LaterHead gap before after) (h' : S.LaterHead after b a) :
    ∃ b', before.length < b'.length ∧ S.LaterHead gap b' a := by
  obtain ⟨head, rfl, hhead, _⟩ := h
  obtain ⟨head', rfl, hhead', hnoticed⟩ := h'
  refine ⟨before ++ head ++ b, ?_, head', by simp, hhead', S.noticed_append hnoticed⟩
  have := List.length_pos_iff.2 (S.head_ne_nil hhead)
  simp only [List.length_append]
  omega

/-- **Some reading has no later head exactly when some reading is not cut off.** -/
theorem exists_reads_iff :
    (∃ gap, S.Reads text gap ∧ ∀ b a, ¬ S.LaterHead gap b a) ↔ ∃ gap, S.Reads text gap ∧ ¬ S.CutOff gap := by
  constructor
  · intro h
    obtain ⟨gap, hreads, hnone⟩ := h
    refine ⟨gap, hreads, ?_⟩
    intro h
    obtain ⟨b, a, hlater, _⟩ := h
    exact hnone b a hlater
  · intro h
    obtain ⟨gap, hreads, hcut⟩ := h
    by_cases hex : ∃ b a, S.LaterHead gap b a
    · obtain ⟨b₀, a₀, h₀⟩ := hex
      obtain ⟨b, a, hlater, hlast⟩ := exists_last_laterHead h₀
      have hgap : S.IsGap a := by
        by_contra hno
        exact hcut ⟨b, a, hlater, hlast, hno⟩
      -- behind the last later head there is none
      refine ⟨a, hreads.restart hlater hgap, fun b' a' h' => ?_⟩
      obtain ⟨b'', hlt, h''⟩ := hlater.trans h'
      exact absurd (hlast b'' a' h'') (Nat.not_le_of_lt hlt)
    · exact ⟨gap, hreads, fun b a h => hex ⟨b, a, h⟩⟩

variable {P head body tail : Pattern} {Clear : List Char → Prop}

/-- A pattern made of a head, a body and a tail finds the readings whose gap the body derives. -/
theorem isIn_iff_exists_reads (hP : P.Spans = (Pattern.seq head (.seq body tail)).Spans)
    (hhead : ∀ before xs after, head.Derives before xs after ↔ S.IsHead xs)
    (htail : ∀ before xs after, tail.Derives before xs after ↔ S.IsTail xs)
    (hbody : ∀ before gap xs after, S.IsTail xs → (body.Derives before gap (xs ++ after) ↔ S.IsGap gap ∧ Clear gap)) :
    P.isIn text = true ↔ ∃ gap, S.Reads text gap ∧ Clear gap := by
  have hderives : ∀ before xs after, P.Derives before xs after ↔
      (Pattern.seq head (.seq body tail)).Derives before xs after := by
    intro before xs after
    rw [Pattern.Derives, hP]
    exact Iff.rfl
  rw [Pattern.isIn_iff_exists_piece]
  constructor
  · intro h
    obtain ⟨pre, xs, post, rfl, h⟩ := h
    rw [hderives] at h
    obtain ⟨hs, ys, rfl, hh, h⟩ := Pattern.derives_seq.1 h
    obtain ⟨gap, ts, rfl, hg, ht⟩ := Pattern.derives_seq.1 h
    rw [hhead] at hh
    rw [htail] at ht
    obtain ⟨hgap, hclear⟩ := (hbody _ _ _ _ ht).1 hg
    exact ⟨gap, ⟨pre, hs, ts, post, by simp, hh, hgap, ht⟩, hclear⟩
  · intro h
    obtain ⟨gap, ⟨pre, hs, ts, post, rfl, hh, hgap, ht⟩, hclear⟩ := h
    refine ⟨pre, hs ++ (gap ++ ts), post, by simp, (hderives _ _ _).2 ?_⟩
    refine Pattern.derives_seq.2 ⟨hs, gap ++ ts, rfl, (hhead _ _ _).2 hh, ?_⟩
    exact Pattern.derives_seq.2 ⟨gap, ts, rfl, (hbody _ _ _ _ ht).2 ⟨hgap, hclear⟩, (htail _ _ _).2 ht⟩

end LineShape

/-! ## Parts of slices -/

section Split

variable {α : Type} {xs ys before after : List α} {v : α}

/-- What stands before the element `v` lies in the first part when it does not hold `v`. -/
theorem exists_of_append_cons_eq {s rest : List α} (h : xs ++ v :: ys = s ++ rest) (hv : v ∉ s) :
    ∃ zs, xs = s ++ zs ∧ rest = zs ++ v :: ys := by
  rcases List.append_eq_append_iff.1 h with ⟨zs, hs, hrest⟩ | ⟨zs, hxs, hrest⟩
  · cases zs with
    | nil => exact ⟨[], by simpa using hs.symm, by simpa using hrest.symm⟩
    | cons z zs =>
      obtain ⟨rfl, _⟩ := List.cons.inj hrest
      exact absurd (by rw [hs]; simp) hv
  · exact ⟨zs, hxs, hrest⟩

/-- An element that the second part does not hold lies in the first. -/
theorem exists_of_append_eq_left (h : xs ++ ys = before ++ v :: after) (hv : v ∉ ys) :
    ∃ zs, xs = before ++ v :: zs ∧ after = zs ++ ys := by
  rcases List.append_eq_append_iff.1 h with ⟨zs, hb, hys⟩ | ⟨zs, hxs, hrest⟩
  · exact absurd (by rw [hys]; simp) hv
  · cases zs with
    | nil => exact absurd (by rw [← List.nil_append ys, ← hrest]; simp) hv
    | cons z zs =>
      obtain ⟨rfl, rfl⟩ := List.cons.inj hrest
      exact ⟨zs, hxs, rfl⟩

/-- An element that the first part does not hold lies in the second. -/
theorem exists_of_append_eq_right (h : xs ++ ys = before ++ v :: after) (hv : v ∉ xs) :
    ∃ zs, before = xs ++ zs ∧ ys = zs ++ v :: after := by
  rcases List.append_eq_append_iff.1 h with ⟨zs, hb, hys⟩ | ⟨zs, hxs, hrest⟩
  · exact ⟨zs, hb, hys⟩
  · cases zs with
    | nil => exact ⟨[], by simpa using hxs.symm, by simpa using hrest.symm⟩
    | cons z zs =>
      obtain ⟨rfl, _⟩ := List.cons.inj hrest
      exact absurd (by rw [hxs]; simp) hv

end Split

/-- The slice starts and ends with characters that are not blank. -/
def VisibleEnds (xs : List Char) : Prop :=
  (∃ c ∈ xs.head?, isBlank c = false) ∧ ∃ c ∈ xs.getLast?, isBlank c = false

theorem VisibleEnds.ne_nil {xs : List Char} (h : VisibleEnds xs) : xs ≠ [] := by
  rintro rfl
  obtain ⟨⟨c, hc, _⟩, _⟩ := h
  cases hc

namespace Pattern

/-! ## Sequences -/

theorem spans_seq_assoc {p q r : Pattern} : (seq (seq p q) r).Spans = (seq p (seq q r)).Spans := by
  funext u w
  apply propext
  constructor
  · intro h
    obtain ⟨v, ⟨x, hp, hq⟩, hr⟩ := h
    exact ⟨x, hp, v, hq, hr⟩
  · intro h
    obtain ⟨x, hp, v, hq, hr⟩ := h
    exact ⟨v, ⟨x, hp, hq⟩, hr⟩

theorem spans_seq_congr {p p' q q' : Pattern} (hp : p.Spans = p'.Spans) (hq : q.Spans = q'.Spans) :
    (seq p q).Spans = (seq p' q').Spans := by
  funext u w
  simp only [Spans, hp, hq]

/-! ## Scans through a line -/

variable {q : Pattern} {before xs after : List Char}

/-- The pattern without its negative look-aheads. -/
def withoutGuards : Pattern → Pattern
  | seq p q => seq p.withoutGuards q.withoutGuards
  | alt p q => alt p.withoutGuards q.withoutGuards
  | star p => star p.withoutGuards
  | notAhead _ => empty
  | p => p

/-- The pattern derives one character of a line, wherever it is not stopped. -/
def Scans (q : Pattern) (Stops : List Char → List Char → Prop) : Prop :=
  ∀ before xs after, q.Derives before xs after ↔ ∃ c, xs = [c] ∧ c ≠ '\n' ∧ ¬ Stops before (c :: after)

variable {Stops : List Char → List Char → Prop}

theorem inLine_holds_iff {c : Char} : CharClass.inLine.holds c = true ↔ c ≠ '\n' := by
  simp [CharClass.inLine, CharClass.holds]

theorem visible_holds_iff {c : Char} : CharClass.visible.holds c = true ↔ isBlank c = false := by
  simp [CharClass.visible, CharClass.holds]

theorem scans_guarded (head : Pattern) :
    Scans (seq (notAhead head) (one .inLine)) fun before after => head.Starts ⟨before, after⟩ := by
  intro before xs after
  rw [derives_seq]
  constructor
  · intro h
    obtain ⟨ys, zs, rfl, hy, hz⟩ := h
    obtain ⟨rfl, hn⟩ := derives_notAhead.1 hy
    obtain ⟨c, rfl, hc⟩ := derives_one.1 hz
    exact ⟨c, rfl, inLine_holds_iff.1 hc, hn⟩
  · intro h
    obtain ⟨c, rfl, hc, hn⟩ := h
    exact ⟨[], [c], rfl, derives_notAhead.2 ⟨rfl, hn⟩, derives_one.2 ⟨c, rfl, inLine_holds_iff.2 hc⟩⟩

theorem scans_unguarded : Scans (seq empty (one .inLine)) fun _ _ => False := by
  intro before xs after
  rw [derives_seq]
  constructor
  · intro h
    obtain ⟨ys, zs, rfl, hy, hz⟩ := h
    obtain rfl := derives_empty.1 hy
    obtain ⟨c, rfl, hc⟩ := derives_one.1 hz
    exact ⟨c, rfl, inLine_holds_iff.1 hc, not_false⟩
  · intro h
    obtain ⟨c, rfl, hc, _⟩ := h
    exact ⟨[], [c], rfl, derives_empty.2 rfl, derives_one.2 ⟨c, rfl, inLine_holds_iff.2 hc⟩⟩

/-- A stretch of a line: no line feed, and at none of its characters a stop. -/
theorem Scans.derives_star (hq : Scans q Stops) : (star q).Derives before xs after ↔
    '\n' ∉ xs ∧ ∀ ys rest, xs = ys ++ rest → rest ≠ [] → ¬ Stops (ys.reverse ++ before) (rest ++ after) := by
  rw [derives_star_single (P := fun b c a => c ≠ '\n' ∧ ¬ Stops b (c :: a)) hq]
  constructor
  · intro h
    refine ⟨fun hnl => ?_, fun ys rest hxs hne => ?_⟩
    · obtain ⟨ys, zs, hxs⟩ := List.append_of_mem hnl
      exact (h ys _ zs hxs).1 rfl
    · obtain ⟨c, zs, rfl⟩ := List.exists_cons_of_ne_nil hne
      exact (h ys c zs hxs).2
  · rintro ⟨hnl, h⟩ ys c zs rfl
    refine ⟨?_, h ys (c :: zs) rfl (by simp)⟩
    rintro rfl
    exact hnl (by simp)

theorem Scans.derives_plus (hq : Scans q Stops) : (plus q).Derives before xs after ↔
    xs ≠ [] ∧ (star q).Derives before xs after := by
  rw [plus, derives_seq]
  constructor
  · intro h
    obtain ⟨ys, zs, rfl, hy, hz⟩ := h
    obtain ⟨c, rfl, _⟩ := (hq _ _ _).1 hy
    exact ⟨by simp, derives_star_append hy hz⟩
  · intro h
    obtain ⟨hne, h⟩ := h
    obtain rfl | ⟨ys, zs, _, rfl, hy, hz⟩ := derives_star_iff.1 h
    · exact absurd rfl hne
    · exact ⟨ys, zs, rfl, hy, hz⟩

/-- A visible character, or a stretch between two of them: no line feed, and inside it no stop. -/
theorem Scans.derives_content (hq : Scans q Stops) :
    (seq (one .visible) (opt (seq (star q) (one .visible)))).Derives before xs after ↔
      VisibleEnds xs ∧ '\n' ∉ xs ∧
        ∀ ys rest, xs = ys ++ rest → ys ≠ [] → 2 ≤ rest.length → ¬ Stops (ys.reverse ++ before) (rest ++ after) := by
  have hline : ∀ {c : Char}, isBlank c = false → '\n' ≠ c := by
    rintro c hc rfl
    cases hc
  rw [derives_seq]
  constructor
  · intro h
    obtain ⟨x, rest, rfl, hx, hrest⟩ := h
    obtain ⟨x, rfl, hxv⟩ := derives_one.1 hx
    rw [visible_holds_iff] at hxv
    rcases derives_opt.1 hrest with hrest | rfl
    · obtain ⟨m, y, rfl, hm, hy⟩ := derives_seq.1 hrest
      obtain ⟨y, rfl, hyv⟩ := derives_one.1 hy
      rw [visible_holds_iff] at hyv
      rw [hq.derives_star] at hm
      refine ⟨⟨⟨x, rfl, hxv⟩, y, ?_, hyv⟩, by simp [hline hxv, hline hyv, hm.1], fun ys rest hxs hne hlen => ?_⟩
      · rw [← List.append_assoc, List.getLast?_append]
        rfl
      -- the stop would be in the stretch between the two
      obtain ⟨x', ys, rfl⟩ := List.exists_cons_of_ne_nil hne
      obtain rfl : x = x' := (List.cons.inj hxs).1
      have hrest' : m ++ [y] = ys ++ rest := (List.cons.inj hxs).2
      rcases List.append_eq_append_iff.1 hrest' with ⟨zs, _, hrest⟩ | ⟨zs, rfl, rfl⟩
      · have := congrArg List.length hrest
        simp only [List.length_append, List.length_singleton] at this
        omega
      · have hzs : zs ≠ [] := by
          rintro rfl
          simp at hlen
        simpa using hm.2 ys zs rfl hzs
    · refine ⟨⟨⟨x, rfl, hxv⟩, x, rfl, hxv⟩, by simp [hline hxv], fun ys rest hxs hne hlen => ?_⟩
      have hlen' := congrArg List.length hxs
      have := List.length_pos_iff.2 hne
      simp only [List.length_append, List.length_cons, List.length_nil] at hlen'
      omega
  · intro h
    obtain ⟨⟨⟨x, hx, hxb⟩, y, hy, hyb⟩, hnl, h⟩ := h
    obtain ⟨rest, rfl⟩ := List.head?_eq_some_iff.1 hx
    refine ⟨[x], rest, rfl, derives_one.2 ⟨x, rfl, visible_holds_iff.2 hxb⟩, derives_opt.2 ?_⟩
    rcases List.eq_nil_or_concat' rest with rfl | ⟨m, y', rfl⟩
    · exact .inr rfl
    · obtain rfl : y' = y := by
        rw [show x :: (m ++ [y']) = (x :: m) ++ [y'] from rfl, List.getLast?_append] at hy
        exact Option.some.inj hy
      refine .inl (derives_seq.2 ⟨m, [y'], rfl, hq.derives_star.2 ⟨?_, fun ys zs hm hne => ?_⟩, ?_⟩)
      · intro hm
        exact hnl (by simp [hm])
      · subst hm
        have := h (x :: ys) (zs ++ [y']) (by simp) (by simp)
          (by have := List.length_pos_iff.2 hne; simp only [List.length_append, List.length_singleton]; omega)
        simpa using this
      · exact derives_one.2 ⟨y', rfl, visible_holds_iff.2 hyb⟩

end Pattern

/-! ## What a shape says of a pattern -/

namespace LineShape

variable {S : LineShape} {p head body free tail : Pattern}

/-- The shape says what a pattern finds without its guards, and what it misses with them. -/
def Describes (S : LineShape) (p : Pattern) : Prop :=
  ∀ text, (p.withoutGuards.isIn text = true ↔ ∃ gap, S.Reads text gap) ∧
    (p.isIn text = true ↔ ∃ gap, S.Reads text gap ∧ ¬ S.CutOff gap)

theorem describes_of_body (hp : p.Spans = (Pattern.seq head (.seq body tail)).Spans)
    (hfree : p.withoutGuards.Spans = (Pattern.seq head (.seq free tail)).Spans)
    (hhead : ∀ before xs after, head.Derives before xs after ↔ S.IsHead xs)
    (htail : ∀ before xs after, tail.Derives before xs after ↔ S.IsTail xs)
    (hbody : ∀ before gap xs after, S.IsTail xs →
      (body.Derives before gap (xs ++ after) ↔ S.IsGap gap ∧ ∀ b a, ¬ S.LaterHead gap b a))
    (hgap : ∀ before gap xs after, S.IsTail xs → (free.Derives before gap (xs ++ after) ↔ S.IsGap gap)) :
    S.Describes p := by
  intro text
  constructor
  · have := @isIn_iff_exists_reads S text p.withoutGuards head free tail (fun _ => True) hfree hhead htail
      fun before gap xs after hxs => by rw [hgap before gap xs after hxs, and_true]
    simpa using this
  · rw [isIn_iff_exists_reads hp hhead htail hbody, exists_reads_iff]

end LineShape

end SnippetLanguage
