import SnippetLanguage.Proofs.Pattern.Carry
import SnippetLanguage.Proofs.Text.LineEnding

/-!
# Patterns and line endings

A text and the one with a carriage return before every line feed are compared place by place. A place of the longer text
corresponds to one of the text, or it is inside a line ending. How closely two places correspond is an `Alignment`, which
changes from step to step.

* `forth` follows a pattern through both texts from a derivation in the text, `back` from one in the longer text: each
  tells how closely the places behind the pattern correspond, if that is known (`carries_forth`, `carries_back`).
* A class with the line feed takes one character of the text and may need two of the longer one, so a run is needed
  before the places correspond again. In the other direction a run may stop between the two.
* `isIn_crlf_eq`: a pattern that both ways get through is in both texts or in neither.
-/

namespace SnippetLanguage

open Text

/-! ## Places -/

/-- How closely two places correspond. -/
inductive Alignment where
  /-- the one is the other, line endings apart -/
  | exact
  /-- or it is behind the line ending that the other one is inside of -/
  | behind
  /-- or it is before or behind the line ending that the other one is inside of -/
  | around
  deriving Repr, DecidableEq

namespace Place

variable {u u' : Place} {s : Alignment} {c : Char} {before after rest : List Char}

/-- The same place of the text with carriage returns. -/
def crlf (u : Place) : Place := ⟨(Text.crlf u.before.reverse).reverse, Text.crlf u.after⟩

/-- The place inside the line ending between the given characters. -/
def insideEnding (before after : List Char) : Place :=
  ⟨'\r' :: (Text.crlf before.reverse).reverse, '\n' :: Text.crlf after⟩

/-- The second place, in the text with carriage returns, corresponds to the first as closely as the alignment says. -/
def LinesUp (s : Alignment) (u u' : Place) : Prop :=
  u' = u.crlf ∨ ∃ before after, u' = insideEnding before after ∧
    ((s ≠ .exact ∧ u = ⟨'\n' :: before, after⟩) ∨ (s = .around ∧ u = ⟨before, '\n' :: after⟩))

theorem text_crlf (u : Place) : u.crlf.text = Text.crlf u.text := by
  simp [crlf, text]

theorem linesUp_exact_iff : LinesUp .exact u u' ↔ u' = u.crlf := by
  constructor
  · intro h
    rcases h with h | ⟨_, _, _, ⟨hs, _⟩ | ⟨hs, _⟩⟩
    · exact h
    · exact absurd rfl hs
    · cases hs
  · exact fun h => .inl h

theorem linesUp_crlf (s : Alignment) (u : Place) : LinesUp s u u.crlf := .inl rfl

theorem LinesUp.around (h : LinesUp s u u') : LinesUp .around u u' := by
  rcases h with h | ⟨before, after, hu', ⟨_, hu⟩ | ⟨_, hu⟩⟩
  · exact .inl h
  · exact .inr ⟨before, after, hu', .inl ⟨by decide, hu⟩⟩
  · exact .inr ⟨before, after, hu', .inr ⟨rfl, hu⟩⟩

/-! ### One character further -/

theorem crlf_cons_before (hc : c ≠ '\n') :
    crlf ⟨c :: before, after⟩ = ⟨c :: (Text.crlf before.reverse).reverse, Text.crlf after⟩ := by
  simp [crlf, Text.crlf_cons hc]

theorem crlf_newline_before :
    crlf ⟨'\n' :: before, after⟩ = ⟨'\n' :: '\r' :: (Text.crlf before.reverse).reverse, Text.crlf after⟩ := by
  simp [crlf]

theorem after_crlf (ha : u.after = c :: rest) (hc : c ≠ '\n') : u.crlf.after = c :: Text.crlf rest := by
  change Text.crlf u.after = _
  rw [ha, Text.crlf_cons hc]

theorem after_crlf_newline (ha : u.after = '\n' :: rest) : u.crlf.after = '\r' :: '\n' :: Text.crlf rest := by
  change Text.crlf u.after = _
  rw [ha, crlf_newline]

/-- Behind a character of the longer text: it is one of the text, or the carriage return of a line ending. -/
theorem exists_of_after_crlf_eq_cons (h : u.crlf.after = c :: rest) :
    (c ≠ '\n' ∧ ∃ after, u.after = c :: after ∧ (⟨c :: u.crlf.before, rest⟩ : Place) = crlf ⟨c :: u.before, after⟩) ∨
      (c = '\r' ∧ ∃ after, u.after = '\n' :: after ∧
        (⟨c :: u.crlf.before, rest⟩ : Place) = insideEnding u.before after) := by
  obtain ⟨before, after⟩ := u
  cases after with
  | nil => cases h
  | cons x after =>
    by_cases hx : x = '\n'
    · subst hx
      obtain ⟨rfl, rfl⟩ := List.cons.inj h
      exact .inr ⟨rfl, after, rfl, rfl⟩
    · change Text.crlf (x :: after) = c :: rest at h
      rw [Text.crlf_cons hx] at h
      obtain ⟨rfl, rfl⟩ := List.cons.inj h
      exact .inl ⟨hx, after, rfl, (crlf_cons_before hx).symm⟩

/-- Every place of the longer text is one of the text or inside a line ending of it. -/
theorem exists_linesUp {text : List Char} (h : u'.text = Text.crlf text) :
    ∃ u : Place, u.text = text ∧ LinesUp .behind u u' := by
  obtain ⟨before, after⟩ := u'
  change before.reverse ++ after = Text.crlf text at h
  by_cases hsplit : '\r' ∈ before.reverse.getLast? → '\n' ∉ after.head?
  · obtain ⟨as, bs, rfl, has, hbs⟩ := exists_split_of_crlf_eq_append h.symm hsplit
    refine ⟨⟨as.reverse, bs⟩, by simp [text], .inl ?_⟩
    simp [crlf, has, hbs]
  · simp only [Classical.not_imp, Classical.not_not, List.getLast?_reverse] at hsplit
    obtain ⟨hreturn, hfeed⟩ := hsplit
    obtain ⟨before, rfl⟩ := List.head?_eq_some_iff.1 hreturn
    obtain ⟨after, rfl⟩ := List.head?_eq_some_iff.1 hfeed
    -- the text is split behind the line ending instead
    have hbehind : Text.crlf text = (before.reverse ++ ['\r', '\n']) ++ after := by
      rw [← h]
      simp
    obtain ⟨as, bs, rfl, has, rfl⟩ := exists_split_of_crlf_eq_append hbehind (by simp)
    have hlast : '\n' ∈ as.getLast? := by
      rw [← getLast?_crlf, has]
      simp
    obtain ⟨as, rfl⟩ := List.getLast?_eq_some_iff.1 hlast
    rw [crlf_append, crlf_newline, Text.crlf_nil] at has
    have hbefore : Text.crlf as = before.reverse := List.append_cancel_right has
    refine ⟨⟨'\n' :: as.reverse, bs⟩, by simp [text], .inr ⟨as.reverse, bs, ?_, .inl ⟨by decide, rfl⟩⟩⟩
    simp [insideEnding, hbefore]

/-! ### What stands at a place -/

theorem head?_before_crlf (u : Place) : u.crlf.before.head? = u.before.head? := by
  simp [crlf, getLast?_crlf]

theorem atWordEdge_crlf (u : Place) :
    atWordEdge u.crlf.before u.crlf.after = atWordEdge u.before u.after := by
  have hword : isWord '\r' = isWord '\n' := by decide
  rw [atWordEdge, atWordEdge, head?_before_crlf, show u.crlf.after = Text.crlf u.after from rfl, any_head?_crlf hword]

theorem isEmpty_before_crlf (u : Place) : u.crlf.before.isEmpty = u.before.isEmpty := by
  have hempty : ∀ xs : List Char, xs.isEmpty = xs.head?.isNone := by
    intro xs
    cases xs <;> rfl
  rw [hempty, hempty, head?_before_crlf]

theorem atLineStart_crlf (u : Place) : atLineStart u.crlf.before = atLineStart u.before := by
  have hstart : ∀ xs : List Char, atLineStart xs = xs.head?.all (· == '\n') := by
    intro xs
    cases xs <;> rfl
  rw [hstart, hstart, head?_before_crlf]

end Place

namespace Pattern

variable {p : Pattern} {s s' : Alignment} {cls : CharClass}

open Place

/-- An empty slice between the same characters, which no line ending has inside. -/
theorem carries_still_crlf {b : Place → Bool} (hspans : ∀ u v, p.Spans u v ↔ v = u ∧ b u = true)
    (hcrlf : ∀ u, b u.crlf = b u) (hinside : ∀ before after, b (insideEnding before after) = false) :
    Carries (LinesUp .exact) (LinesUp .exact) p ∧
      Carries (fun u' u => LinesUp s u u') (fun v' v => LinesUp .exact v v') p := by
  constructor
  · refine carries_still hspans fun u u' hu h => ?_
    obtain rfl := linesUp_exact_iff.1 hu
    exact ⟨hu, (hcrlf u).trans h⟩
  · refine carries_still hspans fun u' u hu h => ?_
    rcases hu with rfl | ⟨before, after, rfl, _⟩
    · exact ⟨linesUp_crlf .exact u, (hcrlf u).symm.trans h⟩
    · rw [hinside] at h
      cases h

theorem carries_wordEdge_crlf : Carries (LinesUp .exact) (LinesUp .exact) wordEdge ∧
    Carries (fun u' u => LinesUp s u u') (fun v' v => LinesUp .exact v v') wordEdge := by
  refine carries_still_crlf (b := fun u => atWordEdge u.before u.after) (fun _ _ => Iff.rfl) atWordEdge_crlf ?_
  intro before after
  exact (by decide : (isWord '\r' != isWord '\n') = false)

theorem carries_textStart_crlf : Carries (LinesUp .exact) (LinesUp .exact) textStart ∧
    Carries (fun u' u => LinesUp s u u') (fun v' v => LinesUp .exact v v') textStart := by
  refine carries_still_crlf (b := fun u => u.before.isEmpty) (fun u v => ?_) isEmpty_before_crlf fun _ _ => rfl
  rw [List.isEmpty_iff]
  exact Iff.rfl

theorem carries_lineStart_crlf : Carries (LinesUp .exact) (LinesUp .exact) lineStart ∧
    Carries (fun u' u => LinesUp s u u') (fun v' v => LinesUp .exact v v') lineStart :=
  carries_still_crlf (b := fun u => atLineStart u.before) (fun _ _ => Iff.rfl) atLineStart_crlf fun _ _ => rfl

/-! ## From the text to the longer text -/

/-- How closely the places behind a pattern correspond, for a derivation in the text. -/
def forth : Pattern → Alignment → Option Alignment
  | one cls, .exact => if !cls.holds '\n' then some .exact else if cls.holds '\r' then some .behind else none
  | literal l, .exact => if l.chars.all (!l.admits · '\n') then some .exact else none
  | seq p q, s => (p.forth s).bind fun m => q.forth m
  | star (one cls), .exact => if !cls.holds '\n' || cls.holds '\r' then some .exact else none
  | star (one cls), .behind => if cls.holds '\n' && cls.holds '\r' then some .exact else none
  | wordEdge, .exact => some .exact
  | textStart, .exact => some .exact
  | lineStart, .exact => some .exact
  | _, _ => none

/-- A character that is no line feed is one character of both texts. -/
theorem moves_crlf {P : Char → Bool} (hP : P '\n' = false) :
    Moves (LinesUp .exact) (LinesUp .exact) fun c => P c = true := by
  intro u u' c rest hu ha hc
  obtain rfl := linesUp_exact_iff.1 hu
  have hne : c ≠ '\n' := by
    rintro rfl
    exact Bool.false_ne_true (hP.symm.trans hc)
  exact ⟨c, Text.crlf rest, after_crlf ha hne, hc, linesUp_exact_iff.2 (crlf_cons_before hne).symm⟩

/-- A line feed of the text is half a line ending of the longer one. -/
theorem moves_crlf_behind {P : Char → Bool} (hP : P '\r' = true) :
    Moves (LinesUp .exact) (LinesUp .behind) fun c => P c = true := by
  intro u u' c rest hu ha hc
  obtain rfl := linesUp_exact_iff.1 hu
  by_cases hne : c = '\n'
  · subst hne
    refine ⟨'\r', '\n' :: Text.crlf rest, after_crlf_newline ha, hP, .inr ⟨u.before, rest, rfl, ?_⟩⟩
    exact .inl ⟨by decide, rfl⟩
  · exact ⟨c, Text.crlf rest, after_crlf ha hne, hc, .inl (crlf_cons_before hne).symm⟩

/-- From inside a line ending a class with the line feed leads behind it. -/
theorem spans_insideEnding (hn : cls.holds '\n' = true) {before after : List Char} :
    (one cls).Spans (insideEnding before after) (Place.crlf ⟨'\n' :: before, after⟩) := by
  rw [crlf_newline_before]
  exact ⟨'\n', hn, rfl, rfl⟩

/-- A line feed of the text is a carriage return and a line feed of the longer one. -/
theorem repeats_crlf_ending (hn : cls.holds '\n' = true) (hr : cls.holds '\r' = true) {u : Place} {rest : List Char}
    (ha : u.after = '\n' :: rest) : Repeats (one cls).Spans u.crlf (Place.crlf ⟨'\n' :: u.before, rest⟩) := by
  have hfirst : (one cls).Spans u.crlf (insideEnding u.before rest) := ⟨'\r', hr, after_crlf_newline ha, rfl⟩
  exact .more hfirst (.more (spans_insideEnding hn) (.none _))

theorem carries_run_crlf (h : (!cls.holds '\n' || cls.holds '\r') = true) :
    Carries (LinesUp .exact) (LinesUp .exact) (star (one cls)) := by
  refine carries_star_of_repeats fun u u' v hu hs => ?_
  obtain rfl := linesUp_exact_iff.1 hu
  obtain ⟨c, hc, ha, hb⟩ := hs
  have hv : v = ⟨c :: u.before, v.after⟩ := by rw [← hb]
  refine ⟨v.crlf, linesUp_crlf .exact v, ?_⟩
  by_cases hne : c = '\n'
  · subst hne
    rw [hc, Bool.not_true, Bool.false_or] at h
    rw [hv]
    exact repeats_crlf_ending hc h ha
  · have hbefore : v.crlf.before = c :: u.crlf.before := by
      rw [hv, crlf_cons_before hne]
      rfl
    exact .more ⟨c, hc, after_crlf ha hne, hbefore⟩ (.none _)

/-- A run finishes the line ending that the other place is inside of. -/
theorem carries_run_crlf_behind (hn : cls.holds '\n' = true) (hr : cls.holds '\r' = true) :
    Carries (LinesUp .behind) (LinesUp .exact) (star (one cls)) := by
  intro u u' v hu hs
  have hrun : Carries (LinesUp .exact) (LinesUp .exact) (star (one cls)) := carries_run_crlf (by rw [hr, Bool.or_true])
  obtain ⟨v', hv, hs'⟩ := hrun (linesUp_crlf .exact u) hs
  rcases hu with rfl | ⟨before, after, rfl, ⟨_, rfl⟩ | ⟨hs, _⟩⟩
  · exact ⟨v', hv, hs'⟩
  · exact ⟨v', hv, .more (spans_insideEnding hn) hs'⟩
  · cases hs

/-- **What `forth` tells of the places behind a pattern is so.** -/
theorem carries_forth (h : p.forth s = some s') : Carries (LinesUp s) (LinesUp s') p := by
  fun_induction forth p s generalizing s' with
  | case1 cls hcls =>
    obtain rfl := Option.some.inj h
    exact carries_one (moves_crlf (by simpa using hcls))
  | case2 cls _ hcls =>
    obtain rfl := Option.some.inj h
    exact carries_one (moves_crlf_behind hcls)
  | case3 => cases h
  | case4 l hl =>
    obtain rfl := Option.some.inj h
    exact carries_literal fun c hc => moves_crlf (by simpa using List.all_eq_true.1 hl c hc)
  | case5 => cases h
  | case6 p q s ihp ihq =>
    obtain ⟨m, hm, hq⟩ := Option.bind_eq_some_iff.1 h
    exact carries_seq (ihp hm) (ihq m hq)
  | case7 cls hcls =>
    obtain rfl := Option.some.inj h
    exact carries_run_crlf hcls
  | case8 => cases h
  | case9 cls hcls =>
    obtain rfl := Option.some.inj h
    rw [Bool.and_eq_true] at hcls
    exact carries_run_crlf_behind hcls.1 hcls.2
  | case10 => cases h
  | case11 =>
    obtain rfl := Option.some.inj h
    exact (carries_wordEdge_crlf (s := .exact)).1
  | case12 =>
    obtain rfl := Option.some.inj h
    exact (carries_textStart_crlf (s := .exact)).1
  | case13 =>
    obtain rfl := Option.some.inj h
    exact (carries_lineStart_crlf (s := .exact)).1
  | case14 => cases h

/-! ## From the longer text to the text -/

/-- How closely the places behind a pattern correspond, for a derivation in the text with carriage returns. -/
def back : Pattern → Alignment → Option Alignment
  | one cls, s =>
    if !cls.holds '\n' && !cls.holds '\r' then some .exact
    else if s == .exact && cls.holds '\n' then some .behind
    else none
  | literal l, _ =>
    if !l.chars.isEmpty && l.chars.all fun c => !l.admits c '\n' && !l.admits c '\r' then some .exact else none
  | seq p q, s => (p.back s).bind fun m => q.back m
  | star (one cls), s => if !cls.holds '\n' && !cls.holds '\r' then some s else some .around
  | wordEdge, _ => some .exact
  | textStart, _ => some .exact
  | lineStart, _ => some .exact
  | _, _ => none

/-- A character that belongs to no line ending is one character of both texts. -/
theorem moves_crlf_back {P : Char → Bool} (hn : P '\n' = false) (hr : P '\r' = false) :
    Moves (fun u' u => LinesUp s u u') (fun v' v => LinesUp .exact v v') fun c => P c = true := by
  intro u' u c rest hu ha hc
  rcases hu with rfl | ⟨before, after, rfl, _⟩
  · rcases exists_of_after_crlf_eq_cons ha with ⟨_, after, hafter, hv⟩ | ⟨rfl, _⟩
    · exact ⟨c, after, hafter, hc, linesUp_exact_iff.2 hv⟩
    · exact (Bool.false_ne_true (hr.symm.trans hc)).elim
  · obtain ⟨rfl, _⟩ := List.cons.inj ha
    exact (Bool.false_ne_true (hn.symm.trans hc)).elim

/-- A class with the line feed takes it where the longer text has the carriage return before it. -/
theorem moves_crlf_back_behind {P : Char → Bool} (hn : P '\n' = true) :
    Moves (fun u' u => LinesUp .exact u u') (fun v' v => LinesUp .behind v v') fun c => P c = true := by
  intro u' u c rest hu ha hc
  obtain rfl := linesUp_exact_iff.1 hu
  rcases exists_of_after_crlf_eq_cons ha with ⟨_, after, hafter, hv⟩ | ⟨rfl, after, hafter, hv⟩
  · exact ⟨c, after, hafter, hc, .inl hv⟩
  · exact ⟨'\n', after, hafter, hn, .inr ⟨u.before, after, hv, .inl ⟨by decide, rfl⟩⟩⟩

/-- Through a run the places never part further than around one line ending. -/
theorem carries_run_crlf_back :
    Carries (fun u' u => LinesUp .around u u') (fun v' v => LinesUp .around v v') (star (one cls)) := by
  refine carries_star_of_repeats fun u' u v' hu hs => ?_
  obtain ⟨c, hc, ha, hb⟩ := hs
  have hv' : v' = ⟨c :: u'.before, v'.after⟩ := by rw [← hb]
  rw [hv']
  rcases hu with rfl | ⟨before, after, rfl, hu⟩
  · rcases exists_of_after_crlf_eq_cons ha with ⟨_, after, hafter, hv⟩ | ⟨_, after, hafter, hv⟩
    · exact ⟨⟨c :: u.before, after⟩, .inl hv, .more ⟨c, hc, hafter, rfl⟩ (.none _)⟩
    · -- the run of the text stays before the line feed
      refine ⟨u, .inr ⟨u.before, after, hv, .inr ⟨rfl, ?_⟩⟩, .none u⟩
      rw [← hafter]
  · obtain ⟨rfl, hrest⟩ := List.cons.inj ha
    have hv : (⟨'\n' :: (insideEnding before after).before, v'.after⟩ : Place) =
        Place.crlf ⟨'\n' :: before, after⟩ := by
      rw [crlf_newline_before, hrest]
      rfl
    rcases hu with ⟨_, rfl⟩ | ⟨_, rfl⟩
    · exact ⟨_, .inl hv, .none _⟩
    · exact ⟨_, .inl hv, .more ⟨'\n', hc, rfl, rfl⟩ (.none _)⟩

/-- Once a literal has started, the places correspond. -/
theorem carries_literal_crlf_back {l : Literal} (hne : l.chars ≠ [])
    (hl : ∀ c ∈ l.chars, l.admits c '\n' = false ∧ l.admits c '\r' = false) :
    Carries (fun u' u => LinesUp s u u') (fun v' v => LinesUp .exact v v') (literal l) := by
  have hexact : Carries (fun u' u => LinesUp .exact u u') (fun v' v => LinesUp .exact v v') (literal l) :=
    carries_literal fun c hc => moves_crlf_back (hl c hc).1 (hl c hc).2
  intro u' u v' hu hs
  rcases hu with rfl | ⟨before, after, rfl, _⟩
  · exact hexact (linesUp_crlf .exact u) hs
  · -- no literal starts at the line feed
    obtain ⟨c, cs, hchars⟩ := List.exists_cons_of_ne_nil hne
    obtain ⟨xs, hlen, hxs, ha, _⟩ := hs
    rw [hchars] at hlen
    obtain ⟨x, xs, rfl⟩ := List.exists_cons_of_length_eq_add_one hlen
    obtain ⟨rfl, _⟩ := List.cons.inj ha
    rw [Literal.begins, hchars, Literal.agreesFrom, (hl c (by simp [hchars])).1] at hxs
    cases hxs

/-- **What `back` tells of the places behind a pattern is so.** -/
theorem carries_back (h : p.back s = some s') :
    Carries (fun u' u => LinesUp s u u') (fun v' v => LinesUp s' v v') p := by
  fun_induction back p s generalizing s' with
  | case1 cls s hcls =>
    obtain rfl := Option.some.inj h
    simp only [Bool.and_eq_true, Bool.not_eq_true'] at hcls
    exact carries_one (moves_crlf_back hcls.1 hcls.2)
  | case2 cls s _ hcls =>
    obtain rfl := Option.some.inj h
    rw [Bool.and_eq_true, beq_iff_eq] at hcls
    obtain ⟨rfl, hn⟩ := hcls
    exact carries_one (moves_crlf_back_behind hn)
  | case3 => cases h
  | case4 l s hl =>
    obtain rfl := Option.some.inj h
    rw [Bool.and_eq_true] at hl
    refine carries_literal_crlf_back (by simpa using hl.1) fun c hc => ?_
    simpa using List.all_eq_true.1 hl.2 c hc
  | case5 => cases h
  | case6 p q s ihp ihq =>
    obtain ⟨m, hm, hq⟩ := Option.bind_eq_some_iff.1 h
    exact carries_seq (ihp hm) (ihq m hq)
  | case7 cls s hcls =>
    obtain rfl := Option.some.inj h
    simp only [Bool.and_eq_true, Bool.not_eq_true'] at hcls
    have hone := carries_one (@moves_crlf_back s cls.holds hcls.1 hcls.2)
    exact carries_star (hone.mono (fun _ _ hu => hu) fun _ _ hv => .inl (linesUp_exact_iff.1 hv))
  | case8 cls s =>
    obtain rfl := Option.some.inj h
    exact carries_run_crlf_back.mono (fun _ _ hu => hu.around) fun _ _ hv => hv
  | case9 =>
    obtain rfl := Option.some.inj h
    exact carries_wordEdge_crlf.2
  | case10 =>
    obtain rfl := Option.some.inj h
    exact carries_textStart_crlf.2
  | case11 =>
    obtain rfl := Option.some.inj h
    exact carries_lineStart_crlf.2
  | case12 => cases h

/-! ## Both ways -/

/-- Whether the ways through a pattern are known in both directions. -/
def keepsEndings (p : Pattern) : Bool := (p.forth .exact).isSome && (p.back .behind).isSome

/-- **A pattern that both ways get through is not changed by the line endings of a text.** -/
theorem isIn_crlf_eq {text : List Char} (hp : p.keepsEndings = true) : p.isIn (Text.crlf text) = p.isIn text := by
  rw [keepsEndings, Bool.and_eq_true, Option.isSome_iff_exists, Option.isSome_iff_exists] at hp
  obtain ⟨⟨s, hs⟩, s', hs'⟩ := hp
  rw [Bool.eq_iff_iff]
  constructor
  · exact isIn_of_carries (carries_back hs') fun u' hu' => exists_linesUp hu'
  · refine isIn_of_carries (carries_forth hs) fun u hu => ⟨u.crlf, ?_, linesUp_crlf .exact u⟩
    rw [text_crlf, hu]

end Pattern

end SnippetLanguage
