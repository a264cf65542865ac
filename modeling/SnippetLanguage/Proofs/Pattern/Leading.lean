import Mathlib.Data.List.Induction
import SnippetLanguage.Proofs.Pattern.Padded
import SnippetLanguage.Proofs.Pattern.Within

/-!
# Blanks before a text

Blanks that are put before a text change nothing for a pattern that starts with something visible and has no anchor: it
starts behind them (`isIn_blanks_append`). A pattern that asks for the start of the text, and one that asks for the
start of a line, may allow for a run of blanks right after it. The run then takes in the blanks before the text, all of
them (`isIn_blanks_append_of_textStart`) or those on the last of their lines (`isIn_blanks_append_of_lineStart`).
-/

namespace SnippetLanguage

open Text

/-! ## Visible characters -/

/-- Whether the class has visible characters only. -/
def CharClass.isVisible : CharClass → Bool
  | any => false
  | char c => !isBlank c
  | blank => false
  | word => true
  | digit => true
  | union a b => a.isVisible && b.isVisible
  | without a _ => a.isVisible

theorem CharClass.isBlank_of_holds {cls : CharClass} {x : Char} (hcls : cls.isVisible = true)
    (hx : cls.holds x = true) : isBlank x = false := by
  induction cls with
  | any => cases hcls
  | char c =>
    obtain rfl : x = c := beq_iff_eq.1 hx
    simpa [isVisible] using hcls
  | blank => cases hcls
  | word => exact isBlank_of_isWord hx
  | digit => exact isBlank_of_isDigit hx
  | union a b iha ihb =>
    rw [isVisible, Bool.and_eq_true] at hcls
    rw [holds, Bool.or_eq_true] at hx
    exact hx.elim (iha hcls.1) (ihb hcls.2)
  | without a b iha _ =>
    rw [holds, Bool.and_eq_true] at hx
    exact iha hcls hx.1

/-- Whether the first character of a literal is visible in every letter case. -/
def Literal.startsVisible (l : Literal) : Bool := l.chars.head?.any fun c => !isBlank (letterKey c)

theorem Literal.isBlank_of_admits {l : Literal} {c x : Char} (hc : isBlank (letterKey c) = false)
    (hx : l.admits c x = true) : isBlank x = false := by
  unfold Literal.admits at hx
  split at hx
  · exact isBlank_of_sameLetter hx hc
  · obtain rfl : x = c := beq_iff_eq.1 hx
    exact isBlank_of_sameLetter (sameLetter_refl x) hc

namespace Pattern

variable {p q : Pattern} {u : Place} {text lead : List Char} {cls : CharClass}

/-- Whether a pattern starts with a visible character wherever it starts. -/
def startsVisible : Pattern → Bool
  | one cls => cls.isVisible
  | literal l => l.startsVisible
  | seq wordEdge q => q.startsVisible
  | seq p _ => p.startsVisible
  | alt p q => p.startsVisible && q.startsVisible
  | _ => false

theorem exists_visible_of_starts (hp : p.startsVisible = true) (h : p.Starts u) :
    ∃ c rest, u.after = c :: rest ∧ isBlank c = false := by
  obtain ⟨v, hv⟩ := h
  fun_induction startsVisible p generalizing v with
  | case1 cls =>
    obtain ⟨c, hc, ha, _⟩ := hv
    exact ⟨c, v.after, ha, CharClass.isBlank_of_holds hp hc⟩
  | case2 l =>
    obtain ⟨xs, hlen, hxs, ha, _⟩ := hv
    obtain ⟨c, cs, hchars, hc⟩ : ∃ c cs, l.chars = c :: cs ∧ isBlank (letterKey c) = false := by
      unfold Literal.startsVisible at hp
      cases hchars : l.chars with
      | nil => simp [hchars] at hp
      | cons c cs => exact ⟨c, cs, rfl, by simpa [hchars] using hp⟩
    rw [hchars] at hlen
    obtain ⟨x, xs, rfl⟩ := List.exists_cons_of_length_eq_add_one hlen
    rw [Literal.begins, hchars, Literal.agreesFrom, Bool.and_eq_true] at hxs
    exact ⟨x, xs ++ v.after, ha, Literal.isBlank_of_admits hc hxs.1⟩
  | case3 q ih =>
    obtain ⟨w, ⟨rfl, _⟩, hq⟩ := hv
    exact ih hp v hq
  | case4 p q _ ih =>
    obtain ⟨w, hpw, _⟩ := hv
    exact ih hp w hpw
  | case5 p q ihp ihq =>
    rw [Bool.and_eq_true] at hp
    cases hv with
    | inl hv => exact ihp hp.1 v hv
    | inr hv => exact ihq hp.2 v hv
  | case6 => cases hp

/-! ## Without anchors -/

theorem head?_reverse_of_blanks (hb : Blanks lead) : ∀ c ∈ lead.reverse.head?, isWord c = false :=
  fun c hc => isWord_of_isBlank (hb c (List.mem_reverse.1 (List.mem_of_mem_head? hc)))

/-- A pattern without anchors starts at the same places behind blanks. -/
theorem starts_append_blanks (hb : Blanks lead) (hp : p.unanchored = true) {before after : List Char} :
    p.Starts ⟨before ++ lead.reverse, after⟩ ↔ p.Starts ⟨before, after⟩ := by
  have h := @starts_within_iff lead.reverse ⟨before, after⟩ p (head?_reverse_of_blanks hb) hp
  rwa [Place.within, List.append_nil] at h

/-- A visible character behind blanks and a text is behind the blanks. -/
theorem exists_of_blanks_append_eq (hb : Blanks lead) {before rest : List Char} {c : Char} (hc : isBlank c = false)
    (h : lead ++ text = before ++ c :: rest) : ∃ mid, before = lead ++ mid ∧ text = mid ++ c :: rest :=
  exists_of_append_eq_right h (notMem_of_blanks hb hc)

/-- **Blanks before a text are nothing to a pattern that starts with something visible.** -/
theorem isIn_blanks_append (hb : Blanks lead) (hp : p.startsVisible = true) (ha : p.unanchored = true) :
    p.isIn (lead ++ text) = true ↔ p.isIn text = true := by
  rw [isIn_iff_exists_starts, isIn_iff_exists_starts]
  constructor
  · intro h
    obtain ⟨⟨before, after⟩, htext, hs⟩ := h
    obtain ⟨c, rest, rfl, hc⟩ := exists_visible_of_starts hp hs
    obtain ⟨mid, hbefore, rfl⟩ := exists_of_blanks_append_eq hb hc htext.symm
    have hplace : before = mid.reverse ++ lead.reverse := by
      rw [← List.reverse_reverse before, hbefore, List.reverse_append]
    rw [hplace, starts_append_blanks hb ha] at hs
    exact ⟨⟨mid.reverse, c :: rest⟩, by simp [Place.text], hs⟩
  · intro h
    obtain ⟨⟨before, after⟩, rfl, hs⟩ := h
    exact ⟨⟨before ++ lead.reverse, after⟩, by simp [Place.text], (starts_append_blanks hb ha).2 hs⟩

/-! ## Behind an anchor and a run -/

theorem starts_run_iff {before after : List Char} : (seq (star (one cls)) q).Starts ⟨before, after⟩ ↔
    ∃ run rest, after = run ++ rest ∧ (∀ x ∈ run, cls.holds x = true) ∧ q.Starts ⟨run.reverse ++ before, rest⟩ := by
  constructor
  · intro h
    obtain ⟨v, w, hw, hq⟩ := h
    obtain ⟨run, ha, hbefore, hrun⟩ := spans_iff_exists_derives.1 hw
    refine ⟨run, w.after, ha, derives_star_one.1 hrun, v, ?_⟩
    rw [show (⟨run.reverse ++ before, w.after⟩ : Place) = w by rw [← show w.before = run.reverse ++ before from hbefore]]
    exact hq
  · intro h
    obtain ⟨run, rest, rfl, hrun, v, hq⟩ := h
    exact ⟨v, ⟨run.reverse ++ before, rest⟩, derives_star_one.2 hrun, hq⟩

theorem isIn_textStart_run_iff : (seq textStart (seq (star (one cls)) q)).isIn text = true ↔
    ∃ run rest, text = run ++ rest ∧ (∀ x ∈ run, cls.holds x = true) ∧ q.Starts ⟨run.reverse, rest⟩ := by
  rw [isIn_iff_exists_starts]
  constructor
  · intro h
    obtain ⟨⟨before, after⟩, rfl, v, w, ⟨rfl, rfl⟩, hrest⟩ := h
    obtain ⟨run, rest, rfl, hrun, hq⟩ := starts_run_iff.1 ⟨v, hrest⟩
    exact ⟨run, rest, rfl, hrun, by simpa using hq⟩
  · intro h
    obtain ⟨run, rest, rfl, hrun, hq⟩ := h
    obtain ⟨v, hv⟩ := starts_run_iff.2 ⟨run, rest, rfl, hrun, by rw [List.append_nil]; exact hq⟩
    exact ⟨Place.start (run ++ rest), rfl, v, Place.start (run ++ rest), ⟨rfl, rfl⟩, hv⟩

theorem isIn_lineStart_run_iff : (seq lineStart (seq (star (one cls)) q)).isIn text = true ↔
    ∃ pre run rest, text = pre ++ (run ++ rest) ∧ Place.atLineStart pre.reverse = true ∧
      (∀ x ∈ run, cls.holds x = true) ∧ q.Starts ⟨run.reverse ++ pre.reverse, rest⟩ := by
  rw [isIn_iff_exists_starts]
  constructor
  · intro h
    obtain ⟨⟨before, after⟩, rfl, v, w, ⟨rfl, hstart⟩, hrest⟩ := h
    obtain ⟨run, rest, rfl, hrun, hq⟩ := starts_run_iff.1 ⟨v, hrest⟩
    exact ⟨before.reverse, run, rest, rfl, by simpa using hstart, hrun, by simpa using hq⟩
  · intro h
    obtain ⟨pre, run, rest, rfl, hstart, hrun, hq⟩ := h
    obtain ⟨v, hv⟩ := starts_run_iff.2 ⟨run, rest, rfl, hrun, hq⟩
    exact ⟨⟨pre.reverse, run ++ rest⟩, by simp [Place.text], v, ⟨pre.reverse, run ++ rest⟩, ⟨rfl, hstart⟩, hv⟩

/-- **A run of blanks at the start of the text takes in the blanks before it.** -/
theorem isIn_blanks_append_of_textStart (hb : Blanks lead) (hq : q.startsVisible = true)
    (ha : q.unanchored = true) : (seq textStart (seq (star (one .blank)) q)).isIn (lead ++ text) = true ↔
      (seq textStart (seq (star (one .blank)) q)).isIn text = true := by
  rw [isIn_textStart_run_iff, isIn_textStart_run_iff]
  constructor
  · intro h
    obtain ⟨run, rest, htext, hrun, hs⟩ := h
    obtain ⟨c, rest, rfl, hc⟩ := exists_visible_of_starts hq hs
    obtain ⟨mid, rfl, rfl⟩ := exists_of_blanks_append_eq hb hc htext
    rw [List.reverse_append, starts_append_blanks hb ha] at hs
    exact ⟨mid, c :: rest, rfl, fun x hx => hrun x (by simp [hx]), hs⟩
  · intro h
    obtain ⟨run, rest, rfl, hrun, hs⟩ := h
    refine ⟨lead ++ run, rest, by simp, List.forall_mem_append.2 ⟨hb, hrun⟩, ?_⟩
    rw [List.reverse_append, starts_append_blanks hb ha]
    exact hs

theorem blankInLine_holds_iff {c : Char} : CharClass.blankInLine.holds c = true ↔ isBlank c = true ∧ c ≠ '\n' := by
  simp [CharClass.blankInLine, CharClass.holds]

/-- The last line of a text. -/
theorem exists_last_line (text : List Char) :
    ∃ lines line, text = lines ++ line ∧ Place.atLineStart lines.reverse = true ∧ '\n' ∉ line := by
  induction text using List.reverseRecOn with
  | nil => exact ⟨[], [], rfl, rfl, by simp⟩
  | append_singleton text c ih =>
    by_cases hc : c = '\n'
    · exact ⟨text ++ [c], [], by simp, by simp [Place.atLineStart, hc], by simp⟩
    · obtain ⟨lines, line, rfl, hstart, hline⟩ := ih
      exact ⟨lines, line ++ [c], by simp, hstart, by simp [hline, Ne.symm hc]⟩

/-- **A run of blanks at the start of a line takes in those of the blanks before the text that are on the line.** -/
theorem isIn_blanks_append_of_lineStart (hb : Blanks lead) (hq : q.startsVisible = true)
    (ha : q.unanchored = true) : (seq lineStart (seq (star (one .blankInLine)) q)).isIn (lead ++ text) = true ↔
      (seq lineStart (seq (star (one .blankInLine)) q)).isIn text = true := by
  rw [isIn_lineStart_run_iff, isIn_lineStart_run_iff]
  constructor
  · intro h
    obtain ⟨pre, run, rest, htext, hstart, hrun, hs⟩ := h
    obtain ⟨c, rest, rfl, hc⟩ := exists_visible_of_starts hq hs
    rw [← List.append_assoc] at htext
    obtain ⟨mid, hmid, rfl⟩ := exists_of_blanks_append_eq hb hc htext
    rw [← List.reverse_append, hmid, List.reverse_append, starts_append_blanks hb ha] at hs
    -- the line starts behind the blanks, or among them
    rcases List.append_eq_append_iff.1 hmid with ⟨xs, rfl, rfl⟩ | ⟨xs, rfl, rfl⟩
    · refine ⟨[], mid, c :: rest, rfl, rfl, fun x hx => hrun x (by simp [hx]), by simpa using hs⟩
    · refine ⟨xs, run, c :: rest, by simp, ?_, hrun, by simpa using hs⟩
      cases hxs : xs.reverse with
      | nil => rfl
      | cons d ds =>
        rw [List.reverse_append, hxs] at hstart
        exact hstart
  · intro h
    obtain ⟨pre, run, rest, rfl, hstart, hrun, hs⟩ := h
    rw [← starts_append_blanks hb ha, List.append_assoc, ← List.reverse_append] at hs
    cases hpre : pre.reverse with
    | nil =>
      -- the line that starts the text is the last one of the blanks
      obtain rfl : pre = [] := List.reverse_eq_nil_iff.1 hpre
      obtain ⟨lines, line, rfl, hlines, hline⟩ := exists_last_line lead
      refine ⟨lines, line ++ run, rest, by simp, hlines, ?_, by simpa using hs⟩
      refine List.forall_mem_append.2 ⟨fun x hx => blankInLine_holds_iff.2 ⟨hb x (by simp [hx]), ?_⟩, hrun⟩
      rintro rfl
      exact hline hx
    | cons d ds =>
      refine ⟨lead ++ pre, run, rest, by simp, ?_, hrun, hs⟩
      rw [List.reverse_append, hpre]
      rw [hpre] at hstart
      exact hstart

end Pattern

end SnippetLanguage
