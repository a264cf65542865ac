import Mathlib.Data.List.Forall2
import SnippetLanguage.Pattern.Exact

/-!
# Derivations as slices

`p.Derives before xs after` says that the slice `xs` of a text is derivable from `p` where `before` stands before it
(the nearest character first) and `after` behind it. Every form of pattern has an equation that says which slices it
derives (`derives_seq`, `derives_star_iff` and so on), so that what a signal asks of a text can be read off as the shape
of a piece of the text (`isIn_iff_exists_piece`).
-/

namespace SnippetLanguage

open Text

/-- The characters of a word, each in any letter case. -/
def Spells (word : String) (xs : List Char) : Prop :=
  List.Forall₂ (fun x c => sameLetter x c = true) xs word.toList

/-- All characters are blank. -/
def Blanks (xs : List Char) : Prop := ∀ x ∈ xs, isBlank x = true

theorem blanks_nil : Blanks [] := fun _ h => absurd h List.not_mem_nil

theorem blanks_cons_iff {x : Char} {xs : List Char} : Blanks (x :: xs) ↔ isBlank x = true ∧ Blanks xs :=
  List.forall_mem_cons

theorem blanks_append_iff {xs ys : List Char} : Blanks (xs ++ ys) ↔ Blanks xs ∧ Blanks ys := List.forall_mem_append

theorem Literal.begins_iff_forall₂ {l : Literal} {xs : List Char} (h : xs.length = l.chars.length) :
    l.begins xs = true ↔ List.Forall₂ (fun x c => l.admits c x = true) xs l.chars := by
  unfold Literal.begins
  generalize l.chars = cs at h
  induction cs generalizing xs with
  | nil =>
    rw [List.length_eq_zero_iff.1 h]
    simp [Literal.agreesFrom]
  | cons c cs ih =>
    cases xs with
    | nil => cases h
    | cons x xs =>
      rw [Literal.agreesFrom, Bool.and_eq_true, List.forall₂_cons, ih (by simpa using h)]

namespace Pattern

variable {p q : Pattern} {before xs after : List Char}

/-- The slice `xs` between `before`, the nearest character first, and `after` is derivable. -/
def Derives (p : Pattern) (before xs after : List Char) : Prop :=
  p.Spans ⟨before, xs ++ after⟩ ⟨xs.reverse ++ before, after⟩

/-- A derivation leads from one end of a slice to the other. -/
theorem exists_slice_of_spans {u v : Place} (h : p.Spans u v) :
    ∃ xs, u.after = xs ++ v.after ∧ v.before = xs.reverse ++ u.before := by
  have htext : u.before.reverse ++ u.after = v.before.reverse ++ v.after := (text_eq_of_spans h).symm
  have hlen := length_after_of_spans h
  rcases List.append_eq_append_iff.1 htext with ⟨xs, hb, ha⟩ | ⟨xs, hb, ha⟩
  · exact ⟨xs, ha, by simpa using congrArg List.reverse hb⟩
  · have hxs : xs = [] := by
      have := congrArg List.length ha
      simp only [List.length_append] at this
      exact List.length_eq_zero_iff.1 (by omega)
    subst hxs
    exact ⟨[], by simpa using ha.symm, by simpa using congrArg List.reverse hb.symm⟩

theorem spans_iff_exists_derives {u v : Place} : p.Spans u v ↔
    ∃ xs, u.after = xs ++ v.after ∧ v.before = xs.reverse ++ u.before ∧ p.Derives u.before xs v.after := by
  constructor
  · intro h
    obtain ⟨xs, ha, hb⟩ := exists_slice_of_spans h
    refine ⟨xs, ha, hb, ?_⟩
    rw [Derives, ← ha, ← hb]
    exact h
  · intro h
    obtain ⟨xs, ha, hb, h⟩ := h
    rw [Derives, ← ha, ← hb] at h
    exact h

theorem starts_iff : p.Starts ⟨before, after⟩ ↔ ∃ xs rest, after = xs ++ rest ∧ p.Derives before xs rest := by
  constructor
  · intro h
    obtain ⟨v, h⟩ := h
    obtain ⟨xs, ha, _, hd⟩ := spans_iff_exists_derives.1 h
    exact ⟨xs, v.after, ha, hd⟩
  · intro h
    obtain ⟨xs, rest, rfl, h⟩ := h
    exact ⟨_, h⟩

/-- **A pattern is in a text when the text has a derivable piece.** -/
theorem isIn_iff_exists_piece {text : List Char} :
    p.isIn text = true ↔ ∃ pre xs post, text = pre ++ xs ++ post ∧ p.Derives pre.reverse xs post := by
  rw [isIn_iff_occurs]
  constructor
  · intro h
    obtain ⟨u, v, rfl, h⟩ := h
    obtain ⟨xs, ha, _, hd⟩ := spans_iff_exists_derives.1 h
    refine ⟨u.before.reverse, xs, v.after, by rw [Place.text, ha, List.append_assoc], ?_⟩
    rw [List.reverse_reverse]
    exact hd
  · intro h
    obtain ⟨pre, xs, post, rfl, h⟩ := h
    exact ⟨_, _, by simp [Place.text], h⟩

/-! ## What each form derives -/

theorem derives_empty : empty.Derives before xs after ↔ xs = [] := by
  constructor
  · intro h
    have := congrArg Place.after (show (⟨xs.reverse ++ before, after⟩ : Place) = ⟨before, xs ++ after⟩ from h)
    simpa using this
  · rintro rfl
    exact (rfl : (⟨before, after⟩ : Place) = _)

theorem derives_one {cls : CharClass} :
    (one cls).Derives before xs after ↔ ∃ c, xs = [c] ∧ cls.holds c = true := by
  constructor
  · intro h
    obtain ⟨c, hc, ha, _⟩ := h
    have hx : xs ++ after = [c] ++ after := ha
    exact ⟨c, List.append_cancel_right hx, hc⟩
  · intro h
    obtain ⟨c, rfl, hc⟩ := h
    exact ⟨c, hc, rfl, rfl⟩

theorem derives_literal {l : Literal} : (literal l).Derives before xs after ↔
    xs.length = l.chars.length ∧ l.begins xs = true := by
  constructor
  · intro h
    obtain ⟨ys, hlen, hb, ha, _⟩ := h
    have : xs = ys := List.append_cancel_right ha
    subst this
    exact ⟨hlen, hb⟩
  · intro h
    obtain ⟨hlen, hb⟩ := h
    exact ⟨xs, hlen, hb, rfl, rfl⟩

theorem derives_text {word : String} : (text word).Derives before xs after ↔ Spells word xs := by
  rw [text, derives_literal]
  constructor
  · intro h
    obtain ⟨hlen, hb⟩ := h
    exact (Literal.begins_iff_forall₂ hlen).1 hb
  · intro h
    have hlen := h.length_eq
    exact ⟨hlen, (Literal.begins_iff_forall₂ hlen).2 h⟩

theorem derives_exactText {word : String} : (exactText word).Derives before xs after ↔ xs = word.toList := by
  rw [exactText, derives_literal]
  have hexact : ∀ ys cs : List Char, List.Forall₂ (fun x c => (x == c) = true) ys cs ↔ ys = cs := by
    intro ys cs
    simp only [beq_iff_eq, List.forall₂_eq_eq_eq]
  constructor
  · intro h
    obtain ⟨hlen, hb⟩ := h
    exact (hexact xs _).1 ((Literal.begins_iff_forall₂ hlen).1 hb)
  · rintro rfl
    exact ⟨rfl, (Literal.begins_iff_forall₂ rfl).2 ((hexact _ _).2 rfl)⟩

theorem derives_seq : (seq p q).Derives before xs after ↔
    ∃ ys zs, xs = ys ++ zs ∧ p.Derives before ys (zs ++ after) ∧ q.Derives (ys.reverse ++ before) zs after := by
  constructor
  · intro h
    obtain ⟨w, hp, hq⟩ := h
    obtain ⟨ys, hya, hyb, hyd⟩ := spans_iff_exists_derives.1 hp
    obtain ⟨zs, hza, hzb, hzd⟩ := spans_iff_exists_derives.1 hq
    dsimp only at hya hyb hyd hza hzb hzd
    have hxs : xs = ys ++ zs := by
      rw [hza, ← List.append_assoc] at hya
      exact List.append_cancel_right hya
    rw [hza] at hyd
    rw [hyb] at hzd
    exact ⟨ys, zs, hxs, hyd, hzd⟩
  · intro h
    obtain ⟨ys, zs, rfl, hp, hq⟩ := h
    refine ⟨⟨ys.reverse ++ before, zs ++ after⟩, ?_, ?_⟩
    · rw [List.append_assoc]
      exact hp
    · rw [List.reverse_append, List.append_assoc]
      exact hq

theorem derives_alt : (alt p q).Derives before xs after ↔ p.Derives before xs after ∨ q.Derives before xs after :=
  Iff.rfl

theorem derives_opt : (opt p).Derives before xs after ↔ p.Derives before xs after ∨ xs = [] :=
  derives_alt.trans (or_congr_right derives_empty)

/-- A part that takes no characters. -/
theorem derives_still_iff {P : Prop} :
    ((⟨xs.reverse ++ before, after⟩ : Place) = ⟨before, xs ++ after⟩ ∧ P) ↔ xs = [] ∧ P := by
  refine and_congr_left fun _ => ?_
  rw [Place.mk.injEq]
  constructor
  · intro h
    obtain ⟨_, h⟩ := h
    simpa using h
  · rintro rfl
    exact ⟨rfl, rfl⟩

theorem derives_notAhead : (notAhead p).Derives before xs after ↔ xs = [] ∧ ¬ p.Starts ⟨before, after⟩ := by
  have h : (notAhead p).Derives before xs after ↔ xs = [] ∧ ∀ w, ¬ p.Spans ⟨before, xs ++ after⟩ w := derives_still_iff
  rw [h]
  refine and_congr_right fun hxs => ?_
  subst hxs
  simp [Starts]

theorem derives_wordEdge : wordEdge.Derives before xs after ↔ xs = [] ∧ Place.atWordEdge before after = true := by
  have h : wordEdge.Derives before xs after ↔ xs = [] ∧ Place.atWordEdge before (xs ++ after) = true :=
    derives_still_iff
  rw [h]
  refine and_congr_right fun hxs => ?_
  subst hxs
  exact Iff.rfl

theorem derives_lineStart : lineStart.Derives before xs after ↔ xs = [] ∧ Place.atLineStart before = true :=
  derives_still_iff

/-! ## Repetitions -/

theorem derives_star_nil : (star p).Derives before [] after := Repeats.none _

theorem derives_star_append {ys zs : List Char} (hp : p.Derives before ys (zs ++ after))
    (hrest : (star p).Derives (ys.reverse ++ before) zs after) : (star p).Derives before (ys ++ zs) after := by
  obtain ⟨w, hw, hr⟩ : (seq p (star p)).Derives before (ys ++ zs) after := derives_seq.2 ⟨ys, zs, rfl, hp, hrest⟩
  exact Repeats.more hw hr

/-- A repetition derives the empty slice, and a slice of the body that is not empty before what it derives. -/
theorem derives_star_iff : (star p).Derives before xs after ↔
    xs = [] ∨ ∃ ys zs, ys ≠ [] ∧ xs = ys ++ zs ∧ p.Derives before ys (zs ++ after) ∧
      (star p).Derives (ys.reverse ++ before) zs after := by
  constructor
  · intro h
    by_cases hxs : xs = []
    · exact .inl hxs
    · have hne : (⟨xs.reverse ++ before, after⟩ : Place) ≠ ⟨before, xs ++ after⟩ := fun e =>
        hxs (by simpa using congrArg Place.after e)
      obtain ⟨v, hv, hp, hrest⟩ := Repeats.exists_proper_step h hne
      obtain ⟨ys, hya, hyb, hyd⟩ := spans_iff_exists_derives.1 hp
      obtain ⟨zs, hza, _, hzd⟩ := spans_iff_exists_derives.1 (show (star p).Spans v _ from hrest)
      dsimp only at hya hyb hyd hza hzd
      rw [hza] at hyd
      rw [hyb] at hzd
      refine .inr ⟨ys, zs, ?_, ?_, hyd, hzd⟩
      · rintro rfl
        exact hv (by rw [Place.mk.injEq]; exact ⟨hyb, hya.symm⟩)
      · rw [hza, ← List.append_assoc] at hya
        exact List.append_cancel_right hya
  · intro h
    rcases h with rfl | ⟨ys, zs, _, rfl, hp, hrest⟩
    · exact derives_star_nil
    · exact derives_star_append hp hrest

/-- A repetition of single characters, each of which has to fit what stands next to it. -/
theorem derives_star_single {P : List Char → Char → List Char → Prop}
    (hp : ∀ before xs after, p.Derives before xs after ↔ ∃ c, xs = [c] ∧ P before c after) :
    (star p).Derives before xs after ↔ ∀ ys c zs, xs = ys ++ c :: zs → P (ys.reverse ++ before) c (zs ++ after) := by
  induction xs generalizing before with
  | nil => exact iff_of_true derives_star_nil fun ys c zs h => by simp at h
  | cons x xs ih =>
    constructor
    · intro h
      obtain h | ⟨ys, zs, hne, hx, hys, hzs⟩ := derives_star_iff.1 h
      · cases h
      obtain ⟨c, rfl, hc⟩ := (hp _ _ _).1 hys
      obtain ⟨rfl, rfl⟩ := List.cons.inj hx
      intro ys c zs hsplit
      cases ys with
      | nil =>
        obtain ⟨rfl, rfl⟩ := List.cons.inj hsplit
        exact hc
      | cons y ys =>
        obtain ⟨rfl, rfl⟩ := List.cons.inj hsplit
        have := ih.1 hzs ys c zs rfl
        simpa using this
    · intro h
      have hx : p.Derives before [x] (xs ++ after) := (hp _ _ _).2 ⟨x, rfl, h [] x xs rfl⟩
      refine derives_star_append hx (ih.2 fun ys c zs hxs => ?_)
      subst hxs
      have := h (x :: ys) c zs rfl
      simpa using this

theorem derives_star_one {cls : CharClass} :
    (star (one cls)).Derives before xs after ↔ ∀ x ∈ xs, cls.holds x = true := by
  rw [derives_star_single (P := fun _ c _ => cls.holds c = true) fun _ _ _ => derives_one]
  constructor
  · intro h x hx
    obtain ⟨ys, zs, rfl⟩ := List.append_of_mem hx
    exact h ys x zs rfl
  · rintro h ys c zs rfl
    exact h c (by simp)

theorem derives_plus_one {cls : CharClass} :
    (plus (one cls)).Derives before xs after ↔ xs ≠ [] ∧ ∀ x ∈ xs, cls.holds x = true := by
  rw [plus, derives_seq]
  constructor
  · intro h
    obtain ⟨ys, zs, rfl, hy, hz⟩ := h
    obtain ⟨c, rfl, hc⟩ := derives_one.1 hy
    rw [derives_star_one] at hz
    exact ⟨by simp, by simpa [hc] using hz⟩
  · intro h
    obtain ⟨hne, h⟩ := h
    cases xs with
    | nil => exact absurd rfl hne
    | cons x xs =>
      exact ⟨[x], xs, rfl, derives_one.2 ⟨x, rfl, h x (by simp)⟩, derives_star_one.2 fun y hy => h y (by simp [hy])⟩

theorem derives_blank : (one .blank).Derives before xs after ↔ ∃ c, xs = [c] ∧ isBlank c = true := derives_one

theorem derives_blanks : blanks.Derives before xs after ↔ Blanks xs := derives_star_one

theorem derives_gap : gap.Derives before xs after ↔ xs ≠ [] ∧ Blanks xs := derives_plus_one

theorem derives_ident : ident.Derives before xs after ↔ xs ≠ [] ∧ ∀ x ∈ xs, isWord x = true := derives_plus_one

end Pattern

end SnippetLanguage
