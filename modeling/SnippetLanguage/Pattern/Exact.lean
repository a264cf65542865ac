import SnippetLanguage.Pattern.Derivation
import SnippetLanguage.Pattern.Sweep

/-!
# The sweep finds what is derivable

`Remembers p T u m` says what the marks `m` of a pattern are worth at a place `u`: they tell the places after `u` from
which the pattern leads on to the targets `T`.

* `step_spec`: a step finds out whether a derivation leads from its place to a target, and leaves marks that remember
  its place for the next step.
* `find?_eq_some_iff`: `find?` answers the leftmost place where a derivation starts.
* `isIn_iff_occurs`: a pattern is in a text exactly when some slice of the text is derivable from it.
-/

namespace SnippetLanguage

/-- Steps that end elsewhere than they began have a first step that goes elsewhere. -/
theorem Repeats.exists_proper_step {r : Place → Place → Prop} {u w : Place} (h : Repeats r u w) (hne : w ≠ u) :
    ∃ v, v ≠ u ∧ r u v ∧ Repeats r v w := by
  induction h with
  | none => exact absurd rfl hne
  | @more u v w hr hrest ih =>
    by_cases hv : v = u
    · subst hv
      exact ih hne
    · exact ⟨v, hv, hr, hrest⟩

namespace Literal

theorem agreesFrom_append (l : Literal) {cs xs : List Char} (ys : List Char) (h : xs.length = cs.length) :
    l.agreesFrom cs (xs ++ ys) = l.agreesFrom cs xs := by
  induction cs generalizing xs with
  | nil => rw [agreesFrom, agreesFrom]
  | cons c cs ih =>
    cases xs with
    | nil => simp at h
    | cons x xs =>
      simp only [List.cons_append, agreesFrom]
      rw [ih (by simpa using h)]

theorem agreesFrom_length {l : Literal} {cs xs : List Char} (h : l.agreesFrom cs xs = true) :
    cs.length ≤ xs.length := by
  induction cs generalizing xs with
  | nil => simp
  | cons c cs ih =>
    cases xs with
    | nil => simp [agreesFrom] at h
    | cons x xs =>
      simp only [agreesFrom, Bool.and_eq_true] at h
      simpa using ih h.2

theorem isIn_append_of_begins (l : Literal) (before : List Char) {after : List Char} (h : l.begins after = true) :
    l.isIn (before.reverse ++ after) = true := by
  induction before generalizing after with
  | nil =>
    cases after with
    | nil => exact h
    | cons c cs => simp [isIn, h]
  | cons b before ih =>
    rw [List.reverse_cons, List.append_assoc]
    have : ∀ (xs ys : List Char), l.isIn ys = true → l.isIn (xs ++ ys) = true := by
      intro xs ys hy
      induction xs with
      | nil => exact hy
      | cons x xs ihx => simp [isIn, ihx]
    refine this before.reverse ([b] ++ after) ?_
    cases after with
    | nil => simp [isIn, h]
    | cons c cs => simp [isIn, h]

end Literal

namespace Pattern

/-! ## Derivations only go forward -/

theorem length_after_of_spans {p : Pattern} {u v : Place} (h : p.Spans u v) : v.after.length ≤ u.after.length := by
  induction p generalizing u v with
  | empty => exact Nat.le_of_eq (by rw [show v = u from h])
  | one cls =>
    obtain ⟨c, _, ha, _⟩ := h
    simp [ha]
  | literal l =>
    obtain ⟨xs, _, _, ha, _⟩ := h
    simp [ha]
  | seq p q ihp ihq =>
    obtain ⟨w, hp, hq⟩ := h
    exact Nat.le_trans (ihq hq) (ihp hp)
  | alt p q ihp ihq => exact h.elim ihp ihq
  | star p ih =>
    change Repeats p.Spans u v at h
    induction h with
    | none => exact Nat.le_refl _
    | more hp _ ihr => exact Nat.le_trans ihr (ih hp)
  | notAhead p _ => exact Nat.le_of_eq (by rw [h.1])
  | wordEdge => exact Nat.le_of_eq (by rw [h.1])
  | textStart => exact Nat.le_of_eq (by rw [h.1])
  | lineStart => exact Nat.le_of_eq (by rw [h.1])

/-- A derivation that does not end where it began ends further to the right. -/
theorem length_after_lt_of_spans {p : Pattern} {u v : Place} (h : p.Spans u v) (hne : v ≠ u) :
    v.after.length < u.after.length := by
  have htext := text_eq_of_spans h
  refine Nat.lt_of_le_of_ne (length_after_of_spans h) fun hlen => hne ?_
  obtain ⟨vb, va⟩ := v
  obtain ⟨ub, ua⟩ := u
  simp only [Place.text] at htext
  have := List.append_inj' htext hlen
  rw [List.reverse_inj] at this
  simp [this.1, this.2]

/-! ## What marks remember -/

/-- The marks of a pattern remember the places after `u` from which it leads to the targets `T`. -/
def Remembers : (p : Pattern) → (T : Place → Prop) → Place → p.Marks → Prop
  | one _, T, u, (next : Bool) => ∀ c rest, u.after = c :: rest → (next = true ↔ T ⟨c :: u.before, rest⟩)
  | literal l, T, u, (history : Nat) => ∀ k, k < l.chars.length → (history.testBit k = true ↔
      ∃ xs ys, u.after = xs ++ ys ∧ xs.length = k + 1 ∧ T ⟨xs.reverse ++ u.before, ys⟩)
  | seq p q, T, u, (mp, mq) => p.Remembers (fun v => ∃ w, q.Spans v w ∧ T w) u mp ∧ q.Remembers T u mq
  | alt p q, T, u, (mp, mq) => p.Remembers T u mp ∧ q.Remembers T u mq
  | star p, T, u, m => p.Remembers (fun v => ∃ w, Repeats p.Spans v w ∧ T w) u m
  | notAhead p, _, u, m => p.Remembers (fun _ => True) u m
  | empty, _, _, _ => True
  | wordEdge, _, _, _ => True
  | textStart, _, _, _ => True
  | lineStart, _, _, _ => True

/-- Marks know of the targets after their place only. -/
theorem remembers_congr {p : Pattern} {T T' : Place → Prop} {u : Place} {m : p.Marks}
    (hT : ∀ v, v.after.length < u.after.length → (T v ↔ T' v)) (h : p.Remembers T u m) : p.Remembers T' u m := by
  induction p generalizing T T' with
  | one cls =>
    intro c rest hr
    rw [h c rest hr]
    exact hT _ (by simp [hr])
  | literal l =>
    intro k hk
    rw [h k hk]
    constructor
    · rintro ⟨xs, ys, ha, hl, ht⟩
      exact ⟨xs, ys, ha, hl, (hT _ (by simp [ha]; omega)).1 ht⟩
    · rintro ⟨xs, ys, ha, hl, ht⟩
      exact ⟨xs, ys, ha, hl, (hT _ (by simp [ha]; omega)).2 ht⟩
  | seq p q ihp ihq =>
    obtain ⟨mp, mq⟩ := m
    refine ⟨ihp (fun v hv => ?_) h.1, ihq hT h.2⟩
    constructor
    · rintro ⟨w, hs, ht⟩
      exact ⟨w, hs, (hT w (Nat.lt_of_le_of_lt (length_after_of_spans hs) hv)).1 ht⟩
    · rintro ⟨w, hs, ht⟩
      exact ⟨w, hs, (hT w (Nat.lt_of_le_of_lt (length_after_of_spans hs) hv)).2 ht⟩
  | alt p q ihp ihq =>
    obtain ⟨mp, mq⟩ := m
    exact ⟨ihp hT h.1, ihq hT h.2⟩
  | star p ih =>
    refine ih (fun v hv => ?_) h
    constructor
    · rintro ⟨w, hs, ht⟩
      exact ⟨w, hs, (hT w (Nat.lt_of_le_of_lt (length_after_of_spans (p := star p) hs) hv)).1 ht⟩
    · rintro ⟨w, hs, ht⟩
      exact ⟨w, hs, (hT w (Nat.lt_of_le_of_lt (length_after_of_spans (p := star p) hs) hv)).2 ht⟩
  | notAhead p _ => exact h
  | empty => trivial
  | wordEdge => trivial
  | textStart => trivial
  | lineStart => trivial

/-- Beyond the end of the text there is nothing to remember. -/
theorem remembers_noMarks (p : Pattern) (T : Place → Prop) (before : List Char) :
    p.Remembers T ⟨before, []⟩ p.noMarks := by
  induction p generalizing T with
  | one cls => intro c rest h; cases h
  | literal l =>
    intro k _
    constructor
    · intro h
      simp [noMarks] at h
    · rintro ⟨xs, ys, ha, hl, _⟩
      have hx : xs = [] := (List.append_eq_nil_iff.1 ha.symm).1
      simp [hx] at hl
  | seq p q ihp ihq => exact ⟨ihp _, ihq _⟩
  | alt p q ihp ihq => exact ⟨ihp _, ihq _⟩
  | star p ih => exact ih _
  | notAhead p ih => exact ih _
  | empty => trivial
  | wordEdge => trivial
  | textStart => trivial
  | lineStart => trivial

/-! ## One step -/

theorem testBit_targets_zero (h : Nat) (t : Bool) : (2 * h + t.toNat).testBit 0 = t := by
  cases t <;> simp [Nat.testBit_zero, Nat.add_mod]

theorem testBit_targets_succ (h : Nat) (t : Bool) (k : Nat) :
    (2 * h + t.toNat).testBit (k + 1) = h.testBit k := by
  have hhalf : (2 * h + t.toNat) / 2 = h := by
    cases t <;> simp only [Bool.toNat_false, Bool.toNat_true] <;> omega
  rw [Nat.testBit_succ, hhalf]

/-- What is asked of a step at a place: it tells whether a derivation leads from there to a target, and its marks
remember the place for all places before it. -/
def StepSpec (p : Pattern) (T : Place → Prop) (u : Place) (t : Bool) (m : p.Marks) : Prop :=
  ((p.step u.before u.after t m).1 = true ↔ ∃ v, p.Spans u v ∧ T v) ∧
    ∀ c before, u.before = c :: before → p.Remembers T ⟨before, c :: u.after⟩ (p.step u.before u.after t m).2

theorem stepSpec_still {p : Pattern} {T : Place → Prop} {u : Place} {t b : Bool} {m : p.Marks}
    (ht : t = true ↔ T u) (hstep : (p.step u.before u.after t m).1 = (t && b))
    (hspan : ∀ v, p.Spans u v ↔ v = u ∧ b = true) :
    ((p.step u.before u.after t m).1 = true ↔ ∃ v, p.Spans u v ∧ T v) := by
  rw [hstep, Bool.and_eq_true, ht]
  constructor
  · rintro ⟨hT, hok⟩
    exact ⟨u, (hspan u).2 ⟨rfl, hok⟩, hT⟩
  · rintro ⟨v, hs, hT⟩
    obtain ⟨rfl, hok⟩ := (hspan v).1 hs
    exact ⟨hT, hok⟩

theorem stepSpec_one (cls : CharClass) {T : Place → Prop} {u : Place} {t next : Bool}
    (hm : (one cls).Remembers T u next) (ht : t = true ↔ T u) : StepSpec (one cls) T u t next := by
  obtain ⟨before, after⟩ := u
  constructor
  · cases after with
    | nil =>
      refine ⟨fun h => (by cases h), ?_⟩
      rintro ⟨v, ⟨c, _, hc, _⟩, _⟩
      cases hc
    | cons c rest =>
      change (next && cls.holds c) = true ↔ _
      rw [Bool.and_eq_true, hm c rest rfl]
      constructor
      · rintro ⟨hT, hc⟩
        exact ⟨_, ⟨c, hc, rfl, rfl⟩, hT⟩
      · rintro ⟨⟨vb, va⟩, ⟨d, hd, hda, hdb⟩, hT⟩
        obtain ⟨rfl, rfl⟩ := List.cons.inj hda
        subst hdb
        exact ⟨hT, hd⟩
  · intro c before' hu d rest hd
    obtain ⟨rfl, rfl⟩ := List.cons.inj hd
    subst hu
    exact ht

theorem stepSpec_literal (l : Literal) {T : Place → Prop} {u : Place} {t : Bool} {history : Nat}
    (hm : (literal l).Remembers T u history) (ht : t = true ↔ T u) : StepSpec (literal l) T u t history := by
  have hbit : ∀ k, k ≤ l.chars.length → ((2 * history + t.toNat).testBit k = true ↔
      ∃ xs ys, u.after = xs ++ ys ∧ xs.length = k ∧ T ⟨xs.reverse ++ u.before, ys⟩) := by
    intro k hk
    cases k with
    | zero =>
      rw [testBit_targets_zero, ht]
      constructor
      · intro hT
        exact ⟨[], u.after, rfl, rfl, hT⟩
      · rintro ⟨xs, ys, ha, hl, hT⟩
        have hx : xs = [] := List.length_eq_zero_iff.1 hl
        subst hx
        rw [List.nil_append] at ha
        rw [← ha] at hT
        exact hT
    | succ k =>
      rw [testBit_targets_succ]
      exact hm k (by omega)
  constructor
  · change (l.begins u.after && (2 * history + t.toNat).testBit l.chars.length) = true ↔ _
    rw [Bool.and_eq_true, hbit _ (Nat.le_refl _)]
    constructor
    · rintro ⟨hb, xs, ys, ha, hl, hT⟩
      refine ⟨⟨xs.reverse ++ u.before, ys⟩, ⟨xs, hl, ?_, ha, rfl⟩, hT⟩
      rw [ha] at hb
      exact (l.agreesFrom_append ys hl).symm.trans hb
    · rintro ⟨v, ⟨xs, hl, hb, ha, hv⟩, hT⟩
      refine ⟨?_, xs, v.after, ha, hl, ?_⟩
      · rw [ha]
        exact l.begins_append v.after hb
      · rw [← hv]
        exact hT
  · intro c before hu k hk
    change ((2 * history + t.toNat) % l.weight).testBit k = true ↔ _
    have hw : l.weight = 2 ^ l.chars.length := l.weight_eq
    rw [hw, Nat.testBit_mod_two_pow, Bool.and_eq_true, decide_eq_true_eq]
    simp only [hk, true_and]
    rw [hbit k (by omega)]
    constructor
    · rintro ⟨xs, ys, ha, hl, hT⟩
      refine ⟨c :: xs, ys, by simp [ha], by simp [hl], ?_⟩
      rw [hu] at hT
      simpa using hT
    · rintro ⟨xs, ys, ha, hl, hT⟩
      cases xs with
      | nil => simp at hl
      | cons x xs =>
        obtain ⟨rfl, hrest⟩ := List.cons.inj ha
        refine ⟨xs, ys, hrest, by simpa using hl, ?_⟩
        rw [hu]
        simpa using hT

theorem step_star_of_hit {p : Pattern} {before after : List Char} {m : p.Marks}
    (h : (p.step before after false m).1 = true) :
    (star p).step before after false m = (true, (p.step before after true m).2) :=
  if_pos h

theorem step_star_of_miss {p : Pattern} {before after : List Char} {m : p.Marks}
    (h : (p.step before after false m).1 = false) :
    (star p).step before after false m = p.step before after false m :=
  if_neg (Bool.eq_false_iff.1 h : ¬ (p.step before after false m).1 = true)

theorem stepSpec_star {p : Pattern} {T : Place → Prop} {u : Place} {t : Bool} {m : p.Marks}
    (ih : ∀ {T : Place → Prop} {t : Bool}, p.Remembers T u m → (t = true ↔ T u) → StepSpec p T u t m)
    (hm : (star p).Remembers T u m) (ht : t = true ↔ T u) : StepSpec (star p) T u t m := by
  have hS : p.Remembers (fun v => ∃ w, Repeats p.Spans v w ∧ T w) u m := hm
  cases t with
  | true =>
    have hT : T u := ht.1 rfl
    have hu : ∃ w, Repeats p.Spans u w ∧ T w := ⟨u, .none u, hT⟩
    refine ⟨⟨fun _ => hu, fun _ => rfl⟩, ?_⟩
    exact (ih (t := true) hS ⟨fun _ => hu, fun _ => rfl⟩).2
  | false =>
    have hT : ¬ T u := fun h => by cases ht.2 h
    by_cases hu : ∃ w, Repeats p.Spans u w ∧ T w
    · have hr : (p.step u.before u.after false m).1 = true := by
        have hS' : p.Remembers (fun v => (∃ w, Repeats p.Spans v w ∧ T w) ∧ v ≠ u) u m := by
          refine remembers_congr (fun v hv => ?_) hS
          have hne : v ≠ u := fun e => by
            rw [e] at hv
            exact Nat.lt_irrefl _ hv
          exact ⟨fun h => ⟨h, hne⟩, fun h => h.1⟩
        refine (ih (t := false) hS' ⟨fun h => (by cases h), fun h => absurd rfl h.2⟩).1.2 ?_
        obtain ⟨w, hw, hTw⟩ := hu
        have hne : w ≠ u := fun e => hT (e ▸ hTw)
        obtain ⟨v, hv, hspan, hrest⟩ := hw.exists_proper_step hne
        exact ⟨v, hspan, ⟨w, hrest, hTw⟩, hv⟩
      unfold StepSpec
      rw [step_star_of_hit hr]
      exact ⟨⟨fun _ => hu, fun _ => rfl⟩, (ih (t := true) hS ⟨fun _ => hu, fun _ => rfl⟩).2⟩
    · have hi := ih (t := false) hS ⟨fun h => (by cases h), fun h => absurd h hu⟩
      have hr : (p.step u.before u.after false m).1 = false := by
        cases hp : (p.step u.before u.after false m).1 with
        | false => rfl
        | true =>
          obtain ⟨v, hspan, w, hw, hTw⟩ := hi.1.1 hp
          exact absurd ⟨w, .more hspan hw, hTw⟩ hu
      unfold StepSpec
      rw [step_star_of_miss hr]
      exact ⟨⟨fun h => absurd h (Bool.eq_false_iff.1 hr), fun h => absurd h hu⟩, hi.2⟩

theorem step_spec (p : Pattern) {T : Place → Prop} {u : Place} {t : Bool} {m : p.Marks}
    (hm : p.Remembers T u m) (ht : t = true ↔ T u) : StepSpec p T u t m := by
  induction p generalizing T t with
  | empty =>
    refine ⟨stepSpec_still (b := true) ht ?_ fun v => ?_, fun _ _ _ => trivial⟩
    · exact (Bool.and_true t).symm
    · exact ⟨fun h => ⟨h, rfl⟩, fun h => h.1⟩
  | wordEdge =>
    exact ⟨stepSpec_still (b := Place.atWordEdge u.before u.after) ht rfl fun v => Iff.rfl, fun _ _ _ => trivial⟩
  | lineStart =>
    exact ⟨stepSpec_still (b := Place.atLineStart u.before) ht rfl fun v => Iff.rfl, fun _ _ _ => trivial⟩
  | textStart =>
    refine ⟨stepSpec_still (b := u.before.isEmpty) ht rfl fun v => ?_, fun _ _ _ => trivial⟩
    rw [List.isEmpty_iff]
    exact Iff.rfl
  | one cls => exact stepSpec_one cls hm ht
  | literal l => exact stepSpec_literal l hm ht
  | seq p q ihp ihq =>
    obtain ⟨mp, mq⟩ := m
    have hq := ihq (t := t) hm.2 ht
    have hp := ihp (t := (q.step u.before u.after t mq).1) hm.1 hq.1
    refine ⟨?_, fun c before hu => ⟨hp.2 c before hu, hq.2 c before hu⟩⟩
    change ((p.step u.before u.after (q.step u.before u.after t mq).1 mp).1 = true ↔ _)
    rw [hp.1]
    constructor
    · rintro ⟨v, hv, w, hw, hT⟩
      exact ⟨w, ⟨v, hv, hw⟩, hT⟩
    · rintro ⟨w, ⟨v, hv, hw⟩, hT⟩
      exact ⟨v, hv, w, hw, hT⟩
  | alt p q ihp ihq =>
    obtain ⟨mp, mq⟩ := m
    have hp := ihp (t := t) hm.1 ht
    have hq := ihq (t := t) hm.2 ht
    refine ⟨?_, fun c before hu => ⟨hp.2 c before hu, hq.2 c before hu⟩⟩
    change ((p.step u.before u.after t mp).1 || (q.step u.before u.after t mq).1) = true ↔ _
    rw [Bool.or_eq_true, hp.1, hq.1]
    constructor
    · rintro (⟨v, hv, hT⟩ | ⟨v, hv, hT⟩)
      · exact ⟨v, .inl hv, hT⟩
      · exact ⟨v, .inr hv, hT⟩
    · rintro ⟨v, hv | hv, hT⟩
      · exact .inl ⟨v, hv, hT⟩
      · exact .inr ⟨v, hv, hT⟩
  | star p ih => exact stepSpec_star ih hm ht
  | notAhead p ih =>
    have hp := ih (T := fun _ => True) (t := true) hm ⟨fun _ => trivial, fun _ => rfl⟩
    refine ⟨?_, hp.2⟩
    change (t && !(p.step u.before u.after true m).1) = true ↔ _
    rw [Bool.and_eq_true, ht, Bool.not_eq_true']
    have hnone : (p.step u.before u.after true m).1 = false ↔ ∀ w, ¬ p.Spans u w := by
      rw [← Bool.not_eq_true, hp.1]
      constructor
      · intro h w hw
        exact h ⟨w, hw, trivial⟩
      · rintro h ⟨w, hw, _⟩
        exact h w hw
    rw [hnone]
    constructor
    · rintro ⟨hT, hn⟩
      exact ⟨u, ⟨rfl, hn⟩, hT⟩
    · rintro ⟨v, ⟨rfl, hn⟩, hT⟩
      exact ⟨hT, hn⟩

/-! ## The whole sweep -/

/-- Some derivation starts at the place. -/
def Starts (p : Pattern) (u : Place) : Prop := ∃ v, p.Spans u v

/-- `u` is the first of the places of its text at which a derivation starts. -/
def FirstStart (p : Pattern) (u : Place) : Prop :=
  p.Starts u ∧ ∀ w : Place, w.text = u.text → w.before.length < u.before.length → ¬ p.Starts w

/-- The places of a text up to a place. -/
theorem place_eq_of_text {u v : Place} (h : u.text = v.text) (hl : u.before.length = v.before.length) : u = v := by
  obtain ⟨ub, ua⟩ := u
  obtain ⟨vb, va⟩ := v
  obtain ⟨hb, ha⟩ := List.append_inj h (by simpa using hl)
  exact Place.mk.injEq .. ▸ ⟨List.reverse_inj.1 hb, ha⟩

theorem sweep_spec (p : Pattern) (before after : List Char) (m : p.Marks) (found : Option Place)
    (hm : p.Remembers (fun _ => True) ⟨before, after⟩ m) (u : Place) :
    p.sweep before after m found = some u ↔
      (u.text = before.reverse ++ after ∧ u.before.length ≤ before.length ∧ p.FirstStart u) ∨
        (found = some u ∧
          ∀ w : Place, w.text = before.reverse ++ after → w.before.length ≤ before.length → ¬ p.Starts w) := by
  induction before generalizing after m found with
  | nil =>
    have hs := step_spec p (t := true) hm ⟨fun _ => trivial, fun _ => rfl⟩
    have hhit : (p.step [] after true m).1 = true ↔ p.Starts ⟨[], after⟩ := by
      refine hs.1.trans ⟨fun ⟨v, hv, _⟩ => ⟨v, hv⟩, fun ⟨v, hv⟩ => ⟨v, hv, trivial⟩⟩
    have hplace : ∀ w : Place, w.text = after → w.before.length ≤ 0 → w = ⟨[], after⟩ := by
      intro w hw hl
      exact place_eq_of_text hw (by simpa using hl)
    have hsweep : p.sweep [] after m found =
        if (p.step [] after true m).1 then some ⟨[], after⟩ else found := rfl
    rw [hsweep]
    by_cases hst : p.Starts ⟨[], after⟩
    · rw [if_pos (hhit.2 hst)]
      constructor
      · intro h
        cases h
        exact .inl ⟨rfl, Nat.le_refl _, hst, fun w _ hl => absurd hl (by simp)⟩
      · rintro (⟨ht, hl, _⟩ | ⟨_, hn⟩)
        · rw [hplace u ht hl]
        · exact absurd hst (hn _ rfl (Nat.le_refl _))
    · rw [if_neg (fun h => hst (hhit.1 h))]
      constructor
      · intro h
        refine .inr ⟨h, fun w hw hl => ?_⟩
        rw [hplace w hw hl]
        exact hst
      · rintro (⟨ht, hl, hf, _⟩ | ⟨h, _⟩)
        · rw [hplace u ht hl] at hf
          exact absurd hf hst
        · exact h
  | cons c before ih =>
    have hs := step_spec p (t := true) hm ⟨fun _ => trivial, fun _ => rfl⟩
    have hhit : (p.step (c :: before) after true m).1 = true ↔ p.Starts ⟨c :: before, after⟩ := by
      refine hs.1.trans ⟨fun ⟨v, hv, _⟩ => ⟨v, hv⟩, fun ⟨v, hv⟩ => ⟨v, hv, trivial⟩⟩
    have hsweep : p.sweep (c :: before) after m found =
        p.sweep before (c :: after) (p.step (c :: before) after true m).2
          (if (p.step (c :: before) after true m).1 then some ⟨c :: before, after⟩ else found) := rfl
    have htext : (c :: before).reverse ++ after = before.reverse ++ c :: after := by simp
    rw [hsweep, ih (c :: after) _ _ (hs.2 c before rfl), htext]
    have hsplit : ∀ w : Place, w.text = before.reverse ++ c :: after → w.before.length ≤ (c :: before).length →
        w.before.length ≤ before.length ∨ w = ⟨c :: before, after⟩ := by
      intro w hw hl
      by_cases hlt : w.before.length ≤ before.length
      · exact .inl hlt
      · refine .inr (place_eq_of_text (by rw [hw, ← htext]; rfl) ?_)
        simp only [List.length_cons] at hl ⊢
        omega
    constructor
    · rintro (⟨ht, hl, hf⟩ | ⟨hfound, hn⟩)
      · exact .inl ⟨ht, Nat.le_succ_of_le hl, hf⟩
      · by_cases hst : p.Starts ⟨c :: before, after⟩
        · rw [if_pos (hhit.2 hst)] at hfound
          cases hfound
          refine .inl ⟨htext, Nat.le_refl _, hst, fun w hw hl => hn w (hw.trans htext) ?_⟩
          simp only [List.length_cons] at hl
          omega
        · rw [if_neg (fun h => hst (hhit.1 h))] at hfound
          refine .inr ⟨hfound, fun w hw hl => ?_⟩
          rcases hsplit w hw hl with hlt | rfl
          · exact hn w hw hlt
          · exact hst
    · rintro (⟨ht, hl, hf⟩ | ⟨hfound, hn⟩)
      · rcases hsplit u ht hl with hlt | rfl
        · exact .inl ⟨ht, hlt, hf⟩
        · rw [if_pos (hhit.2 hf.1)]
          refine .inr ⟨rfl, fun w hw hlt => hf.2 w ?_ ?_⟩
          · rw [hw, ← htext]
            rfl
          · simp only [List.length_cons]
            omega
      · have hst : ¬ p.Starts ⟨c :: before, after⟩ := hn _ htext (Nat.le_refl _)
        rw [if_neg (fun h => hst (hhit.1 h))]
        exact .inr ⟨hfound, fun w hw hl => hn w hw (Nat.le_succ_of_le hl)⟩

/-- A derivation needs the literals that every slice of the pattern holds. -/
theorem isIn_of_needs {p : Pattern} {u v : Place} (h : p.Spans u v) {l : Literal} (hl : l ∈ p.needs) :
    l.isIn u.text = true := by
  induction p generalizing u v with
  | literal l' =>
    simp only [needs, List.mem_singleton] at hl
    subst hl
    obtain ⟨xs, _, hb, ha, _⟩ := h
    rw [Place.text]
    refine l.isIn_append_of_begins u.before ?_
    rw [ha]
    exact l.begins_append v.after hb
  | seq p q ihp ihq =>
    obtain ⟨w, hp, hq⟩ := h
    rcases List.mem_append.1 hl with hl | hl
    · exact ihp hp hl
    · rw [← text_eq_of_spans hp]
      exact ihq hq hl
  | _ => simp [needs] at hl

theorem find?_eq_some_iff {p : Pattern} {text : List Char} {u : Place} :
    p.find? text = some u ↔ u.text = text ∧ p.FirstStart u := by
  have hsweep : p.sweep text.reverse [] p.noMarks none = some u ↔ u.text = text ∧ p.FirstStart u := by
    rw [sweep_spec p _ _ _ _ (remembers_noMarks p _ _)]
    simp only [List.reverse_reverse, List.append_nil, List.length_reverse, reduceCtorEq, false_and, or_false]
    constructor
    · rintro ⟨ht, _, hf⟩
      exact ⟨ht, hf⟩
    · rintro ⟨ht, hf⟩
      refine ⟨ht, ?_, hf⟩
      rw [← ht]
      simp [Place.text]
  unfold find?
  split
  · exact hsweep
  · rename_i hneeds
    refine ⟨fun h => (by cases h), ?_⟩
    rintro ⟨ht, ⟨v, hv⟩, _⟩
    refine absurd (List.all_eq_true.2 fun l hl => ?_) hneeds
    rw [← ht]
    exact isIn_of_needs hv hl

/-- Of the places where derivations start one is the first. -/
theorem exists_firstStart {p : Pattern} {u : Place} (h : p.Starts u) : ∃ w : Place, w.text = u.text ∧ p.FirstStart w := by
  induction hn : u.before.length using Nat.strongRecOn generalizing u with
  | ind n ih =>
    by_cases hex : ∃ w : Place, w.text = u.text ∧ w.before.length < u.before.length ∧ p.Starts w
    · obtain ⟨w, hw, hlt, hs⟩ := hex
      obtain ⟨x, hx, hf⟩ := ih w.before.length (by omega) hs rfl
      exact ⟨x, hx.trans hw, hf⟩
    · exact ⟨u, rfl, h, fun w hw hlt hs => hex ⟨w, hw, hlt, hs⟩⟩

/-- A pattern is in a text exactly when some slice of the text is derivable from it. -/
theorem isIn_iff_occurs {p : Pattern} {text : List Char} : p.isIn text = true ↔ p.Occurs text := by
  rw [isIn, Option.isSome_iff_exists]
  constructor
  · rintro ⟨u, hu⟩
    obtain ⟨ht, ⟨v, hv⟩, _⟩ := find?_eq_some_iff.1 hu
    exact ⟨u, v, ht, hv⟩
  · rintro ⟨u, v, ht, hv⟩
    obtain ⟨w, hw, hf⟩ := exists_firstStart ⟨v, hv⟩
    exact ⟨w, find?_eq_some_iff.2 ⟨hw.trans ht, hf⟩⟩

end Pattern

end SnippetLanguage
