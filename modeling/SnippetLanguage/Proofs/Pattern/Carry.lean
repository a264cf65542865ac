import SnippetLanguage.Pattern.Exact

/-!
# Carrying derivations to another text

Two texts that look alike to a pattern are compared through a relation between their places. A pattern carries a
relation `R` into a relation `R'` when every derivation from a place leads, from each partner of the place under `R`, to
some partner of its end under `R'`.

* What carries a relation is built up with the pattern: sequences compose (`carries_seq`), repetitions keep a relation
  that their body keeps (`carries_star`), and a negative look-ahead asks its body for the way back
  (`carries_notAhead`). Classes and literals carry what their characters carry (`Moves`).
* `isIn_of_carries`: a pattern that carries a relation between all places of two texts is in the second text when it is
  in the first.
-/

namespace SnippetLanguage.Pattern

variable {R R' R'' : Place → Place → Prop} {p q : Pattern}

/-- A derivation from a place leads to a partner of its end from every partner of the place. -/
def Carries (R R' : Place → Place → Prop) (p : Pattern) : Prop :=
  ∀ ⦃u u' v⦄, R u u' → p.Spans u v → ∃ v', R' v v' ∧ p.Spans u' v'

/-- Partners stay partners behind a character with the property, which the other text has there as well. -/
def Moves (R R' : Place → Place → Prop) (P : Char → Prop) : Prop :=
  ∀ ⦃u u' c rest⦄, R u u' → u.after = c :: rest → P c →
    ∃ c' rest', u'.after = c' :: rest' ∧ P c' ∧ R' ⟨c :: u.before, rest⟩ ⟨c' :: u'.before, rest'⟩

theorem Carries.mono {S S' : Place → Place → Prop} (hS : ∀ u u', S u u' → R u u') (hS' : ∀ v v', R' v v' → S' v v')
    (h : Carries R R' p) : Carries S S' p := by
  intro u u' v hu hs
  obtain ⟨v', hv, hs'⟩ := h (hS u u' hu) hs
  exact ⟨v', hS' v v' hv, hs'⟩

/-- A part that takes no characters. -/
theorem carries_still {b : Place → Bool} (hspans : ∀ u v, p.Spans u v ↔ v = u ∧ b u = true)
    (hb : ∀ u u', R u u' → b u = true → R' u u' ∧ b u' = true) : Carries R R' p := by
  intro u u' v hu hs
  obtain ⟨rfl, hbu⟩ := (hspans u v).1 hs
  obtain ⟨hR', hbu'⟩ := hb v u' hu hbu
  exact ⟨u', hR', (hspans u' u').2 ⟨rfl, hbu'⟩⟩

theorem carries_empty : Carries R R empty := by
  intro u u' v hu hs
  obtain rfl : v = u := hs
  exact ⟨u', hu, rfl⟩

theorem carries_one {cls : CharClass} (h : Moves R R' fun c => cls.holds c = true) : Carries R R' (one cls) := by
  intro u u' v hu hs
  obtain ⟨c, hc, ha, hb⟩ := hs
  obtain ⟨c', rest', ha', hc', hv⟩ := h hu ha hc
  refine ⟨⟨c' :: u'.before, rest'⟩, ?_, c', hc', ha', rfl⟩
  rw [← hb] at hv
  exact hv

/-- Along characters that a literal admits. -/
theorem exists_agrees_of_moves {l : Literal} {cs xs rest : List Char} {u u' : Place}
    (h : ∀ c ∈ cs, Moves R R fun x => l.admits c x = true) (hu : R u u') (hlen : xs.length = cs.length)
    (hxs : l.agreesFrom cs xs = true) (ha : u.after = xs ++ rest) :
    ∃ xs' rest', xs'.length = cs.length ∧ l.agreesFrom cs xs' = true ∧ u'.after = xs' ++ rest' ∧
      R ⟨xs.reverse ++ u.before, rest⟩ ⟨xs'.reverse ++ u'.before, rest'⟩ := by
  induction cs generalizing xs u u' with
  | nil =>
    obtain rfl := List.length_eq_zero_iff.1 hlen
    have hplace : u = ⟨u.before, rest⟩ := by rw [← show u.after = rest from ha]
    refine ⟨[], u'.after, rfl, by simp [Literal.agreesFrom], rfl, ?_⟩
    rw [hplace] at hu
    exact hu
  | cons c cs ih =>
    obtain ⟨x, xs, rfl⟩ := List.exists_cons_of_length_eq_add_one hlen
    rw [Literal.agreesFrom, Bool.and_eq_true] at hxs
    obtain ⟨x', rest₁, ha', hx', hu₁⟩ := h c (by simp) hu ha hxs.1
    obtain ⟨xs', rest', hlen', hxs', hrest, hv⟩ := @ih xs ⟨x :: u.before, xs ++ rest⟩ ⟨x' :: u'.before, rest₁⟩
      (fun d hd => h d (by simp [hd])) hu₁ (by simpa using hlen) hxs.2 rfl
    refine ⟨x' :: xs', rest', by simp [hlen'], ?_, by rw [ha', show rest₁ = xs' ++ rest' from hrest]; rfl, ?_⟩
    · rw [Literal.agreesFrom, hx', hxs']
      rfl
    · simpa using hv

theorem carries_literal {l : Literal} (h : ∀ c ∈ l.chars, Moves R R fun x => l.admits c x = true) :
    Carries R R (literal l) := by
  intro u u' v hu hs
  obtain ⟨xs, hlen, hxs, ha, hb⟩ := hs
  obtain ⟨xs', rest', hlen', hxs', ha', hv⟩ := exists_agrees_of_moves h hu hlen hxs ha
  refine ⟨⟨xs'.reverse ++ u'.before, rest'⟩, ?_, xs', hlen', hxs', ha', rfl⟩
  rw [← hb] at hv
  exact hv

theorem carries_seq (hp : Carries R R' p) (hq : Carries R' R'' q) : Carries R R'' (seq p q) := by
  intro u u' w hu hs
  obtain ⟨v, hpv, hqw⟩ := hs
  obtain ⟨v', hv, hpv'⟩ := hp hu hpv
  obtain ⟨w', hw, hqw'⟩ := hq hv hqw
  exact ⟨w', hw, v', hpv', hqw'⟩

theorem carries_alt (hp : Carries R R' p) (hq : Carries R R' q) : Carries R R' (alt p q) := by
  intro u u' v hu hs
  cases hs with
  | inl hs =>
    obtain ⟨v', hv, hs'⟩ := hp hu hs
    exact ⟨v', hv, .inl hs'⟩
  | inr hs =>
    obtain ⟨v', hv, hs'⟩ := hq hu hs
    exact ⟨v', hv, .inr hs'⟩

/-- A repetition keeps the relation when every slice of its body is matched by any number of them. -/
theorem carries_star_of_repeats
    (hp : ∀ ⦃u u' v⦄, R u u' → p.Spans u v → ∃ v', R v v' ∧ Repeats p.Spans u' v') : Carries R R (star p) := by
  have htrans : ∀ {u v w}, Repeats p.Spans u v → Repeats p.Spans v w → Repeats p.Spans u w := by
    intro u v w h h'
    induction h with
    | none => exact h'
    | more hstep _ ih => exact .more hstep (ih h')
  intro u u' v hu hs
  change Repeats p.Spans u v at hs
  induction hs generalizing u' with
  | none u => exact ⟨u', hu, .none u'⟩
  | more hstep _ ih =>
    obtain ⟨x', hx, hstep'⟩ := hp hu hstep
    obtain ⟨v', hv, hrest'⟩ := ih hx
    exact ⟨v', hv, htrans hstep' hrest'⟩

theorem carries_star (hp : Carries R R p) : Carries R R (star p) := by
  refine carries_star_of_repeats fun u u' v hu hs => ?_
  obtain ⟨v', hv, hs'⟩ := hp hu hs
  exact ⟨v', hv, .more hs' (.none v')⟩

/-- A look-ahead that fails at a place fails at its partners when its body carries them back. -/
theorem carries_notAhead (hp : Carries (fun u' u => R u u') R' p) : Carries R R (notAhead p) := by
  intro u u' v hu hs
  obtain ⟨rfl, hnone⟩ := hs
  refine ⟨u', hu, rfl, fun w' hw' => ?_⟩
  obtain ⟨w, _, hw⟩ := hp hu hw'
  exact hnone w hw

theorem isIn_iff_exists_starts {text : List Char} :
    p.isIn text = true ↔ ∃ u : Place, u.text = text ∧ p.Starts u := by
  rw [isIn_iff_occurs]
  constructor
  · intro h
    obtain ⟨u, v, htext, hs⟩ := h
    exact ⟨u, htext, v, hs⟩
  · intro h
    obtain ⟨u, htext, v, hs⟩ := h
    exact ⟨u, v, htext, hs⟩

/-- **A carried pattern is in the other text as well.** -/
theorem isIn_of_carries {text text' : List Char} (hp : Carries R R' p)
    (hR : ∀ u : Place, u.text = text → ∃ u' : Place, u'.text = text' ∧ R u u') (h : p.isIn text = true) :
    p.isIn text' = true := by
  rw [isIn_iff_occurs] at h ⊢
  obtain ⟨u, v, htext, hs⟩ := h
  obtain ⟨u', htext', hu⟩ := hR u htext
  obtain ⟨v', _, hs'⟩ := hp hu hs
  exact ⟨u', v', htext', hs'⟩

end SnippetLanguage.Pattern
