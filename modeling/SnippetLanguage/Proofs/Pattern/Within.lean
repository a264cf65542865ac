import SnippetLanguage.Proofs.Pattern.Carry

/-!
# A text within a longer text

`u.within a b` is the place `u` of a text where `a` (the nearest character first) and `b` stand around the text. What a
pattern derives in the text it derives in the longer text, as long as

* it has no look-ahead, does not ask for the start of the text if something stands before it, and the text is set apart
  by line feeds (`carries_within`);
* or nothing is put behind the text, the pattern has no anchor, and what is put before the text is no part of a word
  (`carries_behind`). Then the way back holds as well, and look-aheads are no obstacle.
-/

namespace SnippetLanguage

open Text

variable {a b : List Char} {u : Place}

/-- The place of a text where `a`, the nearest character first, and `b` stand around the text. -/
def Place.within (a b : List Char) (u : Place) : Place := ⟨u.before ++ a, u.after ++ b⟩

theorem Place.text_within : (u.within a b).text = a.reverse ++ u.text ++ b := by
  simp [within, text]

theorem any_isWord_head?_append {xs : List Char} (ha : ∀ c ∈ a.head?, isWord c = false) :
    (xs ++ a).head?.any isWord = xs.head?.any isWord := by
  cases xs with
  | nil =>
    cases a with
    | nil => rfl
    | cons c a => exact ha c rfl
  | cons x xs => rfl

/-- Word edges of a text are word edges where no words are put next to its ends, and no others come up. -/
theorem Place.atWordEdge_within (ha : ∀ c ∈ a.head?, isWord c = false) (hb : ∀ c ∈ b.head?, isWord c = false) :
    Place.atWordEdge (u.within a b).before (u.within a b).after = Place.atWordEdge u.before u.after := by
  unfold Place.atWordEdge within
  rw [any_isWord_head?_append ha, any_isWord_head?_append hb]

namespace Pattern

variable {p : Pattern}

theorem moves_within {P : Char → Prop} :
    Moves (fun u u' => u' = u.within a b) (fun v v' => v' = v.within a b) P := by
  rintro u u' c rest rfl hafter hc
  refine ⟨c, rest ++ b, ?_, hc, rfl⟩
  rw [Place.within, hafter]
  rfl

theorem moves_behind_back {P : Char → Prop} :
    Moves (fun u' u => u' = u.within a []) (fun v' v => v' = v.within a []) P := by
  rintro u' u c rest rfl hafter hc
  rw [Place.within, List.append_nil] at hafter
  refine ⟨c, rest, hafter, hc, ?_⟩
  simp [Place.within]

/-! ## Text on both sides -/

/-- Whether the derivations of a pattern stand where lines are put around the text; `first` tells that no line is put
before it. -/
def survives (first : Bool) : Pattern → Bool
  | seq p q => p.survives first && q.survives first
  | alt p q => p.survives first && q.survives first
  | star p => p.survives first
  | notAhead _ => false
  | textStart => first
  | _ => true

/-- **Derivations stand where lines are put around the text.** -/
theorem carries_within (ha : ∀ c ∈ a.head?, c = '\n') (hb : ∀ c ∈ b.head?, c = '\n')
    (hp : p.survives a.isEmpty = true) :
    Carries (fun u u' => u' = u.within a b) (fun v v' => v' = v.within a b) p := by
  have hword : ∀ {xs : List Char}, (∀ c ∈ xs.head?, c = '\n') → ∀ c ∈ xs.head?, isWord c = false := by
    intro xs hxs c hc
    rw [hxs c hc]
    decide
  induction p with
  | empty => exact carries_empty
  | one cls => exact carries_one moves_within
  | literal l => exact carries_literal fun _ _ => moves_within
  | seq p q ihp ihq =>
    rw [survives, Bool.and_eq_true] at hp
    exact carries_seq (ihp hp.1) (ihq hp.2)
  | alt p q ihp ihq =>
    rw [survives, Bool.and_eq_true] at hp
    exact carries_alt (ihp hp.1) (ihq hp.2)
  | star p ih => exact carries_star (ih hp)
  | notAhead p => cases hp
  | wordEdge =>
    refine carries_still (b := fun u => Place.atWordEdge u.before u.after) (fun _ _ => Iff.rfl) ?_
    rintro u u' rfl hedge
    refine ⟨rfl, ?_⟩
    rw [Place.atWordEdge_within (hword ha) (hword hb)]
    exact hedge
  | textStart =>
    obtain rfl : a = [] := List.isEmpty_iff.1 hp
    rintro u u' v rfl ⟨rfl, hstart⟩
    refine ⟨_, rfl, rfl, ?_⟩
    rw [Place.within, List.append_nil]
    exact hstart
  | lineStart =>
    refine carries_still (b := fun u => Place.atLineStart u.before) (fun _ _ => Iff.rfl) ?_
    rintro ⟨before, after⟩ u' rfl hstart
    refine ⟨rfl, ?_⟩
    cases before with
    | nil =>
      cases a with
      | nil => rfl
      | cons c a => exact beq_iff_eq.2 (ha c rfl)
    | cons c before => exact hstart

/-! ## Text before -/

/-- Whether a pattern asks for no start of a text or a line. -/
def unanchored : Pattern → Bool
  | seq p q => p.unanchored && q.unanchored
  | alt p q => p.unanchored && q.unanchored
  | star p => p.unanchored
  | notAhead p => p.unanchored
  | textStart => false
  | lineStart => false
  | _ => true

/-- **Text that is put before a place changes nothing for a pattern without anchors.** -/
theorem carries_behind (ha : ∀ c ∈ a.head?, isWord c = false) (hp : p.unanchored = true) :
    Carries (fun u u' => u' = u.within a []) (fun v v' => v' = v.within a []) p ∧
      Carries (fun u' u => u' = u.within a []) (fun v' v => v' = v.within a []) p := by
  induction p with
  | empty => exact ⟨carries_empty, carries_empty⟩
  | one cls => exact ⟨carries_one moves_within, carries_one moves_behind_back⟩
  | literal l => exact ⟨carries_literal fun _ _ => moves_within, carries_literal fun _ _ => moves_behind_back⟩
  | seq p q ihp ihq =>
    rw [unanchored, Bool.and_eq_true] at hp
    exact ⟨carries_seq (ihp hp.1).1 (ihq hp.2).1, carries_seq (ihp hp.1).2 (ihq hp.2).2⟩
  | alt p q ihp ihq =>
    rw [unanchored, Bool.and_eq_true] at hp
    exact ⟨carries_alt (ihp hp.1).1 (ihq hp.2).1, carries_alt (ihp hp.1).2 (ihq hp.2).2⟩
  | star p ih => exact ⟨carries_star (ih hp).1, carries_star (ih hp).2⟩
  | notAhead p ih => exact ⟨carries_notAhead (ih hp).2, carries_notAhead (ih hp).1⟩
  | wordEdge =>
    have hedge : ∀ u : Place, Place.atWordEdge (u.within a []).before (u.within a []).after =
        Place.atWordEdge u.before u.after := fun u => Place.atWordEdge_within ha (by simp)
    constructor
    · refine carries_still (b := fun u => Place.atWordEdge u.before u.after) (fun _ _ => Iff.rfl) ?_
      rintro u u' rfl h
      exact ⟨rfl, (hedge u).trans h⟩
    · refine carries_still (b := fun u => Place.atWordEdge u.before u.after) (fun _ _ => Iff.rfl) ?_
      rintro u' u rfl h
      exact ⟨rfl, (hedge u).symm.trans h⟩
  | textStart => cases hp
  | lineStart => cases hp

/-- A pattern without anchors starts at the same places where text is put before. -/
theorem starts_within_iff (ha : ∀ c ∈ a.head?, isWord c = false) (hp : p.unanchored = true) :
    p.Starts (u.within a []) ↔ p.Starts u := by
  constructor
  · intro h
    obtain ⟨v', hv'⟩ := h
    obtain ⟨v, _, hv⟩ := (carries_behind ha hp).2 rfl hv'
    exact ⟨v, hv⟩
  · intro h
    obtain ⟨v, hv⟩ := h
    obtain ⟨v', _, hv'⟩ := (carries_behind ha hp).1 rfl hv
    exact ⟨v', hv'⟩

end Pattern

end SnippetLanguage
