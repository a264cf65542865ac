import SnippetLanguage.Pattern.Exact

/-!
# Backtracking search

A backtracking matcher tries the choices of a pattern one after the other, goes on with the rest of the pattern after
each and comes back for the next choice when the rest fails. `Pattern.attempt` is such a matcher over a preference that
says, at every part of the pattern and every place, which choice comes first: the greedy or the lazy one.

* `tries_attempt`: what an attempt finds is derivable, and it misses nothing, whatever the preference.
* `search_start`: a search over a whole text starts its match where the sweep finds the leftmost start; so the
  preference decides neither whether there is a match nor where it starts, only where it ends.
-/

namespace SnippetLanguage

/-- Which choice comes first at a part of a pattern and a place: `true` for the first part of an alternative and for one
more slice of a repetition, `false` for the second part and for the end of the repetition. -/
abbrev Preference := Pattern → Place → Bool

/-- A matcher: from a place and what has to succeed after it to the end of the whole match. -/
abbrev Matcher := (Place → Option Place) → Place → Option Place

/-- Of two attempts the preferred one, if it succeeds, and else the other. -/
def tryBoth (firstIsPreferred : Bool) (first second : Option Place) : Option Place :=
  if firstIsPreferred then first.or second else second.or first

/-- A repetition: at every place another slice of the body, which has to move on, or the end. -/
def repeatedly (body : Matcher) (again : Place → Bool) (k : Place → Option Place) (u : Place) : Option Place :=
  tryBoth (again u)
    (body (fun v => if v.after.length < u.after.length then repeatedly body again k v else none) u) (k u)
termination_by u.after.length

namespace Pattern

/-- Tries the choices of a pattern at a place in the order of the preference. -/
def attempt (prefers : Preference) : Pattern → Matcher
  | empty, k, u => k u
  | one cls, k, u =>
    match u.after with
    | [] => none
    | c :: rest => if cls.holds c then k ⟨c :: u.before, rest⟩ else none
  | literal l, k, u =>
    if l.begins u.after then
      k ⟨(u.after.take l.chars.length).reverse ++ u.before, u.after.drop l.chars.length⟩
    else none
  | seq p q, k, u => p.attempt prefers (q.attempt prefers k) u
  | alt p q, k, u => tryBoth (prefers (alt p q) u) (p.attempt prefers k u) (q.attempt prefers k u)
  | star p, k, u => repeatedly (p.attempt prefers) (prefers (star p)) k u
  | notAhead p, k, u => if (p.attempt prefers some u).isSome then none else k u
  | wordEdge, k, u => if Place.atWordEdge u.before u.after then k u else none
  | textStart, k, u => if u.before.isEmpty then k u else none
  | lineStart, k, u => if Place.atLineStart u.before then k u else none

/-- Attempts at one place after the other, from the place between `before` and `after` to the end of the text; the
answer is the start and the end of the first match. -/
def searchFrom (prefers : Preference) (p : Pattern) (before : List Char) : List Char → Option (Place × Place)
  | [] => (p.attempt prefers some ⟨before, []⟩).map (⟨before, []⟩, ·)
  | c :: after =>
    match p.attempt prefers some ⟨before, c :: after⟩ with
    | some v => some (⟨before, c :: after⟩, v)
    | none => searchFrom prefers p (c :: before) after

/-- The start and the end of the first match in a text. -/
def search (prefers : Preference) (p : Pattern) (text : List Char) : Option (Place × Place) :=
  p.searchFrom prefers [] text

end Pattern

/-! ## What an attempt finds -/

theorem tryBoth_isSome (b : Bool) (x y : Option Place) : (tryBoth b x y).isSome = (x.isSome || y.isSome) := by
  cases b <;> simp [tryBoth, Bool.or_comm]

theorem tryBoth_eq_some {b : Bool} {x y : Option Place} {w : Place} (h : tryBoth b x y = some w) :
    x = some w ∨ y = some w := by
  cases b <;> cases x <;> cases y <;> simp_all [tryBoth]

/-- A matcher tries a relation: what it finds is a step of the relation and a success after it, and it finds something
when there is such a step. -/
structure Tries (body : Matcher) (r : Place → Place → Prop) : Prop where
  sound : ∀ {k u w}, body k u = some w → ∃ v, r u v ∧ k v = some w
  complete : ∀ {k u v}, r u v → (k v).isSome = true → (body k u).isSome = true

theorem Tries.isSome_iff {body : Matcher} {r : Place → Place → Prop} (h : Tries body r) {k : Place → Option Place}
    {u : Place} : (body k u).isSome = true ↔ ∃ v, r u v ∧ (k v).isSome = true := by
  constructor
  · intro hs
    obtain ⟨w, hw⟩ := Option.isSome_iff_exists.1 hs
    obtain ⟨v, hr, hv⟩ := h.sound hw
    exact ⟨v, hr, by rw [hv]; rfl⟩
  · intro h
    obtain ⟨v, hr, hv⟩ := h
    exact h.complete hr hv

/-- A relation whose steps move on or stay. -/
def Forward (r : Place → Place → Prop) : Prop := ∀ u v, r u v → v ≠ u → v.after.length < u.after.length

/-- **Repeating the body tries every number of steps.** -/
theorem tries_repeatedly {body : Matcher} {r : Place → Place → Prop} (again : Place → Bool) (hbody : Tries body r)
    (hr : Forward r) : Tries (repeatedly body again) (Repeats r) where
  sound := by
    intro k u w h
    induction hn : u.after.length using Nat.strongRecOn generalizing u with
    | ind n ih =>
      rw [repeatedly] at h
      rcases tryBoth_eq_some h with h | h
      · obtain ⟨x, hx, hk⟩ := hbody.sound h
        by_cases hlt : x.after.length < u.after.length
        · rw [if_pos hlt] at hk
          obtain ⟨v, hv, hkv⟩ := ih _ (hn ▸ hlt) hk rfl
          exact ⟨v, .more hx hv, hkv⟩
        · rw [if_neg hlt] at hk
          cases hk
      · exact ⟨u, .none u, h⟩
  complete := by
    intro k u v h hk
    induction hn : u.after.length using Nat.strongRecOn generalizing u with
    | ind n ih =>
      rw [repeatedly, tryBoth_isSome, Bool.or_eq_true]
      by_cases hv : v = u
      · subst hv
        exact .inr hk
      · obtain ⟨x, hxu, hx, hrest⟩ := h.exists_proper_step hv
        have hlt := hr u x hx hxu
        refine .inl (hbody.complete hx ?_)
        rw [if_pos hlt]
        exact ih _ (hn ▸ hlt) hrest rfl

namespace Pattern

variable {prefers : Preference}

/-- A part that takes no characters but holds at some places only. -/
theorem tries_still {p : Pattern} {b : Place → Bool}
    (hattempt : ∀ k u, p.attempt prefers k u = if b u then k u else none)
    (hspans : ∀ u v, p.Spans u v ↔ v = u ∧ b u = true) : Tries (p.attempt prefers) p.Spans where
  sound := by
    intro k u w h
    rw [hattempt] at h
    split at h
    · rename_i hu
      exact ⟨u, (hspans u u).2 ⟨rfl, hu⟩, h⟩
    · cases h
  complete := by
    intro k u v h hk
    obtain ⟨rfl, hu⟩ := (hspans u v).1 h
    rw [hattempt, if_pos hu]
    exact hk

theorem tries_one (cls : CharClass) : Tries ((one cls).attempt prefers) (one cls).Spans where
  sound := by
    rintro k ⟨before, after⟩ w h
    cases after with
    | nil => cases h
    | cons c rest =>
      simp only [attempt] at h
      split at h
      · rename_i hc
        exact ⟨⟨c :: before, rest⟩, ⟨c, hc, rfl, rfl⟩, h⟩
      · cases h
  complete := by
    rintro k ⟨before, after⟩ ⟨vb, va⟩ ⟨c, hc, ha, hb⟩ hk
    dsimp only at ha hb
    subst ha hb
    simp only [attempt]
    rw [if_pos hc]
    exact hk

theorem tries_literal (l : Literal) : Tries ((literal l).attempt prefers) (literal l).Spans where
  sound := by
    intro k u w h
    simp only [attempt] at h
    split at h
    · rename_i hb
      have hlen := l.agreesFrom_length hb
      have htake : (u.after.take l.chars.length).length = l.chars.length := by
        rw [List.length_take]
        omega
      refine ⟨_, ⟨u.after.take l.chars.length, htake, ?_, (List.take_append_drop _ _).symm, rfl⟩, h⟩
      rw [← List.take_append_drop l.chars.length u.after] at hb
      exact (l.agreesFrom_append _ htake).symm.trans hb
    · cases h
  complete := by
    rintro k u ⟨vb, va⟩ ⟨xs, hlen, hb, ha, hv⟩ hk
    dsimp only at ha hv
    simp only [attempt]
    rw [if_pos (by rw [ha]; exact l.begins_append va hb), ha, ← hlen, List.take_left, List.drop_left, ← hv]
    exact hk

/-- **An attempt finds derivations, and misses none.** -/
theorem tries_attempt (p : Pattern) : Tries (p.attempt prefers) p.Spans := by
  induction p with
  | empty => exact tries_still (b := fun _ => true) (fun _ _ => rfl) fun u v => by simp [Spans]
  | one cls => exact tries_one cls
  | literal l => exact tries_literal l
  | seq p q ihp ihq =>
    constructor
    · intro k u w h
      obtain ⟨x, hx, hk⟩ := ihp.sound h
      obtain ⟨v, hv, hkv⟩ := ihq.sound hk
      exact ⟨v, ⟨x, hx, hv⟩, hkv⟩
    · rintro k u v ⟨x, hx, hv⟩ hk
      exact ihp.complete hx (ihq.complete hv hk)
  | alt p q ihp ihq =>
    constructor
    · intro k u w h
      rcases tryBoth_eq_some h with h | h
      · obtain ⟨v, hv, hk⟩ := ihp.sound h
        exact ⟨v, .inl hv, hk⟩
      · obtain ⟨v, hv, hk⟩ := ihq.sound h
        exact ⟨v, .inr hv, hk⟩
    · intro k u v h hk
      rw [attempt, tryBoth_isSome, Bool.or_eq_true]
      exact h.imp (fun h => ihp.complete h hk) (fun h => ihq.complete h hk)
  | star p ih => exact tries_repeatedly _ ih fun u v => length_after_lt_of_spans
  | notAhead p ih =>
    refine tries_still (b := fun u => !(p.attempt prefers some u).isSome) (fun k u => ?_) fun u v => ?_
    · simp only [attempt]
      cases (p.attempt prefers some u).isSome <;> rfl
    · rw [Bool.not_eq_true', ← Bool.not_eq_true, ih.isSome_iff]
      simp [Spans]
  | wordEdge => exact tries_still (fun _ _ => rfl) fun _ _ => Iff.rfl
  | textStart => exact tries_still (fun _ _ => rfl) fun u v => by rw [List.isEmpty_iff]; exact Iff.rfl
  | lineStart => exact tries_still (fun _ _ => rfl) fun _ _ => Iff.rfl

theorem attempt_isSome_iff (prefers : Preference) {p : Pattern} {u : Place} :
    (p.attempt prefers some u).isSome = true ↔ p.Starts u := by
  rw [(tries_attempt p).isSome_iff]
  simp [Starts]

/-! ## What a search finds -/

/-- What is asked of a search in a text: the first start and a derivation from it, or that there is no start. -/
def SearchSpec (p : Pattern) (text : List Char) : Option (Place × Place) → Prop
  | some (u, v) => u.text = text ∧ p.FirstStart u ∧ p.Spans u v
  | none => ∀ u : Place, u.text = text → ¬ p.Starts u

/-- No derivation starts at the first `n` places of a text. -/
def NoStartBefore (p : Pattern) (text : List Char) (n : Nat) : Prop :=
  ∀ w : Place, w.text = text → w.before.length < n → ¬ p.Starts w

theorem searchSpec_of_attempt {p : Pattern} {u v : Place} (hbefore : p.NoStartBefore u.text u.before.length)
    (h : p.attempt prefers some u = some v) : p.SearchSpec u.text (some (u, v)) := by
  obtain ⟨x, hx, hv⟩ := (tries_attempt p).sound h
  cases hv
  exact ⟨rfl, ⟨⟨v, hx⟩, hbefore⟩, hx⟩

/-- An attempt that fails adds its place to those where no derivation starts. -/
theorem noStartBefore_succ {p : Pattern} {u : Place} (hbefore : p.NoStartBefore u.text u.before.length)
    (h : p.attempt prefers some u = none) : p.NoStartBefore u.text (u.before.length + 1) := by
  intro w hw hlt hs
  by_cases hlt' : w.before.length < u.before.length
  · exact hbefore w hw hlt' hs
  · rw [place_eq_of_text hw (by omega), ← attempt_isSome_iff prefers, h] at hs
    cases hs

theorem searchFrom_spec {p : Pattern} {before after : List Char}
    (hbefore : p.NoStartBefore (before.reverse ++ after) before.length) :
    p.SearchSpec (before.reverse ++ after) (p.searchFrom prefers before after) := by
  induction after generalizing before with
  | nil =>
    unfold searchFrom
    cases h : p.attempt prefers some ⟨before, []⟩ with
    | some v => exact searchSpec_of_attempt (u := ⟨before, []⟩) hbefore h
    | none =>
      intro w hw
      refine noStartBefore_succ (u := ⟨before, []⟩) hbefore h w hw ?_
      have hlen := congrArg List.length hw
      simp only [Place.text, List.length_append, List.length_reverse, List.length_nil] at hlen ⊢
      omega
  | cons c after ih =>
    unfold searchFrom
    cases h : p.attempt prefers some ⟨before, c :: after⟩ with
    | some v => exact searchSpec_of_attempt (u := ⟨before, c :: after⟩) hbefore h
    | none =>
      have hnext := noStartBefore_succ (u := ⟨before, c :: after⟩) hbefore h
      have htext : before.reverse ++ c :: after = (c :: before).reverse ++ after := by simp
      rw [Place.text, htext] at hnext
      rw [htext]
      exact ih hnext

theorem search_spec (prefers : Preference) (p : Pattern) (text : List Char) :
    p.SearchSpec text (p.search prefers text) :=
  @searchFrom_spec prefers p [] text fun _ _ h => absurd h (Nat.not_lt_zero _)

/-- **The preference does not move the start of a match**: it is the leftmost place where a derivation starts. -/
theorem search_start (prefers : Preference) (p : Pattern) (text : List Char) :
    (p.search prefers text).map Prod.fst = p.find? text := by
  have hspec := search_spec prefers p text
  cases h : p.search prefers text with
  | some m =>
    rw [h] at hspec
    exact (find?_eq_some_iff.2 ⟨hspec.1, hspec.2.1⟩).symm
  | none =>
    rw [h] at hspec
    cases hf : p.find? text with
    | none => rfl
    | some u =>
      obtain ⟨ht, hs, _⟩ := find?_eq_some_iff.1 hf
      exact absurd hs (hspec u ht)

theorem search_isSome (prefers : Preference) (p : Pattern) (text : List Char) :
    (p.search prefers text).isSome = p.isIn text := by
  rw [isIn, ← search_start prefers, Option.isSome_map]

end Pattern

end SnippetLanguage
