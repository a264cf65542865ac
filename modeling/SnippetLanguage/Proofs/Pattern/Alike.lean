import SnippetLanguage.Proofs.Pattern.Carry
import SnippetLanguage.Proofs.Rule.Signals
import SnippetLanguage.Proofs.Text.Fold

/-!
# Patterns that ignore letter case

A pattern ignores letter case when its literals take any case, or hold no letters, and its classes name no single
letter. Such a pattern cannot tell apart places whose characters have the same fold (`carries_alike`): it starts at the
same places of two such texts, so it is in both or in neither (`isIn_eq_of_fold_eq`) and is found at the same place
(`find?_alike`).

`Alike f` compares places by a function on characters that is at least as fine as the fold: the fold itself, or lower
case within the ASCII range.
-/

namespace SnippetLanguage

open Text

/-! ## Classes and literals -/

/-- Whether a class names no single letter. -/
def CharClass.ignoresCase : CharClass → Bool
  | char c => !isLetterForm c
  | union a b => a.ignoresCase && b.ignoresCase
  | without a b => a.ignoresCase && b.ignoresCase
  | _ => true

theorem CharClass.holds_of_fold_eq {cls : CharClass} {x y : Char} (hcls : cls.ignoresCase = true)
    (h : foldLetter x = foldLetter y) : cls.holds x = cls.holds y := by
  induction cls with
  | any => rfl
  | char c =>
    have hc : isLetterForm c = false := by simpa [ignoresCase] using hcls
    have hiff : x = c ↔ y = c := by
      constructor
      · rintro rfl
        exact eq_of_fold_eq h.symm hc
      · rintro rfl
        exact eq_of_fold_eq h hc
    rw [Bool.eq_iff_iff]
    simpa [holds] using hiff
  | blank => exact isBlank_of_fold_eq h
  | word => exact isWord_of_fold_eq h
  | digit => exact isDigit_of_fold_eq h
  | union a b iha ihb =>
    rw [ignoresCase, Bool.and_eq_true] at hcls
    rw [holds, holds, iha hcls.1, ihb hcls.2]
  | without a b iha ihb =>
    rw [ignoresCase, Bool.and_eq_true] at hcls
    rw [holds, holds, iha hcls.1, ihb hcls.2]

/-- Whether a literal takes letters in any case, or holds none. -/
def Literal.ignoresCase (l : Literal) : Bool := l.anyCase || l.chars.all (!isLetterForm ·)

theorem Literal.admits_of_fold_eq {l : Literal} {c x y : Char} (hl : l.ignoresCase = true) (hc : c ∈ l.chars)
    (h : foldLetter x = foldLetter y) : l.admits c x = l.admits c y := by
  unfold Literal.admits
  split
  · rw [sameLetter, sameLetter, letterKey_of_fold_eq h]
  · rename_i hcase
    have hletters : l.chars.all (!isLetterForm ·) = true := by simpa [ignoresCase, hcase] using hl
    have hform : isLetterForm c = false := by simpa using List.all_eq_true.1 hletters c hc
    have hiff : x = c ↔ y = c := by
      constructor
      · rintro rfl
        exact eq_of_fold_eq h.symm hform
      · rintro rfl
        exact eq_of_fold_eq h hform
    rw [Bool.eq_iff_iff]
    simpa using hiff

/-! ## Places -/

/-- The characters around the places have the same images, one by one. -/
def Place.Alike (f : Char → Char) (u u' : Place) : Prop :=
  u.before.map f = u'.before.map f ∧ u.after.map f = u'.after.map f

theorem Place.Alike.symm {f : Char → Char} {u u' : Place} (h : u.Alike f u') : u'.Alike f u :=
  ⟨h.1.symm, h.2.symm⟩

/-- Every place of a text has its like in a text with the same images. -/
theorem Place.exists_alike {f : Char → Char} {text text' : List Char} (h : text.map f = text'.map f) (u : Place)
    (hu : u.text = text) : ∃ u' : Place, u'.text = text' ∧ u.Alike f u' := by
  subst hu
  have hat : ∀ n, (Place.at u.text n).Alike f (Place.at text' n) := by
    intro n
    constructor
    · simp only [Place.at, List.map_reverse, List.map_take, h]
    · simp only [Place.at, List.map_drop, h]
  have hu := hat u.before.length
  rw [← u.eq_at] at hu
  exact ⟨Place.at text' u.before.length, Place.text_at _ _, hu⟩

namespace Pattern

/-- Whether a pattern takes letters in any case. -/
def ignoresCase : Pattern → Bool
  | one cls => cls.ignoresCase
  | literal l => l.ignoresCase
  | seq p q => p.ignoresCase && q.ignoresCase
  | alt p q => p.ignoresCase && q.ignoresCase
  | star p => p.ignoresCase
  | notAhead p => p.ignoresCase
  | _ => true

variable {f : Char → Char} {p : Pattern} {text text' : List Char}

theorem moves_alike {P : Char → Bool} (hP : ∀ x y, f x = f y → P x = P y) :
    Moves (Place.Alike f) (Place.Alike f) fun c => P c = true := by
  intro u u' c rest hu ha hc
  obtain ⟨hb, ha'⟩ := hu
  rw [ha] at ha'
  obtain ⟨c', rest', hafter, hc', hrest⟩ := List.map_eq_cons_iff.1 ha'.symm
  refine ⟨c', rest', hafter, ?_, ?_, hrest.symm⟩
  · exact (hP c' c hc').trans hc
  · simp only [List.map_cons, hc', hb]

theorem any_head?_of_map_eq {P : Char → Bool} (hP : ∀ x y, f x = f y → P x = P y) {xs ys : List Char}
    (h : xs.map f = ys.map f) : xs.head?.any P = ys.head?.any P := by
  cases xs with
  | nil => rw [List.map_eq_nil_iff.1 h.symm]
  | cons x xs =>
    cases ys with
    | nil => cases h
    | cons y ys => exact hP x y (List.cons.inj h).1

/-- **Places with the same folds are the same to a pattern that ignores letter case.** -/
theorem carries_alike (hf : ∀ x y, f x = f y → foldLetter x = foldLetter y) (hp : p.ignoresCase = true) :
    Carries (Place.Alike f) (Place.Alike f) p := by
  have hword : ∀ x y, f x = f y → isWord x = isWord y := fun x y hxy => isWord_of_fold_eq (hf x y hxy)
  induction p with
  | empty => exact carries_empty
  | one cls => exact carries_one (moves_alike fun x y hxy => CharClass.holds_of_fold_eq hp (hf x y hxy))
  | literal l =>
    refine carries_literal fun c hc => ?_
    exact moves_alike fun x y hxy => Literal.admits_of_fold_eq hp hc (hf x y hxy)
  | seq p q ihp ihq =>
    rw [ignoresCase, Bool.and_eq_true] at hp
    exact carries_seq (ihp hp.1) (ihq hp.2)
  | alt p q ihp ihq =>
    rw [ignoresCase, Bool.and_eq_true] at hp
    exact carries_alt (ihp hp.1) (ihq hp.2)
  | star p ih => exact carries_star (ih hp)
  | notAhead p ih => exact carries_notAhead ((ih hp).mono (fun _ _ h => h.symm) fun _ _ h => h)
  | wordEdge =>
    refine carries_still (b := fun u => Place.atWordEdge u.before u.after) (fun _ _ => Iff.rfl) fun u u' hu hedge => ?_
    refine ⟨hu, ?_⟩
    unfold Place.atWordEdge at hedge ⊢
    rw [← any_head?_of_map_eq hword hu.1, ← any_head?_of_map_eq hword hu.2]
    exact hedge
  | textStart =>
    refine carries_still (b := fun u => u.before.isEmpty) (fun u v => ?_) fun u u' hu hstart => ?_
    · rw [List.isEmpty_iff]
      exact Iff.rfl
    · refine ⟨hu, ?_⟩
      rw [List.isEmpty_iff] at hstart ⊢
      have hnil := hu.1
      rw [hstart] at hnil
      exact List.map_eq_nil_iff.1 hnil.symm
  | lineStart =>
    refine carries_still (b := fun u => Place.atLineStart u.before) (fun _ _ => Iff.rfl) fun u u' hu hstart => ?_
    refine ⟨hu, ?_⟩
    obtain ⟨before, after⟩ := u
    obtain ⟨before', after'⟩ := u'
    cases before with
    | nil =>
      obtain rfl := List.map_eq_nil_iff.1 hu.1.symm
      rfl
    | cons c before =>
      obtain ⟨c', rest', rfl, hc', _⟩ := List.map_eq_cons_iff.1 hu.1.symm
      obtain rfl : c = '\n' := beq_iff_eq.1 hstart
      exact beq_iff_eq.2 (eq_of_fold_eq (hf c' '\n' hc') (by decide))

/-- A pattern that ignores letter case is in both of two texts with the same folds, or in neither. -/
theorem isIn_eq_of_fold_eq (hp : p.ignoresCase = true) (h : text.map foldLetter = text'.map foldLetter) :
    p.isIn text = p.isIn text' := by
  have hcarries : Carries (Place.Alike foldLetter) (Place.Alike foldLetter) p := carries_alike (fun _ _ h => h) hp
  rw [Bool.eq_iff_iff]
  constructor
  · exact isIn_of_carries hcarries (Place.exists_alike h)
  · exact isIn_of_carries hcarries (Place.exists_alike h.symm)

/-- A pattern that ignores letter case is found at the same place. -/
theorem find?_alike (hf : ∀ x y, f x = f y → foldLetter x = foldLetter y) (hp : p.ignoresCase = true)
    (h : text.map f = text'.map f) {u : Place} (hu : p.find? text = some u) :
    ∃ u', p.find? text' = some u' ∧ u.Alike f u' := by
  have hcarries : Carries (Place.Alike f) (Place.Alike f) p := carries_alike hf hp
  have hstarts : ∀ u u' : Place, u.Alike f u' → p.Starts u → p.Starts u' := by
    intro u u' hu hs
    obtain ⟨v, hv⟩ := hs
    obtain ⟨v', _, hv'⟩ := hcarries hu hv
    exact ⟨v', hv'⟩
  have hlength : ∀ u u' : Place, u.Alike f u' → u.before.length = u'.before.length := by
    intro u u' hu
    have := congrArg List.length hu.1
    simpa using this
  obtain ⟨htext, hs, hfirst⟩ := find?_eq_some_iff.1 hu
  obtain ⟨u', htext', halike⟩ := Place.exists_alike h u htext
  refine ⟨u', find?_eq_some_iff.2 ⟨htext', hstarts u u' halike hs, ?_⟩, halike⟩
  intro w' hw' hlt hs'
  -- an earlier start in the one text would be an earlier start in the other
  obtain ⟨w, hw, hwalike⟩ := Place.exists_alike h.symm w' (hw'.trans htext')
  refine hfirst w (hw.trans htext.symm) ?_ (hstarts w' w hwalike hs')
  have := hlength u u' halike
  have := hlength w' w hwalike
  omega

end Pattern

end SnippetLanguage
