import SnippetLanguage.Proofs.Pattern.Leading
import SnippetLanguage.Proofs.Ranking.Priority
import SnippetLanguage.Proofs.Rule.Cases

/-!
# Signatures that overlap or exclude one another

Two patterns may start at one place, so that the one is found wherever the other is (`Pattern.Narrows`), or they may ask
for different characters at the start of the text, so that no text has both (`Pattern.OpensWith`,
`find?_visible_of_isIn`). With the priorities of the default table this decides how much some of its signatures can do:

* a text starts with a JSON object or with a JSON array, not with both, so `json` has one point at most and is answered
  only where no other rule has any (`classify_default_eq_json_iff`);
* the head of a function without parameters in Swift is a head of a function in Go as well, which counts for more, so
  for `swift` another signature is needed (`swift_needs_another_signature`).
-/

namespace SnippetLanguage

open Text

namespace Pattern

variable {p q r : Pattern} {text : List Char} {c : Char}

/-! ## Patterns that start where others do -/

/-- Wherever the one pattern starts, the other starts as well. -/
def Narrows (p q : Pattern) : Prop := ∀ u, p.Starts u → q.Starts u

theorem Narrows.trans (hpq : p.Narrows q) (hqr : q.Narrows r) : p.Narrows r := fun u h => hqr u (hpq u h)

/-- Behind the same part it is enough that what follows narrows. -/
theorem Narrows.seq (h : q.Narrows r) : (seq p q).Narrows (.seq p r) := by
  rintro u ⟨w, v, hp, hq⟩
  obtain ⟨w', hr⟩ := h v ⟨w, hq⟩
  exact ⟨w', v, hp, hr⟩

/-- A repetition in front may be left out. -/
theorem narrows_star_seq : q.Narrows (.seq (star p) q) := by
  rintro u ⟨v, hq⟩
  exact ⟨v, u, Repeats.none u, hq⟩

/-- A word starts where a longer one does. -/
theorem narrows_text_of_prefix {word longer : String} (h : word.toList <+: longer.toList) :
    (Pattern.text longer).Narrows (.text word) := by
  rintro ⟨before, after⟩ hstarts
  obtain ⟨xs, rest, rfl, hxs⟩ := starts_iff.1 hstarts
  rw [derives_text] at hxs
  refine starts_iff.2 ⟨xs.take word.toList.length, xs.drop word.toList.length ++ rest, ?_, derives_text.2 ?_⟩
  · rw [← List.append_assoc, List.take_append_drop]
  · have hfront := List.forall₂_take word.toList.length hxs
    rwa [← List.prefix_iff_eq_take.1 h] at hfront

/-- **A pattern is in every text that has a narrower one.** -/
theorem Narrows.isIn (h : p.Narrows q) (hp : p.isIn text = true) : q.isIn text = true := by
  rw [isIn_iff_exists_starts] at hp ⊢
  obtain ⟨u, hu, hstarts⟩ := hp
  exact ⟨u, hu, h u hstarts⟩

/-! ## Patterns that start the text -/

/-- The pattern starts at the character only. -/
def OpensWith (p : Pattern) (c : Char) : Prop := ∀ u, p.Starts u → u.after.head? = some c

theorem opensWith_text {word : String} (hsign : isSignWord word = true) (hc : word.toList.head? = some c) :
    (Pattern.text word).OpensWith c := by
  rintro ⟨before, after⟩ hstarts
  obtain ⟨xs, rest, rfl, hxs⟩ := starts_iff.1 hstarts
  obtain rfl := (spells_signs_iff hsign).1 (derives_text.1 hxs)
  rw [List.head?_append, hc]
  rfl

theorem OpensWith.seq (h : p.OpensWith c) : (seq p q).OpensWith c := by
  rintro u ⟨_, v, hp, _⟩
  exact h u ⟨v, hp⟩

/-- **Where a text starts with blanks and a pattern, its first visible character is the one that opens the pattern.** -/
theorem find?_visible_of_isIn (hq : q.OpensWith c) (hvisible : isBlank c = false)
    (h : (seq textStart (seq blanks q)).isIn text = true) : text.find? (!isBlank ·) = some c := by
  obtain ⟨lead, rest, rfl, hlead, hstarts⟩ := isIn_textStart_run_iff.1 h
  obtain ⟨after, rfl⟩ := List.head?_eq_some_iff.1 (hq _ hstarts)
  rw [List.find?_append]
  have hnone : lead.find? (!isBlank ·) = none := by
    rw [List.find?_eq_none]
    intro x hx
    have hblank : isBlank x = true := hlead x hx
    simp [hblank]
  simp [hnone, hvisible]

end Pattern

/-! ## JSON -/

namespace Rule

variable {text : List Char}

theorem find?_visible_of_jsonObject (h : jsonObject.isIn text = true) : text.find? (!isBlank ·) = some '\x7b' :=
  Pattern.find?_visible_of_isIn (Pattern.opensWith_text (by decide) rfl).seq (by decide) h

theorem find?_visible_of_jsonArray (h : jsonArray.isIn text = true) : text.find? (!isBlank ·) = some '[' :=
  Pattern.find?_visible_of_isIn (Pattern.opensWith_text (by decide) rfl).seq (by decide) h

/-- **A text starts with an object or with an array, not with both.** -/
theorem not_jsonArray_of_jsonObject (h : jsonObject.isIn text = true) : jsonArray.isIn text = false := by
  rw [Bool.eq_false_iff]
  intro harray
  have hopener := (find?_visible_of_jsonObject h).symm.trans (find?_visible_of_jsonArray harray)
  exact absurd (Option.some.inj hopener) (by decide)

theorem rawScore_json_pos_iff :
    0 < json.rawScore text ↔ jsonObject.isIn text = true ∨ jsonArray.isIn text = true := by
  rw [rawScore_pos_iff rfl]
  simp [json, Signal.isIn]

theorem rawScore_json_le_one : json.rawScore text ≤ 1 := by
  have hcount : json.signatures.countP (·.isIn text) ≤ 1 :=
    countP_isIn_le_one (List.pairwise_pair.2 not_jsonArray_of_jsonObject)
  have hle := json.rawScore_le_countP text
  omega

theorem score_json_le : json.score text ≤ 3 := by
  by_cases hpoints : 0 < json.rawScore text
  · have hone : json.rawScore text = 1 := by
      have := @rawScore_json_le_one text
      omega
    rw [score_eq_mul hpoints, hone]
    decide
  · have hscore : json.score text = json.rawScore text := if_neg hpoints
    omega

/-- A text with a JSON signature has something visible. -/
theorem allBlank_of_json {text : String} (h : 0 < json.rawScore text.toList) : allBlank text = false := by
  rw [rawScore_json_pos_iff] at h
  have hvisible : ∃ c, text.toList.find? (!isBlank ·) = some c :=
    h.elim (fun h => ⟨_, find?_visible_of_jsonObject h⟩) fun h => ⟨_, find?_visible_of_jsonArray h⟩
  obtain ⟨c, hc⟩ := hvisible
  have hshown : isBlank c = false := by simpa using List.find?_some hc
  rw [allBlank, List.all_eq_false]
  exact ⟨c, List.mem_of_find?_eq_some hc, by rw [hshown]; exact Bool.false_ne_true⟩

end Rule

namespace Table

/-- **JSON is the language of last resort.** The default table answers `json` exactly when one of the two JSON
signatures is in the text and no other rule has any points. No text has both signatures, so the score of `json` is three
at most, less than any other rule with points has. -/
theorem classify_default_eq_json_iff (text : String) :
    (Table.default.classify text = "json" ↔
      (Rule.jsonObject.isIn text.toList = true ∨ Rule.jsonArray.isIn text.toList = true) ∧
        ∀ r ∈ Table.default.rules, r.name ≠ "json" → r.rawScore text.toList ≤ 0) ∧
      ¬ (Rule.jsonObject.isIn text.toList = true ∧ Rule.jsonArray.isIn text.toList = true) ∧
      Rule.json.score text.toList ≤ 3 := by
  have hmem : Rule.json ∈ Table.default.rules :=
    List.mem_of_getElem? (show Rule.defaults[15]? = some Rule.json from rfl)
  have hpriority : ∀ r ∈ Table.default.rules, r.name ≠ "json" → 3 < r.priority := by decide
  have hscore : Rule.json.score text.toList ≤ 3 := Rule.score_json_le
  refine ⟨?_, fun h => ?_, hscore⟩
  · have hlow : ∀ r ∈ Table.default.rules, r.name ≠ Rule.json.name → Rule.json.score text.toList < r.priority :=
      fun r hr hname => Int.lt_of_le_of_lt hscore (hpriority r hr hname)
    calc Table.default.classify text = "json"
        ↔ Table.default.Wins Rule.json text := classify_eq_name_iff hmem rfl
      _ ↔ _ := wins_iff_of_outweighed hmem hlow
      _ ↔ _ := and_iff_right_of_imp fun h => Rule.allBlank_of_json h.1
      _ ↔ _ := and_congr_left fun _ => Rule.rawScore_json_pos_iff
  · rw [Rule.not_jsonArray_of_jsonObject h.1] at h
    exact Bool.false_ne_true h.2

end Table

/-! ## Heads of functions -/

/-- Whether a signal is the given pattern. -/
def Signal.isPattern (p : Pattern) : Signal → Bool
  | .pattern q => q == p
  | .matcher _ => false

theorem Signal.isPattern_iff {p : Pattern} {s : Signal} : s.isPattern p = true ↔ s = .pattern p := by
  cases s <;> simp [isPattern]

/-- More than one point comes from another signature than one that the rule has once. -/
theorem Rule.exists_other_of_one_lt_rawScore {r : Rule} {p : Pattern} {text : List Char}
    (honce : r.signatures.countP (·.isPattern p) ≤ 1) (h : 1 < r.rawScore text) :
    ∃ s ∈ r.signatures, s ≠ .pattern p ∧ s.isIn text = true := by
  by_contra hnone
  have hsame : r.signatures.countP (·.isIn text) ≤ r.signatures.countP (·.isPattern p) := by
    refine List.countP_mono_left fun s hs hin => Signal.isPattern_iff.2 ?_
    by_contra hne
    exact hnone ⟨s, hs, hne, hin⟩
  have hle := r.rawScore_le_countP text
  omega

/-- The head of a function without parameters in Swift is the head of a function in Go. -/
theorem Rule.swiftFunction_narrows_goFunction : Rule.swiftFunction.Narrows Rule.goFunction := by
  have hbracket : (Pattern.text "()").Narrows (.seq .blanks (.text "(")) :=
    (Pattern.narrows_text_of_prefix (by decide)).trans Pattern.narrows_star_seq
  exact hbracket.seq.seq.seq

namespace Table

/-- **The head of a function alone never decides for Swift.** Where it is in a text, the head of a function in Go is in
the text as well, and a point for `go` counts for more than one for `swift`. So where the default table answers
`swift`, the text has another signature of that rule. -/
theorem swift_needs_another_signature (text : String) :
    (Rule.swiftFunction.isIn text.toList = true → Rule.goFunction.isIn text.toList = true) ∧
      (Table.default.classify text = "swift" →
        ∃ s ∈ Rule.swift.signatures, s ≠ .pattern Rule.swiftFunction ∧ s.isIn text.toList = true) := by
  have hswift : Rule.swift ∈ Table.default.rules :=
    List.mem_of_getElem? (show Rule.defaults[5]? = some Rule.swift from rfl)
  have hgo : Rule.go ∈ Table.default.rules :=
    List.mem_of_getElem? (show Rule.defaults[2]? = some Rule.go from rfl)
  refine ⟨Rule.swiftFunction_narrows_goFunction.isIn, fun h => ?_⟩
  have hwins : Table.default.Wins Rule.swift text := (classify_eq_name_iff hswift rfl).1 h
  by_cases hhead : Rule.swiftFunction.isIn text.toList = true
  · have hpoint : 0 < Rule.go.rawScore text.toList := (Rule.rawScore_pos_iff rfl).2
      ⟨.pattern Rule.goFunction, List.mem_cons_self, Rule.swiftFunction_narrows_goFunction.isIn hhead⟩
    -- one point of eight is too little against the nine of `go`, so `swift` has another one
    have hreach : (9 : Int) ≤ Rule.swift.rawScore text.toList * 8 := priority_le_of_wins hwins hgo hpoint
    exact Rule.exists_other_of_one_lt_rawScore (by decide) (by omega)
  · obtain ⟨s, hs, hin⟩ := (Rule.rawScore_pos_iff rfl).1 (rawScore_pos_of_wins hwins)
    refine ⟨s, hs, ?_, hin⟩
    rintro rfl
    exact hhead hin

/-- A function and a typed constant: the constant decides. -/
theorem swift_needs_another_signature_of_constant :
    Rule.swiftFunction.isIn "func f()\nlet a: B".toList = true ∧
      Table.default.classify "func f()\nlet a: B" = "swift" ∧
      Rule.goFunction.isIn "func f()\nlet a: B".toList = true ∧
      ∃ s ∈ Rule.swift.signatures, s ≠ .pattern Rule.swiftFunction ∧ s.isIn "func f()\nlet a: B".toList = true := by
  have hhead : Rule.swiftFunction.isIn "func f()\nlet a: B".toList = true := by decide +kernel
  have hanswer : Table.default.classify "func f()\nlet a: B" = "swift" := by
    rw [classify_eq]
    decide +kernel
  obtain ⟨hgo, hother⟩ := swift_needs_another_signature "func f()\nlet a: B"
  exact ⟨hhead, hanswer, hgo hhead, hother hanswer⟩

end Table

end SnippetLanguage
