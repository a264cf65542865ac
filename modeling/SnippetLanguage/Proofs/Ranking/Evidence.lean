import SnippetLanguage.Proofs.Ranking.Independence

/-!
# More evidence for or against a language

An exclusion more makes the score of a rule smaller where the text shows it, a signature more or a higher priority
never does (`weigh_lt_weigh`, `weigh_le_weigh`). What a rule wins with a score it wins with a larger one
(`wins_of_score_le`), so the answer can only move away from a language by evidence against it, and towards it by
evidence for it (`classify_follows_evidence`).
-/

namespace SnippetLanguage

/-! ## Scores -/

/-- More points are a larger score, also where they become positive. -/
theorem weigh_lt_weigh {p a b : Int} (hp : 0 < p) (h : a < b) : weigh p a < weigh p b := by
  unfold weigh
  by_cases hb : 0 < b
  · have hpos : 0 < b * p := Int.mul_pos hb hp
    rw [if_pos hb]
    split
    · exact Int.mul_lt_mul_of_pos_right h hp
    · omega
  · rw [if_neg hb, if_neg (by omega)]
    exact h

theorem weigh_le_weigh {p q a b : Int} (hp : 0 < p) (hpq : p ≤ q) (h : a ≤ b) : weigh p a ≤ weigh q b := by
  unfold weigh
  by_cases hb : 0 < b
  · have hpos : 0 < b * q := Int.mul_pos hb (by omega)
    rw [if_pos hb]
    split
    · exact Int.mul_le_mul h hpq (by omega) (by omega)
    · omega
  · rw [if_neg hb, if_neg (by omega)]
    exact h

namespace Rule

/-- The rule with other exclusions. -/
def withExclusions (r : Rule) (es : List Signal) : Rule := { r with exclusions := es }

/-- The rule with other signatures. -/
def withSignatures (r : Rule) (ss : List Signal) : Rule := { r with signatures := ss }

/-- The rule with another priority. -/
def withPriority (r : Rule) (p : Int) : Rule := { r with priority := p }

variable {r r' : Rule} {text : List Char}

theorem rawScore_withExclusions {e : Signal} {es : List Signal} (h : es.Perm (e :: r.exclusions)) :
    (r.withExclusions es).rawScore text = r.rawScore text - if e.isIn text then 2 else 0 := by
  have hcount : es.countP (·.isIn text) = r.exclusions.countP (·.isIn text) + if e.isIn text then 1 else 0 := by
    rw [h.countP_eq, List.countP_cons]
  unfold rawScore exclusionCost withExclusions
  dsimp only
  rw [hcount]
  split <;> omega

theorem rawScore_withSignatures {s : Signal} {ss : List Signal} (h : ss.Perm (s :: r.signatures)) :
    (r.withSignatures ss).rawScore text = r.rawScore text + if s.isIn text then 1 else 0 := by
  have hcount : ss.countP (·.isIn text) = r.signatures.countP (·.isIn text) + if s.isIn text then 1 else 0 := by
    rw [h.countP_eq, List.countP_cons]
  unfold rawScore withSignatures
  dsimp only
  rw [hcount]
  split <;> omega

theorem score_le_of_rawScore_le (hp : 0 < r.priority) (hpq : r.priority ≤ r'.priority)
    (h : r.rawScore text ≤ r'.rawScore text) : r.score text ≤ r'.score text :=
  weigh_le_weigh hp hpq h

end Rule

namespace Table

variable {T T' : Table} {l l' : Rule} {before after : List Rule} {text : String}

/-! ## Two tables that differ in one rule -/

/-- A rule of a table can be replaced by one with the same name. -/
theorem exists_ofRules_replace (hT : T.rules = before ++ l :: after) (hname : l'.name = l.name)
    (hpriority : 0 < l'.priority) (hsignatures : l'.signatures.isEmpty = false) :
    ∃ T', ofRules (before ++ l' :: after) = .ok T' ∧ T'.rules = before ++ l' :: after := by
  have hother : ∀ {P : Rule → Prop}, P l' → (∀ r ∈ T.rules, P r) → ∀ r ∈ before ++ l' :: after, P r := by
    intro P hl' hall r hr
    rw [List.mem_append, List.mem_cons] at hr
    rcases hr with hr | rfl | hr
    · exact hall r (by rw [hT]; simp [hr])
    · exact hl'
    · exact hall r (by rw [hT]; simp [hr])
  have hnames : (before ++ l' :: after).map Rule.name = T.rules.map Rule.name := by simp [hT, hname]
  let T' : Table := .ofValid (before ++ l' :: after) ⟨by rw [hnames]; exact T.nodup_names,
    hother hpriority T.priority_pos, hother hsignatures T.signatures_nonempty⟩
  exact ⟨T', ofRules_rules_eq_ok T', rfl⟩

/-- **What a rule wins with a score it wins with a larger one.** -/
theorem wins_of_score_le (hT : T.rules = before ++ l :: after) (hT' : T'.rules = before ++ l' :: after)
    (hle : l.score text.toList ≤ l'.score text.toList) (hw : T.Wins l text) : T'.Wins l' text := by
  obtain ⟨hblank, hpos, hbefore, hafter⟩ := (wins_iff_of_rules_eq hT).1 hw
  refine (wins_iff_of_rules_eq hT').2 ⟨hblank, by omega, fun x hx => ?_, fun x hx => ?_⟩
  · have := hbefore x hx
    omega
  · have := hafter x hx
    omega

/-- Where the rule in question does not win, both tables answer without it. -/
theorem classify_eq_of_not_wins (hT : T.rules = before ++ l :: after) (hT' : T'.rules = before ++ l' :: after)
    (h : ¬ T.Wins l text) (h' : ¬ T'.Wins l' text) : T'.classify text = T.classify text := by
  obtain ⟨S, hS⟩ := exists_rules_eq_without hT
  rw [classify_insert_of_not_wins hS hT h, classify_insert_of_not_wins hS hT' h']

/-- What a table answers where the winner of another one has lost: the second of its ranking, if it scores. -/
theorem classify_of_lost (hT : T.rules = before ++ l :: after) (hT' : T'.rules = before ++ l' :: after)
    (hw : T.Wins l text) (h' : ¬ T'.Wins l' text) :
    (∃ c, (T.rank text)[1]? = some c ∧ 0 < c.score ∧ T'.classify text = c.language) ∨
      (∀ c, (T.rank text)[1]? = some c → c.score ≤ 0) ∧ T'.classify text = placeholder text := by
  obtain ⟨S, hS⟩ := exists_rules_eq_without hT
  rw [classify_insert_of_not_wins hS hT' h', classify, hw.2.1, rank_insert_of_wins hS hT hw]
  have hsecond : (T.rank text)[1]? = (T.rank text).tail.head? := by
    cases T.rank text with
    | nil => rfl
    | cons c cs => simp [List.head?_eq_getElem?]
  rw [hsecond]
  cases (T.rank text).tail with
  | nil => exact .inr ⟨by simp, rfl⟩
  | cons c cs =>
    by_cases hpos : 0 < c.score
    · exact .inl ⟨c, rfl, hpos, if_pos hpos⟩
    · refine .inr ⟨fun d hd => ?_, if_neg hpos⟩
      obtain rfl : c = d := Option.some.inj hd
      omega

/-! ## Evidence -/

/-- With a smaller score of one rule the answer stays what it was or, if it was that language, becomes the second of
the ranking. -/
theorem classify_of_score_le (hT : T.rules = before ++ l :: after) (hT' : T'.rules = before ++ l' :: after)
    (hname : l'.name = l.name) (hle : l'.score text.toList ≤ l.score text.toList) :
    (T.classify text ≠ l.name → T'.classify text = T.classify text) ∧
      (T.classify text = l.name → T'.classify text = l.name ∨
        (∃ c, (T.rank text)[1]? = some c ∧ 0 < c.score ∧ T'.classify text = c.language) ∨
          (∀ c, (T.rank text)[1]? = some c → c.score ≤ 0) ∧ T'.classify text = placeholder text) := by
  by_cases hw : T.Wins l text
  · refine ⟨fun h => absurd (classify_of_wins hw) h, fun _ => ?_⟩
    by_cases hw' : T'.Wins l' text
    · exact .inl (by rw [classify_of_wins hw', hname])
    · exact .inr (classify_of_lost hT hT' hw hw')
  · have hw' : ¬ T'.Wins l' text := fun hw' => hw (wins_of_score_le hT' hT hle hw')
    have hsame := classify_eq_of_not_wins hT hT' hw hw'
    exact ⟨fun _ => hsame, fun h => .inl (hsame.trans h)⟩

/-- With a larger score of one rule the answer stays what it was or becomes that language. -/
theorem classify_of_le_score (hT : T.rules = before ++ l :: after) (hT' : T'.rules = before ++ l' :: after)
    (hname : l'.name = l.name) (hle : l.score text.toList ≤ l'.score text.toList)
    (hne : T'.classify text ≠ l.name) : T'.classify text = T.classify text := by
  have hw' : ¬ T'.Wins l' text := fun hw' => hne (by rw [classify_of_wins hw', hname])
  have hw : ¬ T.Wins l text := fun hw => hw' (wins_of_score_le hT hT' hle hw)
  exact classify_eq_of_not_wins hT hT' hw hw'

/-- **Evidence moves the answer in its own direction only.** One more exclusion of a rule of a table costs it two points
where the text shows it. It changes no answer but that language, and makes of that one the second of the ranking or the
placeholder of the text. One more signature or a higher priority never makes the score of the rule smaller, and the
answer stays what it was or becomes that language. -/
theorem classify_follows_evidence (hT : T.rules = before ++ l :: after) (text : String) :
    (∀ e es, es.Perm (e :: l.exclusions) → ∃ T', ofRules (before ++ l.withExclusions es :: after) = .ok T' ∧
        (l.withExclusions es).rawScore text.toList = l.rawScore text.toList - (if e.isIn text.toList then 2 else 0) ∧
        (if e.isIn text.toList then (l.withExclusions es).score text.toList < l.score text.toList
          else (l.withExclusions es).score text.toList = l.score text.toList) ∧
        (T.classify text ≠ l.name → T'.classify text = T.classify text) ∧
        (T.classify text = l.name → T'.classify text = l.name ∨
          (∃ c, (T.rank text)[1]? = some c ∧ 0 < c.score ∧ T'.classify text = c.language) ∨
            (∀ c, (T.rank text)[1]? = some c → c.score ≤ 0) ∧ T'.classify text = placeholder text)) ∧
      (∀ s ss, ss.Perm (s :: l.signatures) → ∃ T', ofRules (before ++ l.withSignatures ss :: after) = .ok T' ∧
        l.score text.toList ≤ (l.withSignatures ss).score text.toList ∧
        (T'.classify text ≠ l.name → T'.classify text = T.classify text)) ∧
      ∀ p, l.priority ≤ p → ∃ T', ofRules (before ++ l.withPriority p :: after) = .ok T' ∧
        l.score text.toList ≤ (l.withPriority p).score text.toList ∧
        (T'.classify text ≠ l.name → T'.classify text = T.classify text) := by
  have hl : l ∈ T.rules := by simp [hT]
  have hpriority := T.priority_pos l hl
  have hsignatures := T.signatures_nonempty l hl
  refine ⟨fun e es hes => ?_, fun s ss hss => ?_, fun p hp => ?_⟩
  · obtain ⟨T', hok, hT'⟩ := @exists_ofRules_replace T l (l.withExclusions es) _ _ hT rfl hpriority hsignatures
    have hraw := @Rule.rawScore_withExclusions l text.toList e es hes
    have hscore : if e.isIn text.toList then (l.withExclusions es).score text.toList < l.score text.toList
        else (l.withExclusions es).score text.toList = l.score text.toList := by
      split at hraw
      · rw [if_pos (by assumption)]
        exact weigh_lt_weigh hpriority (by omega)
      · rw [if_neg (by assumption)]
        exact congrArg (weigh l.priority) (by omega)
    have hle : (l.withExclusions es).score text.toList ≤ l.score text.toList := by
      split at hscore
      · omega
      · omega
    obtain ⟨hother, hlanguage⟩ := classify_of_score_le hT hT' rfl hle
    exact ⟨T', hok, hraw, hscore, hother, hlanguage⟩
  · have hne : (l.withSignatures ss).signatures.isEmpty = false := by
      rw [List.isEmpty_eq_false_iff]
      exact List.ne_nil_of_mem (hss.mem_iff.2 List.mem_cons_self)
    obtain ⟨T', hok, hT'⟩ := @exists_ofRules_replace T l (l.withSignatures ss) _ _ hT rfl hpriority hne
    have hraw := @Rule.rawScore_withSignatures l text.toList s ss hss
    have hle : l.score text.toList ≤ (l.withSignatures ss).score text.toList :=
      Rule.score_le_of_rawScore_le hpriority (Int.le_refl _) (by split at hraw <;> omega)
    exact ⟨T', hok, hle, classify_of_le_score hT hT' rfl hle⟩
  · have hpositive : 0 < (l.withPriority p).priority := Int.lt_of_lt_of_le hpriority hp
    obtain ⟨T', hok, hT'⟩ := @exists_ofRules_replace T l (l.withPriority p) _ _ hT rfl hpositive hsignatures
    have hle : l.score text.toList ≤ (l.withPriority p).score text.toList :=
      Rule.score_le_of_rawScore_le hpriority hp (Int.le_refl _)
    exact ⟨T', hok, hle, classify_of_le_score hT hT' rfl hle⟩

/-- The rule of `python` in the default table with `os` as an exclusion, with `os` as a signature, and with a higher
priority, for a text that imports `os`. -/
theorem classify_follows_evidence_python :
    Table.default.rules = Rule.defaults.take 6 ++ Rule.python :: Rule.defaults.drop 7 ∧
      (∃ T', ofRules (Rule.defaults.take 6 ++
            Rule.python.withExclusions (Rule.python.exclusions ++ [.pattern (.text "os")]) ::
              Rule.defaults.drop 7) = .ok T' ∧
          (Rule.python.withExclusions (Rule.python.exclusions ++ [.pattern (.text "os")])).rawScore
            "import os".toList = -1 ∧
          (Table.default.classify "import os" ≠ "python" →
            T'.classify "import os" = Table.default.classify "import os")) ∧
        (∃ T', ofRules (Rule.defaults.take 6 ++
            Rule.python.withSignatures (.pattern (.text "os") :: Rule.python.signatures) ::
              Rule.defaults.drop 7) = .ok T' ∧
          (T'.classify "import os" ≠ "python" → T'.classify "import os" = Table.default.classify "import os")) ∧
          Rule.python.priority ≤ 8 ∧
            ∃ T', ofRules (Rule.defaults.take 6 ++ Rule.python.withPriority 8 :: Rule.defaults.drop 7) = .ok T' ∧
              (T'.classify "import os" ≠ "python" →
                T'.classify "import os" = Table.default.classify "import os") := by
  have hrules : Table.default.rules = Rule.defaults.take 6 ++ Rule.python :: Rule.defaults.drop 7 := rfl
  obtain ⟨hexclusion, hsignature, hpriority⟩ := classify_follows_evidence hrules "import os"
  have hpoint : Rule.python.rawScore "import os".toList = 1 := by decide +kernel
  have hshown : (Signal.pattern (.text "os")).isIn "import os".toList = true := by decide +kernel
  refine ⟨hrules, ?_, ?_, by decide, ?_⟩
  · obtain ⟨T', hok, hraw, _, hother, _⟩ := hexclusion (.pattern (.text "os")) _ (List.perm_append_singleton _ _)
    rw [hpoint, if_pos hshown] at hraw
    exact ⟨T', hok, hraw, hother⟩
  · obtain ⟨T', hok, _, hother⟩ := hsignature (.pattern (.text "os")) _ (List.Perm.refl _)
    exact ⟨T', hok, hother⟩
  · obtain ⟨T', hok, _, hother⟩ := hpriority 8 (by decide)
    exact ⟨T', hok, hother⟩

end Table

end SnippetLanguage
