import Mathlib.Data.List.Nodup
import SnippetLanguage.Rule.Default

/-!
# Look-ups in a table

A table keeps its rules twice, in a list and in an index by name. Looking up a name in the index is searching the list
for it (`get?_eq_find?`), and as all names are different a search finds the only rule of the name, if there is one
(`get?_eq_some_iff`, `get?_eq_none_iff`). So a table tells the same about its rules whichever of the two is asked
(`list_and_index_agree`).
-/

namespace SnippetLanguage

theorem RuleIndex.lookup_ofList (rs : List Rule) (name : String) :
    (ofList rs).lookup name = rs.find? (·.name == name) := by
  induction rs with
  | nil => rfl
  | cons r rs ih =>
    rw [ofList, List.map_cons, List.lookup_cons, List.find?_cons, BEq.comm]
    cases r.name == name with
    | true => rfl
    | false => exact ih

namespace Table

variable {t : Table} {r r' : Rule} {name : String}

/-- Looking up a name in the index is searching the list for the first rule of the name. -/
theorem get?_eq_find? (t : Table) (name : String) : t.get? name = t.rules.find? (·.name == name) := by
  rw [get?, index_eq, RuleIndex.lookup_ofList]

/-- Two rules of a table with one name are one rule. -/
theorem eq_of_name_eq (hr : r ∈ t.rules) (hr' : r' ∈ t.rules) (h : r.name = r'.name) : r = r' :=
  List.inj_on_of_nodup_map t.nodup_names hr hr' h

/-- The rule of a name is the only one of that name. -/
theorem get?_eq_some_iff : t.get? name = some r ↔ r ∈ t.rules ∧ r.name = name := by
  rw [get?_eq_find?]
  constructor
  · intro h
    exact ⟨List.mem_of_find?_eq_some h, by simpa using List.find?_some h⟩
  · rintro ⟨hr, rfl⟩
    cases hfind : t.rules.find? (·.name == r.name) with
    | none => exact absurd (beq_self_eq_true r.name) (List.find?_eq_none.1 hfind r hr)
    | some r' =>
      have hname : r'.name = r.name := by simpa using List.find?_some hfind
      rw [eq_of_name_eq (List.mem_of_find?_eq_some hfind) hr hname]

theorem get?_eq_none_iff : t.get? name = none ↔ ∀ r ∈ t.rules, r.name ≠ name := by
  simp [get?_eq_find?]

/-- No name of a table is without a rule. -/
theorem get?_name (hr : r ∈ t.rules) : t.get? r.name = some r := get?_eq_some_iff.2 ⟨hr, rfl⟩

theorem contains_iff : t.contains name = true ↔ ∃ r ∈ t.rules, r.name = name := by
  rw [contains, index_eq, RuleIndex.hasName_ofList]

theorem mem_names_iff : name ∈ t.names ↔ ∃ r ∈ t.rules, r.name = name := List.mem_map

/-- What the index tells of a name is all that the list has of it. -/
theorem filter_name_eq (t : Table) (name : String) : t.rules.filter (·.name = name) = (t.get? name).toList := by
  cases hget : t.get? name with
  | none =>
    rw [get?_eq_none_iff] at hget
    simpa using hget
  | some r =>
    obtain ⟨hr, rfl⟩ := get?_eq_some_iff.1 hget
    -- rules cannot be compared with each other, so the list is split where the rule stands
    obtain ⟨before, after, hsplit⟩ := List.append_of_mem hr
    have hnodup := t.nodup_names
    rw [hsplit, List.map_append, List.map_cons, List.nodup_middle, List.nodup_cons, List.mem_append, not_or] at hnodup
    have hnone : ∀ {xs : List Rule}, r.name ∉ xs.map Rule.name → xs.filter (·.name = r.name) = [] := by
      intro xs hxs
      simpa using hxs
    rw [hsplit, List.filter_append, List.filter_cons_of_pos (by simp), hnone hnodup.1.1, hnone hnodup.1.2]
    rfl

/-- **The list and the index of a table agree.** A table of a list of rules has these rules in this order, as many as
there are, and their names, all different. For each name, what the index finds is the only rule of the list with this
name, and nothing exactly if there is none; and the table has the name exactly if the index finds a rule, which is
exactly if the name is among those of the list. -/
theorem list_and_index_agree {rs : List Rule} {t : Table} (h : ofRules rs = .ok t) :
    t.rules = rs ∧ t.size = rs.length ∧ t.names = rs.map Rule.name ∧ t.names.Nodup ∧
      ∀ name, rs.filter (·.name = name) = (t.get? name).toList ∧
        (∀ r, t.get? name = some r ↔ r ∈ rs ∧ r.name = name) ∧
        (t.get? name = none ↔ ∀ r ∈ rs, r.name ≠ name) ∧
        (t.contains name = true ↔ t.get? name ≠ none) ∧ (t.contains name = true ↔ name ∈ t.names) := by
  obtain rfl := ofRules_rules h
  refine ⟨rfl, rfl, rfl, t.nodup_names, fun name => ⟨filter_name_eq t name, fun r => get?_eq_some_iff,
    get?_eq_none_iff, ?_, contains_iff.trans mem_names_iff.symm⟩⟩
  rw [contains_iff, Ne, get?_eq_none_iff]
  simp

/-- The default rules, with a name that one of them has and one that none has. -/
theorem list_and_index_agree_default :
    ofRules Rule.defaults = .ok Table.default ∧ Table.default.rules = Rule.defaults ∧ Table.default.names.Nodup ∧
      Table.default.get? "python" = some Rule.python ∧ Table.default.get? "cobol" = none ∧
        Table.default.contains "python" = true ∧ ¬ Table.default.contains "cobol" = true := by
  have hbuilt : ofRules Rule.defaults = .ok Table.default := ofRules_rules_eq_ok Table.default
  obtain ⟨hrules, _, _, hnodup, hnames⟩ := list_and_index_agree hbuilt
  obtain ⟨_, hpython, _, hfound, _⟩ := hnames "python"
  obtain ⟨_, _, hcobol, hlost, _⟩ := hnames "cobol"
  have hget : Table.default.get? "python" = some Rule.python :=
    (hpython Rule.python).2 ⟨by simp [Rule.defaults], rfl⟩
  have hnone : Table.default.get? "cobol" = none := hcobol.2 (by decide)
  refine ⟨hbuilt, hrules, hnodup, hget, hnone, ?_, ?_⟩
  · rw [hfound, hget]
    simp
  · rw [hlost, hnone]
    simp

end Table

end SnippetLanguage
