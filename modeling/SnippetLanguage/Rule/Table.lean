import SnippetLanguage.Rule.Basic
import SnippetLanguage.Text.Integer

/-!
# Rule tables

A rule table is a list of rules with different names, positive priorities and at least one signature each. The order
of the rules is part of the table: it decides between languages with equal scores. Beside the list a table keeps an
index, in which a rule is found by its name. It is built by entering the rules one after the other, up to the first
that breaks a condition.

* `ofRules` makes a table of a list of rules or tells the first defect; `ofRules_rules` says that it keeps the list,
  and `ofRules_rules_eq_ok` that each table is made of its own.
* `enterAll_nil_eq_ok_iff`: all rules are entered exactly when the list meets the conditions of a table, and then the
  index has each rule of the list under its name.
-/

namespace SnippetLanguage

/-- Why a list of rules is no table. -/
inductive TableDefect where
  | duplicateName (name : String)
  | priorityNotPositive (name : String) (priority : Int)
  | noSignatures (name : String)
  deriving Repr, DecidableEq

/-- The wording of a defect. `digits` is how many digits the interpreter writes of an integer; a priority with more cannot
be told, and what the interpreter says of that takes the place of the message. -/
def TableDefect.message (d : TableDefect) (digits : Option Nat := some Text.usualDigits) : String :=
  match d with
  | duplicateName name => "Duplicate language rule '" ++ name ++ "'"
  | priorityNotPositive name priority =>
    match Text.decimal? digits priority with
    | some written => "Language rule '" ++ name ++ "' has non-positive priority " ++ written
    | none => Text.unwrittenMessage digits
  | noSignatures name => "Language rule '" ++ name ++ "' has no signature patterns"

/-- Rules by their names. -/
abbrev RuleIndex := List (String × Rule)

namespace RuleIndex

/-- Whether there is a rule of the name. -/
def hasName (index : RuleIndex) (name : String) : Bool := index.any (·.1 == name)

/-- The index with a rule under its name, in the place of the one that had this name before. -/
def enter : RuleIndex → Rule → RuleIndex
  | [], r => [(r.name, r)]
  | e :: es, r => if e.1 == r.name then (r.name, r) :: es else e :: enter es r

end RuleIndex

/-- What is wrong with a rule that comes after the rules of an index. -/
def Rule.defect? (index : RuleIndex) (r : Rule) : Option TableDefect :=
  if index.hasName r.name then some (.duplicateName r.name)
  else if r.priority ≤ 0 then some (.priorityNotPositive r.name r.priority)
  else if r.signatures.isEmpty then some (.noSignatures r.name)
  else none

/-- Enters rules one after the other, up to the first with a defect. -/
def RuleIndex.enterAll (index : RuleIndex) : List Rule → Except TableDefect RuleIndex
  | [] => .ok index
  | r :: rs =>
    match r.defect? index with
    | some d => .error d
    | none => enterAll (index.enter r) rs

/-- An ordered table of rules. -/
structure Table where
  rules : List Rule
  /-- the rules by their names -/
  index : RuleIndex
  /-- the index is what entering the rules gives, as none of them has a defect -/
  enterAll_rules : RuleIndex.enterAll [] rules = .ok index

/-- The conditions of a table. -/
structure Table.Valid (rs : List Rule) : Prop where
  nodup_names : (rs.map Rule.name).Nodup
  priority_pos : ∀ r ∈ rs, 0 < r.priority
  signatures_nonempty : ∀ r ∈ rs, r.signatures.isEmpty = false

/-! ## Entering the rules of a list -/

namespace RuleIndex

variable {done : List Rule} {r : Rule}

/-- The index that has the rules of a list in their order, each under its name. -/
def ofList (rs : List Rule) : RuleIndex := rs.map fun r => (r.name, r)

theorem hasName_ofList {name : String} : (ofList done).hasName name = true ↔ ∃ r ∈ done, r.name = name := by
  simp [hasName, ofList]

/-- Entering a rule with a new name puts it at the end. -/
theorem enter_ofList (h : ∀ x ∈ done, x.name ≠ r.name) : (ofList done).enter r = ofList (done ++ [r]) := by
  induction done with
  | nil => rfl
  | cons x done ih =>
    have hne : x.name ≠ r.name := h x List.mem_cons_self
    have htail : (ofList done).enter r = ofList (done ++ [r]) := ih fun y hy => h y (List.mem_cons_of_mem x hy)
    simp only [ofList, List.map_cons, List.cons_append, enter, beq_iff_eq, hne, if_false] at htail ⊢
    rw [htail]

theorem defect?_ofList_eq_none_iff : r.defect? (ofList done) = none ↔
    (∀ x ∈ done, x.name ≠ r.name) ∧ 0 < r.priority ∧ r.signatures.isEmpty = false := by
  unfold Rule.defect?
  by_cases hname : ∃ x ∈ done, x.name = r.name
  · rw [if_pos (hasName_ofList.2 hname)]
    obtain ⟨x, hx, hxr⟩ := hname
    exact iff_of_false (Option.some_ne_none _) fun h => h.1 x hx hxr
  · rw [if_neg fun h => hname (hasName_ofList.1 h)]
    have hnew : ∀ x ∈ done, x.name ≠ r.name := fun x hx hxr => hname ⟨x, hx, hxr⟩
    by_cases hpriority : r.priority ≤ 0
    · rw [if_pos hpriority]
      exact iff_of_false (Option.some_ne_none _) fun h => by omega
    · have hpositive : 0 < r.priority := by omega
      rw [if_neg hpriority]
      cases hempty : r.signatures.isEmpty with
      | true => simp
      | false => simpa [hpositive] using hnew

end RuleIndex

namespace Table

variable {done rs : List Rule} {r : Rule}

theorem valid_nil : Valid [] := ⟨List.nodup_nil, by simp, by simp⟩

/-- One rule more meets the conditions if it has no defect. -/
theorem valid_concat_iff : Valid (done ++ [r]) ↔ Valid done ∧ r.defect? (.ofList done) = none := by
  rw [RuleIndex.defect?_ofList_eq_none_iff]
  constructor
  · rintro ⟨hnames, hpriority, hsignatures⟩
    rw [List.map_append, List.nodup_append] at hnames
    refine ⟨⟨hnames.1, fun x hx => hpriority x (by simp [hx]), fun x hx => hsignatures x (by simp [hx])⟩,
      fun x hx => hnames.2.2 _ (List.mem_map_of_mem hx) _ (by simp), hpriority r (by simp), hsignatures r (by simp)⟩
  · rintro ⟨⟨hnames, hpriority, hsignatures⟩, hnew, hpos, hsome⟩
    refine ⟨?_, ?_, ?_⟩
    · rw [List.map_append, List.nodup_append]
      refine ⟨hnames, by simp, ?_⟩
      simpa using hnew
    · simpa [or_imp, forall_and, hpos] using hpriority
    · intro x hx
      rcases List.mem_append.1 hx with hx | hx
      · exact hsignatures x hx
      · rw [List.mem_singleton.1 hx]
        exact hsome

theorem valid_of_append (h : Valid (done ++ rs)) : Valid done where
  nodup_names := by
    have hnames := h.nodup_names
    rw [List.map_append, List.nodup_append] at hnames
    exact hnames.1
  priority_pos x hx := h.priority_pos x (List.mem_append_left rs hx)
  signatures_nonempty x hx := h.signatures_nonempty x (List.mem_append_left rs hx)

end Table

namespace RuleIndex

variable {done rs : List Rule} {index : RuleIndex}

/-- **Behind rules that meet the conditions, others are entered exactly when all of them do.** -/
theorem enterAll_eq_ok_iff (hdone : Table.Valid done) :
    (ofList done).enterAll rs = .ok index ↔ Table.Valid (done ++ rs) ∧ index = ofList (done ++ rs) := by
  induction rs generalizing done with
  | nil => simp [enterAll, hdone, eq_comm]
  | cons r rs ih =>
    have hsplit : done ++ r :: rs = (done ++ [r]) ++ rs := by simp
    unfold enterAll
    cases hdefect : r.defect? (ofList done) with
    | some d =>
      refine iff_of_false (fun h => by cases h) fun ⟨hvalid, _⟩ => ?_
      rw [hsplit] at hvalid
      rw [(Table.valid_concat_iff.1 (Table.valid_of_append hvalid)).2] at hdefect
      cases hdefect
    | none =>
      dsimp only
      rw [enter_ofList (defect?_ofList_eq_none_iff.1 hdefect).1, hsplit, ih (Table.valid_concat_iff.2 ⟨hdone, hdefect⟩)]

theorem enterAll_nil_eq_ok_iff : enterAll [] rs = .ok index ↔ Table.Valid rs ∧ index = ofList rs :=
  @enterAll_eq_ok_iff [] rs index Table.valid_nil

end RuleIndex

/-! ## Tables -/

namespace Table

/-- The table of a list of rules, or the first defect of the list. -/
def ofRules (rs : List Rule) : Except TableDefect Table :=
  match h : RuleIndex.enterAll [] rs with
  | .error d => .error d
  | .ok index => .ok ⟨rs, index, h⟩

/-- The table of a list of rules that meets the conditions. -/
def ofValid (rs : List Rule) (h : Valid rs) : Table where
  rules := rs
  index := RuleIndex.ofList rs
  enterAll_rules := RuleIndex.enterAll_nil_eq_ok_iff.2 ⟨h, rfl⟩

/-- The names of the rules, in order. -/
def names (t : Table) : List String := t.rules.map Rule.name

/-- The number of rules. -/
def size (t : Table) : Nat := t.rules.length

/-- The rule of a name. -/
def get? (t : Table) (name : String) : Option Rule := t.index.lookup name

/-- Whether the table has a rule of the name. -/
def contains (t : Table) (name : String) : Bool := t.index.hasName name

@[simp] theorem rules_ofValid {rs : List Rule} {h : Valid rs} : (ofValid rs h).rules = rs := rfl

theorem valid (t : Table) : Valid t.rules := (RuleIndex.enterAll_nil_eq_ok_iff.1 t.enterAll_rules).1

theorem index_eq (t : Table) : t.index = RuleIndex.ofList t.rules :=
  (RuleIndex.enterAll_nil_eq_ok_iff.1 t.enterAll_rules).2

theorem nodup_names (t : Table) : (t.rules.map Rule.name).Nodup := t.valid.nodup_names

theorem priority_pos (t : Table) : ∀ r ∈ t.rules, 0 < r.priority := t.valid.priority_pos

theorem signatures_nonempty (t : Table) : ∀ r ∈ t.rules, r.signatures.isEmpty = false := t.valid.signatures_nonempty

theorem ofRules_rules {rs : List Rule} {t : Table} (h : ofRules rs = .ok t) : t.rules = rs := by
  unfold ofRules at h
  split at h
  · cases h
  · cases h
    rfl

theorem ofRules_rules_eq_ok (t : Table) : ofRules t.rules = .ok t := by
  obtain ⟨rs, index, hindex⟩ := t
  unfold ofRules
  split
  · rename_i hd
    rw [hindex] at hd
    cases hd
  · rename_i hindex'
    rw [hindex] at hindex'
    cases hindex'
    rfl

end Table

end SnippetLanguage
