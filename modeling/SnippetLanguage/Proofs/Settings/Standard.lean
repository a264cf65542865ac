import SnippetLanguage.Settings.Standard

/-!
# What is known of the library that settings are read with

The library that the program runs with does what is known of it (`documented_standard`): a name in lower case is found by a
plain look-up (`fromKeywords_eq_lookup`), and integers are read between their bounds.
-/

namespace SnippetLanguage.Settings

open Schema Text

variable {keywords : List (String × Json)}

theorem lowercase_fieldNames : ∀ name ∈ fieldNames, lowercase name = name := by decide

/-- Where all names are in lower case, a value is found by a plain look-up. -/
theorem fromKeywords_eq_lookup {name : String} (h : ∀ k ∈ keywords, lowercase k.1 = k.1) :
    fromKeywords keywords name = keywords.lookup name := by
  induction keywords with
  | nil => rfl
  | cons k keywords ih =>
    have ih := ih fun k hk => h k (List.mem_cons_of_mem _ hk)
    rw [fromKeywords] at ih ⊢
    rw [List.find?_cons, List.lookup_cons, h k List.mem_cons_self, BEq.comm]
    cases name == k.1 with
    | true => rfl
    | false => exact ih

/-- The names of fields are no faults. -/
theorem unknownNames_eq_nil (h : ∀ k ∈ keywords, k.1 ∈ fieldNames) : unknownNames keywords = [] := by
  rw [unknownNames, List.map_eq_nil_iff, List.filter_eq_nil_iff]
  intro k hk
  rw [lowercase_fieldNames k.1 (h k hk)]
  simpa using h k hk

theorem givenJson?_of_lookup {s : Sources Json} {name : String} {v : Json} (hnames : ∀ k ∈ s.keywords, k.1 ∈ fieldNames)
    (hlookup : s.keywords.lookup name = some v) : givenJson? s name = some v := by
  rw [givenJson?, fromKeywords_eq_lookup fun k hk => lowercase_fieldNames k.1 (hnames k hk), hlookup]

theorem unknownNames_keywords_eq_nil {s : Sources Json} (hnames : ∀ k ∈ keywords, k.1 ∈ fieldNames)
    (hknown : unknownNames s.keywords ++ unknownNames s.file = []) : unknownNames keywords ++ unknownNames s.file = [] := by
  rw [unknownNames_eq_nil hnames, (List.append_eq_nil_iff.1 hknown).2]
  rfl

theorem readText_text (s : String) : readText (.text s) = .ok s := by
  rw [readText, WideText.text?_ofString]

theorem readBounded_int (least greatest n : Int) : readBounded least greatest (.int n) =
    if n < least then .error (.below least) else if greatest < n then .error (.above greatest) else .ok n := rfl

theorem readBounded_of_mem {least greatest n : Int} (hleast : least ≤ n) (hgreatest : n ≤ greatest) :
    readBounded least greatest (.int n) = .ok n := by
  rw [readBounded_int, if_neg (Int.not_lt.2 hleast), if_neg (Int.not_lt.2 hgreatest)]

/-- **The library that the program runs with** does what is known of it. -/
theorem documented_standard : Reader.standard.Documented where
  given?_keyword _ _ _ := givenJson?_of_lookup
  unknown_keywords _ _ := unknownNames_keywords_eq_nil
  readText_ofText := readText_text
  readInteger_ofInt := readBounded_of_mem
  readInteger_bounds := readBounded_bounds

end SnippetLanguage.Settings
