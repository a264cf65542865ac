import SnippetLanguage.Proofs.Alias.OtherNames
import SnippetLanguage.Proofs.Service.Tag

/-!
# The list of languages and look-ups in it

The list of languages and the look-up of one language tell the same (`listing_agrees_with_lookup`), whatever the names of
the rules are. The list is made by looking up the rule of each name, and no name is without one (`map_entryNamed?`); a
look-up normalises its tag and finds the one entry of that name, if there is any (`findLanguage_eq_ok_iff`).

A look-up that fails names its tag, but for the empty one, of which the failure tells nothing
(`lookup_of_empty_tag_names_nothing`).
-/

namespace SnippetLanguage

open Text

variable {t : Table} {r : Rule} {name : String}

namespace Service

variable {settings : Settings} {entry : LanguageEntry} {tag : String} {f : Failure}

/-- What is told about the language of a name, if the table has a rule of this name. -/
def entryNamed? (settings : Settings) (t : Table) (name : String) : Option LanguageEntry :=
  (t.get? name).map (entryOf settings)

/-- The list of languages is made by looking up all names of the table, of which none is without a rule. -/
theorem map_entryNamed? (settings : Settings) (t : Table) :
    t.names.map (entryNamed? settings t) = (languages settings t).map some := by
  rw [Table.names, languages, List.map_map, List.map_map]
  refine List.map_congr_left fun r hr => ?_
  simp only [Function.comp_apply, entryNamed?, Table.get?_name hr, Option.map_some]

theorem mem_languages_iff : entry ∈ languages settings t ↔ ∃ r ∈ t.rules, entryOf settings r = entry := List.mem_map

/-- A look-up finds the entry of the list that has the normalised name of the tag. -/
theorem findLanguage_eq_ok_iff :
    findLanguage settings t tag = .ok entry ↔ entry ∈ languages settings t ∧ entry.name = canonicalName tag := by
  rw [mem_languages_iff, findLanguage]
  cases hget : t.get? (canonicalName tag) with
  | some r =>
    obtain ⟨hr, hname⟩ := Table.get?_eq_some_iff.1 hget
    constructor
    · intro h
      cases h
      exact ⟨⟨r, hr, rfl⟩, hname⟩
    · rintro ⟨⟨r', hr', rfl⟩, hname'⟩
      rw [t.eq_of_name_eq hr hr' (hname.trans hname'.symm)]
  | none =>
    refine iff_of_false (fun h => by cases h) ?_
    rintro ⟨⟨r, hr, rfl⟩, hname⟩
    exact Table.get?_eq_none_iff.1 hget r hr hname

/-- The failure of a look-up. The one of the empty tag does not say what was looked up. -/
def lookupFailure (tag : String) : Failure :=
  if tag = "" then .notFound "The requested language was not found" [("resource", .text "language")]
  else unknownLanguage tag

theorem ofResource_eq_lookupFailure (tag : String) : .ofResource "language" (some tag) [] = lookupFailure tag := by
  by_cases h : tag = ""
  · subst h
    rfl
  · have hempty : tag.isEmpty = false := by simpa using h
    simp only [Failure.ofResource, lookupFailure, hempty, h, if_false, Bool.false_eq_true]
    rfl

/-- A look-up fails only if the list has no entry of the name. -/
theorem findLanguage_eq_error_iff : findLanguage settings t tag = .error f ↔
    (∀ entry ∈ languages settings t, entry.name ≠ canonicalName tag) ∧ f = lookupFailure tag := by
  rw [findLanguage]
  cases hget : t.get? (canonicalName tag) with
  | some r =>
    obtain ⟨hr, hname⟩ := Table.get?_eq_some_iff.1 hget
    refine iff_of_false (fun h => by cases h) fun h => ?_
    exact h.1 _ (mem_languages_iff.2 ⟨r, hr, rfl⟩) hname
  | none =>
    have hno : ∀ entry ∈ languages settings t, entry.name ≠ canonicalName tag := by
      rintro entry hentry hname
      obtain ⟨r, hr, rfl⟩ := mem_languages_iff.1 hentry
      exact Table.get?_eq_none_iff.1 hget r hr hname
    rw [ofResource_eq_lookupFailure]
    constructor
    · intro h
      cases h
      exact ⟨hno, rfl⟩
    · rintro ⟨_, rfl⟩
      rfl

/-- The lists of aliases of different entries have nothing in common. -/
theorem pairwise_disjoint_aliases (settings : Settings) (t : Table) :
    (languages settings t).Pairwise fun entry entry' => entry.aliases.Disjoint entry'.aliases := by
  rw [languages, List.pairwise_map]
  exact (List.pairwise_map.1 t.nodup_names).imp disjoint_otherNames

/-- **The list of languages agrees with look-ups in it**, for all settings and tables:

* the list has one entry for each rule, in the order of the table, as many as it says; it is made by looking up the names
  of the rules, all of which are found;
* for every tag, a look-up finds the entry of the list with the normalised name of the tag, and fails exactly if the list
  has none. The failure names the tag as it was given, but for the empty tag, of which it tells nothing;
* each alias of an entry, in any case of its ASCII letters and with blank characters around it, finds this entry;
* the aliases of an entry are in strictly increasing order, and different entries have none in common;
* the name of an entry finds this entry exactly if normalising leaves the name as it is. -/
theorem listing_agrees_with_lookup (settings : Settings) (t : Table) :
    ((listing settings t).languages.map LanguageEntry.name = t.names ∧
      (listing settings t).totalCount = t.rules.length ∧
      t.names.map (entryNamed? settings t) = (listing settings t).languages.map some) ∧
    (∀ tag entry, findLanguage settings t tag = .ok entry ↔
      entry ∈ (listing settings t).languages ∧ entry.name = canonicalName tag) ∧
    (∀ tag f, findLanguage settings t tag = .error f ↔
      (∀ entry ∈ (listing settings t).languages, entry.name ≠ canonicalName tag) ∧ f = lookupFailure tag) ∧
    (∀ entry ∈ (listing settings t).languages, ∀ tag ∈ entry.aliases, ∀ before spelling after : List Char,
      (∀ c ∈ before, isBlank c = true) → spelling.map Char.toLower = tag.toList.map Char.toLower →
        (∀ c ∈ after, isBlank c = true) →
          findLanguage settings t (String.ofList (before ++ spelling ++ after)) = .ok entry) ∧
    (listing settings t).languages.Pairwise (fun entry entry' => entry.aliases.Disjoint entry'.aliases) ∧
    (∀ entry ∈ (listing settings t).languages, entry.aliases.Pairwise (· < ·)) ∧
    ∀ entry ∈ (listing settings t).languages,
      findLanguage settings t entry.name = .ok entry ↔ canonicalName entry.name = entry.name := by
  refine ⟨⟨?_, List.length_map _, map_entryNamed? settings t⟩, fun _ _ => findLanguage_eq_ok_iff,
    fun _ _ => findLanguage_eq_error_iff, ?_, pairwise_disjoint_aliases settings t, ?_, fun entry hentry => ?_⟩
  · rw [listing, languages, List.map_map]
    rfl
  · intro entry hentry tag htag before spelling after hbefore hspelling hafter
    refine findLanguage_eq_ok_iff.2 ⟨hentry, ?_⟩
    obtain ⟨r, _, rfl⟩ := mem_languages_iff.1 hentry
    exact (canonicalName_of_mem_otherNames htag hbefore hspelling hafter).symm
  · intro entry hentry
    obtain ⟨r, _, rfl⟩ := mem_languages_iff.1 hentry
    exact pairwise_otherNames r.name
  · rw [findLanguage_eq_ok_iff]
    exact ⟨fun h => h.2.symm, fun h => ⟨hentry, h.symm⟩⟩

/-- An alias in capitals between blank characters finds the entry that lists it. -/
theorem listing_agrees_with_lookup_of_cplusplus :
    ∃ entry ∈ (listing {} Table.default).languages, "c++" ∈ entry.aliases ∧
      findLanguage {} Table.default " \tC++\n" = .ok entry := by
  have hentry : entryOf {} Rule.cpp ∈ (listing {} Table.default).languages :=
    mem_languages_iff.2 ⟨Rule.cpp, by simp [Table.default, Rule.defaults], rfl⟩
  have halias : "c++" ∈ (entryOf {} Rule.cpp).aliases := mem_otherNames_iff.2 (by decide)
  have hbefore : ∀ c ∈ [' ', '\t'], isBlank c = true := List.all_eq_true.1 (by decide)
  have hspelling : ['C', '+', '+'].map Char.toLower = "c++".toList.map Char.toLower := by decide
  have hafter : ∀ c ∈ ['\n'], isBlank c = true := List.all_eq_true.1 (by decide)
  have htag : String.ofList ([' ', '\t'] ++ ['C', '+', '+'] ++ ['\n']) = " \tC++\n" := rfl
  obtain ⟨_, _, _, hfinds, _⟩ := listing_agrees_with_lookup {} Table.default
  refine ⟨_, hentry, halias, ?_⟩
  rw [← htag]
  exact hfinds _ hentry _ halias _ _ _ hbefore hspelling hafter

/-- The failure to look up the empty tag does not name it. -/
theorem lookup_of_empty_tag_names_nothing :
    (∀ entry ∈ (listing {} Table.default).languages, entry.name ≠ canonicalName "") ∧
    ∃ message details, findLanguage {} Table.default "" = .error (.notFound message details) ∧
      details.lookup ("resource_id" : WideText) = none ∧ findLanguage {} Table.default "" ≠ .error (unknownLanguage "") := by
  have hno : ∀ entry ∈ (listing {} Table.default).languages, entry.name ≠ canonicalName "" := by
    intro entry hentry
    obtain ⟨r, hr, rfl⟩ := mem_languages_iff.1 hentry
    exact (by decide +kernel : ∀ r ∈ Table.default.rules, r.name ≠ canonicalName "") r hr
  have hfails : findLanguage {} Table.default "" = .error (lookupFailure "") := findLanguage_eq_error_iff.2 ⟨hno, rfl⟩
  refine ⟨hno, _, _, hfails, rfl, fun h => ?_⟩
  rw [hfails] at h
  exact absurd (congrArg Failure.message (Except.error.inj h)) (by decide)

end Service

end SnippetLanguage
