import SnippetLanguage.Proofs.Text.Lowercase
import SnippetLanguage.Settings

/-!
# The origins of a list

A list with commas can be taken apart into items in one way (`existsUnique_itemsOf`). The origins are the items without
their blank ends, in the order of the list, and nothing but blank items is left out (`origins_eq_of_itemsOf`). So an
origin has visible ends and no comma (`isOrigin_of_mem_originParts`), and texts of this kind, joined by commas, are read
as they are (`originParts_intercalate_of_isOrigin`). So an operator can append one list to another, leave commas and
blanks at any place between the origins, and write back what was read (`origins_keep_visible_items`).
-/

namespace SnippetLanguage

open Text

/-! ## Parts of a list -/

section Parts

variable {cs part : List Char} {parts : List (List Char)}

/-- What an origin looks like: its ends are visible, and there is no comma in it. -/
def IsOrigin (cs : List Char) : Prop := VisibleEnds cs ∧ ',' ∉ cs

theorem isOrigin_of_mem_originParts (h : part ∈ originParts cs) : IsOrigin part := by
  obtain ⟨hpart, hne⟩ := List.mem_filter.1 h
  obtain ⟨item, hitem, rfl⟩ := List.mem_map.1 hpart
  have hne : stripChars item ≠ [] := by simpa using hne
  exact ⟨visibleEnds_stripChars hne, fun hcomma => not_mem_of_mem_splitAtChar hitem (mem_of_mem_stripChars hcomma)⟩

/-- The parts of texts without commas that are joined by commas come from these texts, one by one. -/
theorem originParts_intercalate (h : ∀ item ∈ parts, ',' ∉ item) :
    originParts ([','].intercalate parts) = (parts.map stripChars).filter fun part => !part.isEmpty := by
  by_cases hparts : parts = []
  · -- no text at all is joined to the same list as one empty text, which is left out
    rw [hparts]
    rfl
  · rw [originParts, splitAtChar_eq_splitOn, List.splitOn_intercalate ',' h hparts]

/-- Origins that are joined by commas are read as they are. -/
theorem originParts_intercalate_of_isOrigin (h : ∀ part ∈ parts, IsOrigin part) :
    originParts ([','].intercalate parts) = parts := by
  have hstrip : parts.map stripChars = parts := by
    rw [List.map_congr_left fun part hpart => stripChars_eq_self (h part hpart).1, List.map_id']
  rw [originParts_intercalate fun part hpart => (h part hpart).2, hstrip, List.filter_eq_self]
  intro part hpart
  simpa using (h part hpart).1.ne_nil

end Parts

/-! ## Items of a list -/

/-- The items of a list: texts without commas that give the list when they are joined by commas. -/
structure ItemsOf (list : String) (items : List String) : Prop where
  ne_nil : items ≠ []
  noComma : ∀ item ∈ items, ',' ∉ item.toList
  joined : ",".intercalate items = list

section Items

variable {list : String} {items : List String}

theorem toList_intercalate_comma (items : List String) :
    (",".intercalate items).toList = [','].intercalate (items.map String.toList) := String.toList_intercalate

theorem ItemsOf.toList_eq (h : ItemsOf list items) : list.toList = [','].intercalate (items.map String.toList) := by
  rw [← h.joined, toList_intercalate_comma]

theorem ItemsOf.notMem_of_mem_map (h : ItemsOf list items) : ∀ item ∈ items.map String.toList, ',' ∉ item :=
  List.forall_mem_map.2 h.noComma

/-- Splitting a list at its commas finds the items. -/
theorem ItemsOf.map_toList_eq (h : ItemsOf list items) : items.map String.toList = splitAtChar ',' list.toList := by
  have hne : items.map String.toList ≠ [] := fun e => h.ne_nil (List.map_eq_nil_iff.1 e)
  rw [h.toList_eq, splitAtChar_eq_splitOn, List.splitOn_intercalate ',' h.notMem_of_mem_map hne]

theorem map_toList_map_ofList (parts : List (List Char)) : (parts.map String.ofList).map String.toList = parts := by
  simp [Function.comp_def]

theorem itemsOf_splitAtChar (list : String) : ItemsOf list ((splitAtChar ',' list.toList).map String.ofList) where
  ne_nil := fun e => splitAtChar_ne_nil ',' list.toList (List.map_eq_nil_iff.1 e)
  noComma := by
    rw [List.forall_mem_map]
    intro part hpart
    rw [String.toList_ofList]
    exact not_mem_of_mem_splitAtChar hpart
  joined := by
    rw [← String.toList_inj, toList_intercalate_comma, map_toList_map_ofList, splitAtChar_eq_splitOn,
      List.intercalate_splitOn]

/-- A list can be taken apart in one way. -/
theorem existsUnique_itemsOf (list : String) : ∃! items, ItemsOf list items := by
  refine ⟨_, itemsOf_splitAtChar list, fun items hitems => ?_⟩
  rw [← hitems.map_toList_eq, List.map_map]
  simp [Function.comp_def]

end Items

/-! ## Origins -/

namespace Settings

variable {s : Settings} {items : List String} {origin : String}

theorem isOrigin_of_mem_origins (h : origin ∈ s.origins) : IsOrigin origin.toList := by
  obtain ⟨part, hpart, rfl⟩ := List.mem_map.1 h
  rw [String.toList_ofList]
  exact isOrigin_of_mem_originParts hpart

/-- The origins are the items that are not blank, without their blank ends. -/
theorem origins_eq_of_itemsOf (h : ItemsOf s.corsOrigins items) :
    s.origins = (items.filter fun item => !allBlank item).map strip := by
  rw [origins, h.toList_eq, originParts_intercalate h.notMem_of_mem_map, List.map_map, List.filter_map, List.map_map]
  simp only [Function.comp_def, isEmpty_stripChars]
  rfl

/-- Origins that are joined by commas are the origins of this list. -/
theorem origins_intercalate (h : ∀ origin ∈ items, IsOrigin origin.toList) :
    { s with corsOrigins := ",".intercalate items }.origins = items := by
  rw [origins, toList_intercalate_comma, originParts_intercalate_of_isOrigin (List.forall_mem_map.2 h), List.map_map]
  simp [Function.comp_def]

theorem origins_append (s : Settings) (a b : String) :
    { s with corsOrigins := a ++ "," ++ b }.origins =
      { s with corsOrigins := a }.origins ++ { s with corsOrigins := b }.origins := by
  have hlist : (a ++ "," ++ b).toList = a.toList ++ ',' :: b.toList := by simp
  rw [origins, origins, origins, hlist, originParts_append, List.map_append]

/-- **The origins of a list are its items that are not blank.** For all settings:

* the list of origins has items, and they are the only texts without commas that are joined to this list by commas;
* the origins are these items in their order, each as often as it is there, without their blank ends and without the
  blank items;
* no origin is empty, has a comma in it or starts or ends with a blank character;
* the origins, joined by commas, are read as the same origins;
* the origins of two lists that are joined by a comma are those of the one and then those of the other. -/
theorem origins_keep_visible_items (s : Settings) :
    (∃! items, ItemsOf s.corsOrigins items) ∧
    (∀ items, ItemsOf s.corsOrigins items → s.origins = (items.filter fun item => !allBlank item).map strip) ∧
    (∀ origin ∈ s.origins, origin ≠ "" ∧ ',' ∉ origin.toList ∧ VisibleEnds origin.toList) ∧
    { s with corsOrigins := ",".intercalate s.origins }.origins = s.origins ∧
    ∀ a b : String, { s with corsOrigins := a ++ "," ++ b }.origins =
      { s with corsOrigins := a }.origins ++ { s with corsOrigins := b }.origins := by
  refine ⟨existsUnique_itemsOf s.corsOrigins, fun _ => origins_eq_of_itemsOf, fun origin horigin => ?_,
    origins_intercalate fun _ => isOrigin_of_mem_origins, origins_append s⟩
  obtain ⟨hends, hcomma⟩ := isOrigin_of_mem_origins horigin
  exact ⟨fun e => hends.ne_nil (String.toList_eq_nil_iff.2 e), hcomma, hends⟩

/-- A list with an origin that is there twice, with doubled commas, a comma at its end and an item that is only a
no-break space. -/
theorem origins_keep_visible_items_of_doubled_commas :
    ItemsOf " http://a ,,http://b:1,\u00a0,http://a," [" http://a ", "", "http://b:1", "\u00a0", "http://a", ""] ∧
    ({ corsOrigins := " http://a ,,http://b:1,\u00a0,http://a," } : Settings).origins =
      ["http://a", "http://b:1", "http://a"] ∧
    ({ corsOrigins := "http://a,http://b:1,http://a" } : Settings).origins = ["http://a", "http://b:1", "http://a"] := by
  have hitems : ItemsOf " http://a ,,http://b:1,\u00a0,http://a,"
      [" http://a ", "", "http://b:1", "\u00a0", "http://a", ""] := ⟨by simp, by decide, by decide⟩
  obtain ⟨_, horigins, _, hback, _⟩ :=
    origins_keep_visible_items { corsOrigins := " http://a ,,http://b:1,\u00a0,http://a," }
  have horigins : ({ corsOrigins := " http://a ,,http://b:1,\u00a0,http://a," } : Settings).origins =
      ["http://a", "http://b:1", "http://a"] := (horigins _ hitems).trans (by decide)
  rw [horigins] at hback
  exact ⟨hitems, horigins, hback⟩

end Settings

end SnippetLanguage
