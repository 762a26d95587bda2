import LangServer.Completion
import LangServer.Hover
import LangServer.Proofs.LastGiven

/-!
# One View of Names

A name is shown in three ways: in the list of completions, in an item of that list that is asked
for again, and on a hover card. Each of them looks into the tables by itself: by their order, by a
label, or by the class of a word. The tables may have a name twice, or among the keywords and the
built-ins at once, or described without being either. This module shows that the three ways agree on
every name nevertheless, whatever the tables are.

## What is said of a name

Of several descriptions of a name the last one counts. It is the plain documentation of every item
for the name, the markdown that any item with the name gets, and what its card says if it is a
keyword or a built-in (`Symbols.Told`). Without a description there is no documentation, an item
stays as it is, and the card has a general remark on the class of the name.

## Main statements

* `Symbols.lastGiven_description?`: the description of a name is the last one given.
* `Symbols.exists_item_iff`: which items there are.
* `Symbols.resolve_eq`: what becomes of an item.
* `Symbols.one_view_of_names`: completion, resolution and hover cards agree.
-/

namespace LangServer

namespace Symbols

/-! ### Descriptions -/

/-- What an entry of the descriptions says of a name. -/
def saidOf (name : String) (entry : String × String) : Option String :=
  if name = entry.1 then some entry.2 else none

/-- The description of a name is the **last one given**. -/
theorem lastGiven_description? (s : Symbols) (name : String) :
    LastGiven (saidOf name) s.descriptions (s.description? name) := by
  rw [lastGiven_iff, description?, List.lookup_eq_findSome?]
  congr 1
  funext entry
  simp only [saidOf, beq_iff_eq]

/-! ### Items -/

/-- The labels are the keywords, **then the built-ins**. -/
theorem map_label_completionItems (s : Symbols) :
    s.completionItems.map (·.label) = s.keywords ++ s.builtins := by
  simp [completionItems, keywordItems, builtinItems, Function.comp_def]

/-- There are as many items as candidates. -/
theorem length_completionItems (s : Symbols) :
    s.completionItems.length = s.candidateCount := by
  simp [completionItems, keywordItems, builtinItems, candidateCount]

/-- There is an item of a kind for a name **exactly if** the name is in the table of that kind. -/
theorem exists_item_iff (s : Symbols) (kind : Int) (name : String) :
    (∃ item ∈ s.completionItems, item.kind = some kind ∧ item.label = name) ↔
      kind = keywordKind ∧ name ∈ s.keywords ∨ kind = functionKind ∧ name ∈ s.builtins := by
  constructor
  · rintro ⟨item, hitem, hkind, rfl⟩
    rcases List.mem_append.mp hitem with hitem | hitem
    · obtain ⟨name, hname, rfl⟩ := List.mem_map.mp hitem
      exact Or.inl ⟨(Option.some.inj hkind).symm, hname⟩
    · obtain ⟨name, hname, rfl⟩ := List.mem_map.mp hitem
      exact Or.inr ⟨(Option.some.inj hkind).symm, hname⟩
  · rintro (⟨rfl, hname⟩ | ⟨rfl, hname⟩)
    · exact ⟨_, List.mem_append_left _ (List.mem_map_of_mem hname), rfl, rfl⟩
    · exact ⟨_, List.mem_append_right _ (List.mem_map_of_mem hname), rfl, rfl⟩

/-- The documentation of an item is the description of its label. -/
theorem documentation_of_mem {s : Symbols} {item : CompletionItem}
    (h : item ∈ s.completionItems) :
    item.documentation = (s.description? item.label).map .plain := by
  rcases List.mem_append.mp h with h | h
  · obtain ⟨name, -, rfl⟩ := List.mem_map.mp h
    rfl
  · obtain ⟨name, -, rfl⟩ := List.mem_map.mp h
    rfl

/-! ### Classes -/

/-- The keywords are the words in their table. -/
theorem classify_eq_keyword_iff (s : Symbols) (word : String) :
    s.classify word = .keyword ↔ word ∈ s.keywords := by
  rw [classify]
  split
  next h => simp [h]
  next h => split <;> simp [h]

/-- The built-ins are the words in theirs that are **not keywords**. -/
theorem classify_eq_builtin_iff (s : Symbols) (word : String) :
    s.classify word = .builtin ↔ word ∉ s.keywords ∧ word ∈ s.builtins := by
  rw [classify]
  split
  next h => simp [h]
  next h => split <;> simp [*]

/-! ### Resolution -/

/-- An item with its documentation replaced **by the description** of its label, if it has one. -/
theorem resolve_eq (s : Symbols) (item : CompletionItem) :
    s.resolve item = { item with documentation :=
      ((s.description? item.label).map (.markup .markdown)).or item.documentation } := by
  rw [resolve]
  cases s.description? item.label <;> rfl

/-- Resolving an item **once more** changes nothing. -/
theorem resolve_resolve (s : Symbols) (item : CompletionItem) :
    s.resolve (s.resolve item) = s.resolve item := by
  simp only [resolve_eq]
  cases s.description? item.label <;> rfl

/-! ### The three ways together -/

/-- The three ways in which a name is shown **tell the same of it**. -/
structure Told (s : Symbols) (name : String) (said : Option String) : Prop where
  /-- An item for the name is documented with it, and not at all if there is nothing to say. -/
  plain : ∀ item ∈ s.completionItems, item.label = name → item.documentation = said.map .plain
  markdown : ∀ text, said = some text → ∀ item : CompletionItem, item.label = name →
    (s.resolve item).documentation = some (.markup .markdown text)
  /-- Any item with the name stays as it is if there is nothing to say. -/
  untouched : said = none → ∀ item : CompletionItem, item.label = name → s.resolve item = item
  keyword : s.classify name = .keyword →
    s.describe name = "Buglang keyword: " ++ said.getD "Used for control flow or structure."
  builtin : s.classify name = .builtin →
    s.describe name = "Buglang built-in function: " ++ said.getD "Built-in function."
  /-- Every card for the name is of this wording, wherever the name is found. -/
  card : ∀ languageId span line column card, hoverAt s languageId span line column = some card →
    card.word = name → card.description = s.describe name

/-- All three ways go by the **description** of a name. -/
theorem told_description? (s : Symbols) (name : String) : s.Told name (s.description? name) := by
  refine ⟨?_, ?_, ?_, ?_, ?_, ?_⟩
  · rintro item hitem rfl
    exact documentation_of_mem hitem
  · rintro text htext item rfl
    rw [resolve_eq, htext]
    rfl
  · rintro hnone item rfl
    rw [resolve_eq, hnone]
    rfl
  · intro hclass
    rw [describe, hclass]
  · intro hclass
    rw [describe, hclass]
  · rintro languageId span line column card hcard rfl
    obtain ⟨word, -, rfl⟩ := Option.map_eq_some_iff.mp hcard
    rfl

/-- **Completion, resolution and hover cards agree on every name.** The labels of the items are the
keywords, then the built-ins, as many as there are candidates. A word is a keyword exactly if there
is an item of the kind "keyword" for it, and a built-in exactly if there is none of that kind but
one of the kind "function". What is told of a name, in any of the three ways, is its last
description. Resolving an item changes its documentation only, and doing it again changes
nothing. -/
theorem one_view_of_names (s : Symbols) :
    s.completionItems.map (·.label) = s.keywords ++ s.builtins ∧
    s.completionItems.length = s.candidateCount ∧
    (∀ word, s.classify word = .keyword ↔
      ∃ item ∈ s.completionItems, item.kind = some keywordKind ∧ item.label = word) ∧
    (∀ word, s.classify word = .builtin ↔
      (¬ ∃ item ∈ s.completionItems, item.kind = some keywordKind ∧ item.label = word) ∧
        ∃ item ∈ s.completionItems, item.kind = some functionKind ∧ item.label = word) ∧
    (∀ name, ∃ said, LastGiven (saidOf name) s.descriptions said ∧ s.Told name said) ∧
    ∀ item, { s.resolve item with documentation := item.documentation } = item ∧
      s.resolve (s.resolve item) = s.resolve item := by
  have hkinds : keywordKind ≠ functionKind := by decide
  have hkeyword (word : String) :
      (∃ item ∈ s.completionItems, item.kind = some keywordKind ∧ item.label = word) ↔
        word ∈ s.keywords := by
    rw [exists_item_iff]
    simp [hkinds]
  have hfunction (word : String) :
      (∃ item ∈ s.completionItems, item.kind = some functionKind ∧ item.label = word) ↔
        word ∈ s.builtins := by
    rw [exists_item_iff]
    simp [hkinds.symm]
  refine ⟨map_label_completionItems s, length_completionItems s, ?_, ?_, ?_, ?_⟩
  · intro word
    rw [hkeyword, classify_eq_keyword_iff]
  · intro word
    rw [hkeyword, hfunction, classify_eq_builtin_iff]
  · intro name
    exact ⟨s.description? name, lastGiven_description? s name, told_description? s name⟩
  · intro item
    refine ⟨?_, resolve_resolve s item⟩
    rw [resolve_eq]

/-- A name in both tables, twice in one of them, that is described twice, and one that is described
and in neither. -/
example :
    let s : Symbols :=
      ⟨["print"], ["print", "print"], [("print", "Old."), ("size", "Size."), ("print", "New.")]⟩
    s.completionItems.map (fun item => (item.kind, item.documentation)) =
      [(some 14, some (.plain "New.")), (some 3, some (.plain "New.")),
       (some 3, some (.plain "New."))] ∧
    (s.resolve { label := "size" }).documentation = some (.markup .markdown "Size.") ∧
    s.describe "print" = "Buglang keyword: New." ∧
    s.describe "size" = "Identifier in Buglang code." := by
  decide

end Symbols

end LangServer
