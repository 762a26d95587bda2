import Mathlib.Data.List.Nodup
import LangServer.Proofs.RoundTrip

/-!
# Distinct Keys

No table of a document that was read has two entries of one name, at any depth: not one that is
written under headers, not one that dotted keys bring about, and not one in braces. So a name leads
to at most one value, and the order of the entries of a table does not matter to a look-up.

While a document is read the tables are under construction, and every operation on them changes or
adds a single entry (`Entries.update_cases`). This is all that is needed of the operations: names
that are distinct stay distinct.

## Main statements

* `Entries.update_cases`: what a change of an entry does.
* `Entries.Distinct.descend`, `Entries.Distinct.assign`: names stay distinct.
* `Node.Distinct.toValue`: the finished value has distinct names.
* `distinct_of_parse?`: the tables of a document have distinct names.
-/

namespace LangServer.Toml

/-! ### Values and tables with distinct names -/

/-- **No table has two entries of one name**, in a value at any depth. -/
inductive Value.Distinct : Value → Prop
  | string (s : String) : Distinct (.string s)
  | integer (n : Int) : Distinct (.integer n)
  | float (spelling : String) : Distinct (.float spelling)
  | boolean (b : Bool) : Distinct (.boolean b)
  | datetime (spelling : String) : Distinct (.datetime spelling)
  | array {items : List Value} (hitems : ∀ v ∈ items, Distinct v) : Distinct (.array items)
  | table {entries : List (String × Value)} (hnames : (names entries).Nodup)
      (hentries : ∀ e ∈ entries, Distinct e.2) : Distinct (.table entries)

/-- The same for a value or a table under construction. -/
inductive Node.Distinct : Node → Prop
  | leaf {v : Value} (hv : v.Distinct) : Distinct (.leaf v)
  | table {origin : Origin} {entries : List (String × Node)} (hnames : (names entries).Nodup)
      (hentries : ∀ e ∈ entries, Distinct e.2) : Distinct (.table origin entries)
  | tables {items : List (List (String × Node))} (hnames : ∀ item ∈ items, (names item).Nodup)
      (hitems : ∀ item ∈ items, ∀ e ∈ item, Distinct e.2) : Distinct (.tables items)

/-- The same for the entries of a table under construction. -/
structure Entries.Distinct (es : Entries) : Prop where
  nodup : (names es).Nodup
  nodes : ∀ e ∈ es, e.2.Distinct

/-- A table that has no entries yet. -/
theorem Entries.distinct_nil : Entries.Distinct [] :=
  ⟨List.nodup_nil, List.forall_mem_nil _⟩

/-- A table is a node by its entries. -/
theorem Node.distinct_table_iff {origin : Origin} {es : Entries} :
    (Node.table origin es).Distinct ↔ Entries.Distinct es := by
  constructor
  · intro h
    cases h with
    | table hnames hentries => exact ⟨hnames, hentries⟩
  · rintro ⟨hnames, hentries⟩
    exact .table hnames hentries

/-- A list of tables is one by its items. -/
theorem Node.distinct_tables_iff {items : List Entries} :
    (Node.tables items).Distinct ↔ ∀ item ∈ items, Entries.Distinct item := by
  constructor
  · intro h item hitem
    cases h with
    | tables hnames hitems => exact ⟨hnames item hitem, hitems item hitem⟩
  · intro h
    exact .tables (fun item hitem => (h item hitem).nodup) fun item hitem => (h item hitem).nodes

/-! ### Changes of an entry -/

namespace Entries

/-- **What a change of an entry does**: it changes the entry of the name, or it adds one at the end
if there is none. -/
theorem update_cases {name : String} {f : Option Node → Option Node} {es es' : Entries}
    (h : update name f es = some es') :
    (∃ before n n' after, es = before ++ (name, n) :: after ∧ f (some n) = some n' ∧
      es' = before ++ (name, n') :: after) ∨
    (name ∉ names es ∧ ∃ n, f none = some n ∧ es' = es ++ [(name, n)]) := by
  induction es generalizing es' with
  | nil =>
      obtain ⟨n, hn, rfl⟩ := Option.map_eq_some_iff.mp h
      exact Or.inr ⟨List.not_mem_nil, n, hn, rfl⟩
  | cons e es ih =>
      rw [update] at h
      split at h
      next hkey =>
        obtain ⟨n, hn, rfl⟩ := Option.map_eq_some_iff.mp h
        subst hkey
        exact Or.inl ⟨[], e.2, n, es, rfl, hn, rfl⟩
      next hkey =>
        obtain ⟨rest, hrest, rfl⟩ := Option.map_eq_some_iff.mp h
        rcases ih hrest with ⟨before, n, n', after, rfl, hn, rfl⟩ | ⟨hnew, n, hn, rfl⟩
        · exact Or.inl ⟨e :: before, n, n', after, rfl, hn, rfl⟩
        · refine Or.inr ⟨?_, n, hn, rfl⟩
          exact mt List.mem_cons.mp (not_or.mpr ⟨Ne.symm hkey, hnew⟩)

/-- Names that are distinct **stay distinct** under a change of an entry that keeps them so within
the entry. -/
theorem Distinct.update {name : String} {f : Option Node → Option Node} {es es' : Entries}
    (h : Distinct es) (hupdate : update name f es = some es')
    (hf : ∀ o n, (∀ m, o = some m → m.Distinct) → f o = some n → n.Distinct) : Distinct es' := by
  rcases update_cases hupdate with ⟨before, n, n', after, rfl, hn, rfl⟩ | ⟨hnew, n, hn, rfl⟩
  · have hold : n.Distinct := h.nodes (name, n) (List.mem_append_right _ List.mem_cons_self)
    refine ⟨?_, ?_⟩
    · have hnodup := h.nodup
      rw [names, List.map_append, List.map_cons] at hnodup ⊢
      exact hnodup
    · intro e he
      rcases List.mem_append.mp he with he | he
      · exact h.nodes e (List.mem_append_left _ he)
      · rcases List.mem_cons.mp he with rfl | he
        · exact hf _ _ (fun m hm => Option.some.inj hm ▸ hold) hn
        · exact h.nodes e (List.mem_append_right _ (List.mem_cons_of_mem _ he))
  · refine ⟨?_, ?_⟩
    · rw [names, List.map_append, List.nodup_append]
      refine ⟨h.nodup, List.nodup_singleton _, ?_⟩
      intro a ha b hb hab
      obtain rfl := List.mem_singleton.mp hb
      exact hnew (hab ▸ ha)
    · intro e he
      rcases List.mem_append.mp he with he | he
      · exact h.nodes e he
      · obtain rfl := List.mem_singleton.mp he
        exact hf _ _ (fun m hm => absurd hm.symm (Option.some_ne_none m)) hn

/-- Work on the table that headers reach keeps names distinct if it does **within that table**. -/
theorem Distinct.descend {f : Entries → Option Entries}
    (hf : ∀ es es', Distinct es → f es = some es' → Distinct es') {path : List String}
    {es es' : Entries} (h : Distinct es) (hdescend : Entries.descend f path es = some es') :
    Distinct es' := by
  induction path generalizing es es' with
  | nil => exact hf es es' h hdescend
  | cons name path ih =>
      refine h.update hdescend fun o n ho hn => ?_
      rcases o with - | ⟨v | ⟨origin, sub⟩ | ⟨- | ⟨item, items⟩⟩⟩
      · obtain ⟨sub, hsub, rfl⟩ := Option.map_eq_some_iff.mp hn
        exact Node.distinct_table_iff.mpr (ih distinct_nil hsub)
      · cases hn
      · obtain ⟨sub', hsub, rfl⟩ := Option.map_eq_some_iff.mp hn
        exact Node.distinct_table_iff.mpr (ih (Node.distinct_table_iff.mp (ho _ rfl)) hsub)
      · cases hn
      · obtain ⟨item', hitem, rfl⟩ := Option.map_eq_some_iff.mp hn
        obtain ⟨hfirst, hrest⟩ := List.forall_mem_cons.mp (Node.distinct_tables_iff.mp (ho _ rfl))
        exact Node.distinct_tables_iff.mpr (List.forall_mem_cons.mpr ⟨ih hfirst hitem, hrest⟩)

/-- A **value** under a dotted key keeps names distinct. -/
theorem Distinct.assign {name : String} {v : Value} (hv : v.Distinct) {path : List String}
    {es es' : Entries} (h : Distinct es) (hassign : Entries.assign name v path es = some es') :
    Distinct es' := by
  induction path generalizing es es' with
  | nil =>
      refine h.update hassign fun o n ho hn => ?_
      cases o with
      | none =>
          obtain rfl := Option.some.inj hn
          exact .leaf hv
      | some m => cases hn
  | cons key path ih =>
      refine h.update hassign fun o n ho hn => ?_
      rcases o with - | ⟨v | ⟨- | - | -, sub⟩ | ⟨- | ⟨item, items⟩⟩⟩
      · obtain ⟨sub, hsub, rfl⟩ := Option.map_eq_some_iff.mp hn
        exact Node.distinct_table_iff.mpr (ih distinct_nil hsub)
      · cases hn
      · cases hn
      · dsimp only at hn
        split at hn
        · cases hn
        · obtain ⟨sub', hsub, rfl⟩ := Option.map_eq_some_iff.mp hn
          exact Node.distinct_table_iff.mpr (ih (Node.distinct_table_iff.mp (ho _ rfl)) hsub)
      · obtain ⟨sub', hsub, rfl⟩ := Option.map_eq_some_iff.mp hn
        exact Node.distinct_table_iff.mpr (ih (Node.distinct_table_iff.mp (ho _ rfl)) hsub)
      · cases hn
      · dsimp only at hn
        split at hn
        · cases hn
        · obtain ⟨item', hitem, rfl⟩ := Option.map_eq_some_iff.mp hn
          obtain ⟨hfirst, hrest⟩ :=
            List.forall_mem_cons.mp (Node.distinct_tables_iff.mp (ho _ rfl))
          exact Node.distinct_tables_iff.mpr (List.forall_mem_cons.mpr ⟨ih hfirst hitem, hrest⟩)

/-- A **header** keeps names distinct. -/
theorem Distinct.openTable {name : String} {es es' : Entries} (h : Distinct es)
    (hopen : Entries.openTable name es = some es') : Distinct es' := by
  refine h.update hopen fun o n ho hn => ?_
  rcases o with - | ⟨v | ⟨- | - | -, sub⟩ | items⟩
  · obtain rfl := Option.some.inj hn
    exact Node.distinct_table_iff.mpr distinct_nil
  · cases hn
  · cases hn
  · obtain rfl := Option.some.inj hn
    exact Node.distinct_table_iff.mpr (Node.distinct_table_iff.mp (ho _ rfl))
  · cases hn
  · cases hn

/-- A header of a **list item** does, too. -/
theorem Distinct.addItem {name : String} {es es' : Entries} (h : Distinct es)
    (hadd : Entries.addItem name es = some es') : Distinct es' := by
  refine h.update hadd fun o n ho hn => ?_
  rcases o with - | ⟨v | ⟨origin, sub⟩ | items⟩
  · obtain rfl := Option.some.inj hn
    exact Node.distinct_tables_iff.mpr
      (List.forall_mem_cons.mpr ⟨distinct_nil, List.forall_mem_nil _⟩)
  · cases hn
  · cases hn
  · obtain rfl := Option.some.inj hn
    exact Node.distinct_tables_iff.mpr
      (List.forall_mem_cons.mpr ⟨distinct_nil, Node.distinct_tables_iff.mp (ho _ rfl)⟩)

end Entries

/-! ### Finished values -/

/-- Finishing the entries of a table keeps their names. -/
theorem names_entriesToValues (es : Entries) : names (entriesToValues es) = names es := by
  induction es with
  | nil => rfl
  | cons e es ih =>
      obtain ⟨name, n⟩ := e
      rw [entriesToValues]
      exact congrArg (name :: ·) ih

mutual

/-- The **finished value** of a node has distinct names. -/
theorem Node.Distinct.toValue : ∀ {n : Node}, n.Distinct → n.toValue.Distinct
  | .leaf _, .leaf hv => hv
  | .table _ es, .table hnames hentries => by
      rw [Node.toValue]
      exact .table (names_entriesToValues es ▸ hnames) (distinct_entriesToValues hentries)
  | .tables items, .tables hnames hitems => by
      rw [Node.toValue]
      refine .array fun v hv => ?_
      exact distinct_itemsToValues hnames hitems v (List.mem_reverse.mp hv)

/-- So have the finished entries of a table. -/
theorem distinct_entriesToValues : ∀ {es : List (String × Node)}, (∀ e ∈ es, e.2.Distinct) →
    ∀ e ∈ entriesToValues es, e.2.Distinct
  | [], _ => List.forall_mem_nil _
  | (name, n) :: es, h => by
      rw [entriesToValues]
      obtain ⟨hfirst, hrest⟩ := List.forall_mem_cons.mp h
      exact List.forall_mem_cons.mpr ⟨hfirst.toValue, distinct_entriesToValues hrest⟩

/-- So have the finished items of a list of tables. -/
theorem distinct_itemsToValues : ∀ {items : List (List (String × Node))},
    (∀ item ∈ items, (names item).Nodup) → (∀ item ∈ items, ∀ e ∈ item, e.2.Distinct) →
      ∀ v ∈ itemsToValues items, v.Distinct
  | [], _, _ => List.forall_mem_nil _
  | item :: items, hnames, hitems => by
      rw [itemsToValues]
      obtain ⟨hname, hnames⟩ := List.forall_mem_cons.mp hnames
      obtain ⟨hitem, hitems⟩ := List.forall_mem_cons.mp hitems
      refine List.forall_mem_cons.mpr ⟨?_, distinct_itemsToValues hnames hitems⟩
      exact .table (names_entriesToValues item ▸ hname) (distinct_entriesToValues hitem)

end

/-! ### Values that are read -/

/-- A whole number holds no table. -/
theorem distinct_of_fit64 {n : Int} {v : Value} (h : fit64 n = some v) : v.Distinct := by
  rw [fit64] at h
  split at h
  · obtain rfl := Option.some.inj h
    exact .integer n
  · cases h

/-- Nor does one that is read. -/
theorem distinct_of_integer {s r : Text} {v : Value} (h : integer s = some (v, r)) :
    v.Distinct := by
  have hbased {base : Nat} {isDigit : Char → Bool} {t : Text}
      (h : basedInteger base isDigit t = some (v, r)) : v.Distinct := by
    obtain ⟨p, -, hp⟩ := Option.bind_eq_some_iff.mp h
    obtain ⟨v', hv', hpair⟩ := Option.map_eq_some_iff.mp hp
    obtain ⟨rfl, -⟩ := Prod.mk.inj hpair
    exact distinct_of_fit64 hv'
  unfold integer at h
  split at h
  · exact hbased h
  · exact hbased h
  · exact hbased h
  · obtain ⟨p, -, hp⟩ := Option.bind_eq_some_iff.mp h
    obtain ⟨v', hv', hpair⟩ := Option.map_eq_some_iff.mp hp
    obtain ⟨rfl, -⟩ := Prod.mk.inj hpair
    exact distinct_of_fit64 hv'

/-- Nor does a number with a fraction. -/
theorem distinct_of_decimalFloat {s r : Text} {v : Value} (h : decimalFloat s = some (v, r)) :
    v.Distinct := by
  unfold decimalFloat at h
  generalize sign s = signed at h
  obtain ⟨⟨whole, r₀⟩, -, h⟩ := Option.bind_eq_some_iff.mp h
  obtain ⟨⟨part, r₁⟩, -, h⟩ := Option.bind_eq_some_iff.mp h
  obtain ⟨⟨power, r₂⟩, -, h⟩ := Option.bind_eq_some_iff.mp h
  obtain ⟨-, h⟩ := Option.ite_none_left_eq_some.mp h
  obtain ⟨-, h⟩ := Option.ite_none_left_eq_some.mp h
  obtain ⟨rfl, -⟩ := Prod.mk.inj (Option.some.inj h)
  exact .float _

/-- Nor does an infinity. -/
theorem distinct_of_specialFloat {s r : Text} {v : Value} (h : specialFloat s = some (v, r)) :
    v.Distinct := by
  unfold specialFloat at h
  split at h
  · obtain ⟨rfl, -⟩ := Prod.mk.inj (Option.some.inj h)
    exact .float _
  · obtain ⟨rfl, -⟩ := Prod.mk.inj (Option.some.inj h)
    exact .float _
  · cases h

/-- A value that holds no other values **holds no table**. -/
theorem distinct_of_scalar {s r : Text} {v : Value} (h : scalar s = some (v, r)) : v.Distinct := by
  have hquoted {t : Text} (h : (quoted t).map (fun p => (Value.string (String.ofList p.1), p.2)) =
      some (v, r)) : v.Distinct := by
    obtain ⟨p, -, hpair⟩ := Option.map_eq_some_iff.mp h
    obtain ⟨rfl, -⟩ := Prod.mk.inj hpair
    exact .string _
  unfold scalar at h
  split at h
  · obtain ⟨rfl, -⟩ := Prod.mk.inj (Option.some.inj h)
    exact .boolean _
  · obtain ⟨rfl, -⟩ := Prod.mk.inj (Option.some.inj h)
    exact .boolean _
  · exact hquoted h
  · exact hquoted h
  · rcases Option.or_eq_some_iff.mp h with h | ⟨-, h⟩
    · obtain ⟨t, -, hpair⟩ := Option.map_eq_some_iff.mp h
      obtain ⟨rfl, -⟩ := Prod.mk.inj hpair
      exact .datetime _
    · rcases Option.or_eq_some_iff.mp h with h | ⟨-, h⟩
      · exact distinct_of_specialFloat h
      · rcases Option.or_eq_some_iff.mp h with h | ⟨-, h⟩
        · exact distinct_of_decimalFloat h
        · exact distinct_of_integer h

section Nested

variable {value : Text → Option (Value × Text)}
  (hvalue : ∀ {s r : Text} {v : Value}, value s = some (v, r) → v.Distinct)

include hvalue

/-- The **items** of a list have distinct names if values that are read do. -/
theorem distinct_of_items {n : Nat} {s r : Text} {vs : List Value}
    (h : items value n s = some (vs, r)) : ∀ v ∈ vs, v.Distinct := by
  induction n generalizing s vs r with
  | zero => cases h
  | succ n ih =>
      unfold items at h
      obtain ⟨t, -, h⟩ := Option.bind_eq_some_iff.mp h
      split at h
      · obtain ⟨rfl, -⟩ := Prod.mk.inj (Option.some.inj h)
        exact List.forall_mem_nil _
      · obtain ⟨⟨v, r₁⟩, hv, h⟩ := Option.bind_eq_some_iff.mp h
        obtain ⟨t', -, h⟩ := Option.bind_eq_some_iff.mp h
        split at h
        · obtain ⟨⟨vs', r₂⟩, hvs, h⟩ := Option.bind_eq_some_iff.mp h
          obtain ⟨rfl, -⟩ := Prod.mk.inj (Option.some.inj h)
          exact List.forall_mem_cons.mpr ⟨hvalue hv, ih hvs⟩
        · obtain ⟨rfl, -⟩ := Prod.mk.inj (Option.some.inj h)
          exact List.forall_mem_cons.mpr ⟨hvalue hv, List.forall_mem_nil _⟩
        · cases h

/-- The **pairs** of a table in braces keep names distinct if values that are read have them so. -/
theorem distinct_of_pairs {n : Nat} {es es' : Entries} {s r : Text} (hes : es.Distinct)
    (h : pairs value n es s = some (es', r)) : es'.Distinct := by
  induction n generalizing es s with
  | zero => cases h
  | succ n ih =>
      unfold pairs at h
      obtain ⟨⟨path, name, r₁⟩, -, h⟩ := Option.bind_eq_some_iff.mp h
      obtain ⟨r₂, -, h⟩ := Option.bind_eq_some_iff.mp h
      obtain ⟨⟨v, r₃⟩, hv, h⟩ := Option.bind_eq_some_iff.mp h
      obtain ⟨es₁, hassign, h⟩ := Option.bind_eq_some_iff.mp h
      have hnext : es₁.Distinct := hes.assign (hvalue hv) hassign
      split at h
      · exact ih hnext h
      · obtain ⟨rfl, -⟩ := Prod.mk.inj (Option.some.inj h)
        exact hnext
      · cases h

end Nested

/-- A **value** that is read has distinct names, however deep it is. -/
theorem distinct_of_value {depth : Nat} {s r : Text} {v : Value}
    (h : value depth s = some (v, r)) : v.Distinct := by
  induction depth generalizing s v r with
  | zero => exact distinct_of_scalar h
  | succ depth ih =>
      unfold value at h
      split at h
      · obtain ⟨p, hp, hpair⟩ := Option.map_eq_some_iff.mp h
        obtain ⟨rfl, -⟩ := Prod.mk.inj hpair
        exact .array (distinct_of_items ih hp)
      · split at h
        · obtain ⟨rfl, -⟩ := Prod.mk.inj (Option.some.inj h)
          exact .table List.nodup_nil (List.forall_mem_nil _)
        · obtain ⟨p, hp, hpair⟩ := Option.map_eq_some_iff.mp h
          obtain ⟨rfl, -⟩ := Prod.mk.inj hpair
          have hpairs := distinct_of_pairs ih Entries.distinct_nil hp
          exact .table (names_entriesToValues p.1 ▸ hpairs.nodup)
            (distinct_entriesToValues hpairs.nodes)
      · exact distinct_of_scalar h

/-! ### Documents -/

/-- The value of an assignment has distinct names; a header has no value. -/
def Statement.Distinct : Statement → Prop
  | .assignment _ _ v => v.Distinct
  | _ => True

/-- So it is for each statement that is read. -/
theorem distinct_of_statement {s r : Text} {first : Statement}
    (h : statement s = some (first, r)) : first.Distinct := by
  unfold statement at h
  split at h
  · unfold header at h
    split at h
    · obtain ⟨⟨path, name, r₁⟩, -, h⟩ := Option.bind_eq_some_iff.mp h
      obtain ⟨r₂, -, h⟩ := Option.bind_eq_some_iff.mp h
      obtain ⟨r₃, -, h⟩ := Option.bind_eq_some_iff.mp h
      obtain ⟨r₄, -, h⟩ := Option.bind_eq_some_iff.mp h
      obtain ⟨rfl, -⟩ := Prod.mk.inj (Option.some.inj h)
      exact trivial
    · obtain ⟨⟨path, name, r₁⟩, -, h⟩ := Option.bind_eq_some_iff.mp h
      obtain ⟨r₂, -, h⟩ := Option.bind_eq_some_iff.mp h
      obtain ⟨r₃, -, h⟩ := Option.bind_eq_some_iff.mp h
      obtain ⟨rfl, -⟩ := Prod.mk.inj (Option.some.inj h)
      exact trivial
  · unfold assignment at h
    obtain ⟨⟨path, name, r₁⟩, -, h⟩ := Option.bind_eq_some_iff.mp h
    obtain ⟨r₂, -, h⟩ := Option.bind_eq_some_iff.mp h
    obtain ⟨⟨v, r₃⟩, hv, h⟩ := Option.bind_eq_some_iff.mp h
    obtain ⟨r₄, -, h⟩ := Option.bind_eq_some_iff.mp h
    obtain ⟨rfl, -⟩ := Prod.mk.inj (Option.some.inj h)
    exact distinct_of_value hv

/-- And for all of a document. -/
theorem distinct_of_statements {n : Nat} {s : Text} {ss : List Statement}
    (h : statements n s = some ss) : ∀ first ∈ ss, first.Distinct := by
  induction n generalizing s ss with
  | zero => cases h
  | succ n ih =>
      unfold statements at h
      obtain ⟨t, -, h⟩ := Option.bind_eq_some_iff.mp h
      split at h
      · obtain rfl := Option.some.inj h
        exact List.forall_mem_nil _
      · obtain ⟨⟨first, r⟩, hfirst, h⟩ := Option.bind_eq_some_iff.mp h
        obtain ⟨rest, hrest, h⟩ := Option.bind_eq_some_iff.mp h
        obtain rfl := Option.some.inj h
        exact List.forall_mem_cons.mpr ⟨distinct_of_statement hfirst, ih hrest⟩

/-- **One more statement** keeps the names of a tree distinct. -/
theorem distinct_of_add {b b' : Builder} {first : Statement} (hb : b.root.Distinct)
    (hfirst : first.Distinct) (h : b.add first = some b') : b'.root.Distinct := by
  cases first with
  | header path name =>
      obtain ⟨root, hroot, rfl⟩ := Option.map_eq_some_iff.mp h
      exact hb.descend (fun _ _ hes => hes.openTable) hroot
  | item path name =>
      obtain ⟨root, hroot, rfl⟩ := Option.map_eq_some_iff.mp h
      exact hb.descend (fun _ _ hes => hes.addItem) hroot
  | assignment path name v =>
      obtain ⟨root, hroot, rfl⟩ := Option.map_eq_some_iff.mp h
      exact hb.descend (fun _ _ hes => hes.assign hfirst) hroot

/-- All statements of a document do. -/
theorem distinct_of_foldlM {ss : List Statement} (hss : ∀ first ∈ ss, first.Distinct)
    {b b' : Builder} (hb : b.root.Distinct) (h : ss.foldlM Builder.add b = some b') :
    b'.root.Distinct := by
  induction ss generalizing b with
  | nil =>
      obtain rfl := Option.some.inj h
      exact hb
  | cons first ss ih =>
      obtain ⟨hfirst, hrest⟩ := List.forall_mem_cons.mp hss
      rw [List.foldlM_cons] at h
      obtain ⟨b₁, hadd, h⟩ := Option.bind_eq_some_iff.mp h
      exact ih hrest (distinct_of_add hb hfirst hadd) h

/-- **The tables of a document** have distinct names, and the document as a whole is one. -/
theorem distinct_of_parse? {s : Text} {v : Value} (h : parse? s = some v) :
    ∃ root, v = .table root ∧ (names root).Nodup ∧ ∀ e ∈ root, e.2.Distinct := by
  unfold parse? at h
  obtain ⟨ss, hss, h⟩ := Option.bind_eq_some_iff.mp h
  obtain ⟨b, hb, rfl⟩ := Option.map_eq_some_iff.mp h
  have hroot := distinct_of_foldlM (distinct_of_statements hss) Entries.distinct_nil hb
  exact ⟨_, rfl, names_entriesToValues b.root ▸ hroot.nodup, distinct_entriesToValues hroot.nodes⟩

end LangServer.Toml
