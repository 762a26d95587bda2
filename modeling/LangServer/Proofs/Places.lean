import Mathlib.Data.List.Infix
import LangServer.Proofs.Components
import LangServer.Storage.Disk

/-!
# Places

A look-up gives a path its meaning: it follows the components of the path from place to place, one
step down for a name and one step up for two dots. This module says where a look-up goes, in terms
of the names of the path alone, and which places it passes on the way. The parent of a path passes
one place less, so going back along a path as it is written is going back along these places.

## Conventions

A path passes the place where it starts, which is the root or the working directory, and then one
place for each of its names (`Path.trail`). A place is above another one if it is a prefix of it,
itself included.

## Main statements

* `Place.mem_passed_of_above`: a way goes down one step at a time.
* `Disk.walk_append_of_directory`: a look-up goes to the place that the names lead to.
* `Path.trail_of_parent?`: the parent of a path passes one place less.
* `Path.exists_splitOn_join`: a name below a path is looked up after those of the path.
-/

namespace LangServer

/-! ### Places passed on the way -/

namespace Place

/-- The place that a name **leads to** from a place; two dots lead to the one above. -/
def move (here : Place) (name : Text) : Place :=
  if name = ['.', '.'] then here.dropLast else here ++ [name]

/-- The place that some names lead to, one after the other. -/
def follow (here : Place) (names : List Text) : Place :=
  names.foldl move here

/-- The places that are **passed** on the way, the first and the last one included. -/
def passed (here : Place) : List Text → List Place
  | [] => [here]
  | name :: names => here :: passed (move here name) names

variable {here place : Place}

/-- The way starts where it starts. -/
theorem exists_passed_eq_cons (here : Place) (names : List Text) :
    ∃ rest, passed here names = here :: rest := by
  cases names with
  | nil => exact ⟨[], rfl⟩
  | cons name names => exact ⟨_, rfl⟩

/-- One name more leads to **one place more**. -/
theorem passed_concat (here : Place) (names : List Text) (name : Text) :
    passed here (names ++ [name]) = passed here names ++ [follow here (names ++ [name])] := by
  induction names generalizing here with
  | nil => rfl
  | cons first names ih => exact congrArg (here :: ·) (ih (move here first))

/-- From a place on the way, the **rest of the way** leads to the same end. -/
theorem exists_rest_of_passed {names : List Text} {before after : List Place}
    (h : passed here names = before ++ place :: after) :
    ∃ rest, passed place rest = place :: after ∧ follow place rest = follow here names := by
  induction names generalizing here before with
  | nil =>
      cases before with
      | nil =>
          obtain ⟨rfl, rfl⟩ := List.cons.inj h
          exact ⟨[], rfl, rfl⟩
      | cons first before =>
          exact absurd (List.cons.inj h).2.symm
            (List.append_ne_nil_of_right_ne_nil _ (List.cons_ne_nil _ _))
  | cons name names ih =>
      cases before with
      | nil =>
          obtain rfl := (List.cons.inj h).1
          exact ⟨name :: names, h, rfl⟩
      | cons first before => exact ih (List.cons.inj h).2

/-- A place above the end that is not above the start is **passed on the way**: a way goes down one
step at a time. -/
theorem mem_passed_of_above {names : List Text} (hend : place <+: follow here names)
    (hstart : ¬ place <+: here) : place ∈ passed here names := by
  induction names generalizing here with
  | nil => exact absurd hend hstart
  | cons name names ih =>
      refine List.mem_cons_of_mem _ ?_
      by_cases hnext : place <+: move here name
      · -- A step up does not lead below a new place, and a step down leads below one.
        have hplace : place = move here name := by
          unfold move at hnext ⊢
          split at hnext
          · exact absurd (hnext.trans (List.dropLast_prefix _)) hstart
          · rename_i hdots
            rw [if_neg hdots]
            exact (List.prefix_concat_iff.mp hnext).resolve_right hstart
        obtain ⟨rest, hrest⟩ := exists_passed_eq_cons (move here name) names
        rw [hrest, hplace]
        exact List.mem_cons_self
      · exact ih hend hnext

/-- Without two dots the way **leads down**. -/
theorem follow_of_down {names : List Text} (h : ['.', '.'] ∉ names) :
    follow here names = here ++ names := by
  induction names generalizing here with
  | nil => exact (List.append_nil _).symm
  | cons name names ih =>
      obtain ⟨hname, hnames⟩ := not_or.mp (mt List.mem_cons.mpr h)
      have hmove : move here name = here ++ [name] := if_neg (Ne.symm hname)
      calc follow here (name :: names) = follow (here ++ [name]) names := by rw [← hmove]; rfl
        _ = here ++ name :: names := by rw [ih hnames, List.append_assoc, List.singleton_append]

/-- On a way that leads down the places below the start and above the end are passed, and no
others. -/
theorem mem_passed_of_down {names : List Text} (h : ['.', '.'] ∉ names) :
    place ∈ passed here names ↔ here <+: place ∧ place <+: here ++ names := by
  induction names generalizing here with
  | nil =>
      rw [passed, List.mem_singleton, List.append_nil]
      constructor
      · rintro rfl
        exact ⟨List.prefix_rfl, List.prefix_rfl⟩
      · rintro ⟨hbelow, habove⟩
        exact habove.eq_of_length (habove.length_le.antisymm hbelow.length_le)
  | cons name names ih =>
      obtain ⟨hname, hnames⟩ := not_or.mp (mt List.mem_cons.mpr h)
      have hmove : move here name = here ++ [name] := if_neg (Ne.symm hname)
      rw [passed, List.mem_cons, hmove, ih hnames, List.append_assoc, List.singleton_append]
      constructor
      · rintro (rfl | ⟨hbelow, habove⟩)
        · exact ⟨List.prefix_rfl, List.prefix_append _ _⟩
        · exact ⟨(List.prefix_append _ _).trans hbelow, habove⟩
      · rintro ⟨⟨rest, rfl⟩, habove⟩
        cases rest with
        | nil => exact Or.inl (List.append_nil _)
        | cons first rest =>
            have hrest := (List.prefix_append_right_inj here).mp habove
            obtain ⟨rfl, -⟩ := List.cons_prefix_cons.mp hrest
            refine Or.inr ⟨?_, habove⟩
            exact (List.prefix_append_right_inj here).mpr ⟨rest, rfl⟩

end Place

/-! ### Where a look-up goes -/

namespace Path

/-- The components that **count**, among all those between slashes. -/
def counting (components : List Text) : List Text :=
  components.filter fun name => name ≠ [] ∧ name ≠ ['.']

variable {name : Text}

/-- A component that does not count is left out. -/
theorem counting_cons_of_idle (h : name = [] ∨ name = ['.']) (components : List Text) :
    counting (name :: components) = counting components := by
  refine List.filter_cons_of_neg ?_
  rw [decide_eq_true_eq, ← not_or]
  exact not_not.mpr h

/-- A name is kept. -/
theorem counting_cons_of_active (h : ¬ (name = [] ∨ name = ['.'])) (components : List Text) :
    counting (name :: components) = name :: counting components := by
  refine List.filter_cons_of_pos ?_
  rw [decide_eq_true_eq, ← not_or]
  exact h

end Path

namespace Disk

open LangServer.Path (counting counting_cons_of_idle counting_cons_of_active)

variable {d : Disk} {here place : Place}

/-- A way that ends in a directory starts in one. -/
theorem entry?_of_walk {names : List Text} (h : d.walk here names = .directory) :
    d.entry? here = some .directory := by
  cases names with
  | nil =>
      rw [walk] at h
      split at h <;> first | assumption | cases h
  | cons name names =>
      rw [walk] at h
      split at h <;> first | assumption | cases h

/-- A component that does not count **leads nowhere else**. -/
theorem walk_cons_of_idle {name : Text} (hidle : name = [] ∨ name = ['.'])
    (hhere : d.entry? here = some .directory) (names : List Text) :
    d.walk here (name :: names) = d.walk here names := by
  rw [walk, hhere]
  exact if_pos hidle

/-- A name leads **one place on**, unless it is too long. -/
theorem walk_cons_of_active {name : Text} (hactive : ¬ (name = [] ∨ name = ['.']))
    (hhere : d.entry? here = some .directory) (names : List Text) :
    d.walk here (name :: names) =
      if nameLimit < Text.byteSize name then .tooLong else d.walk (Place.move here name) names := by
  rw [walk, hhere, Place.move]
  simp only [if_neg hactive]
  by_cases hdots : name = ['.', '.']
  · subst hdots
    rfl
  · rw [if_neg hdots, if_neg hdots]

/-- What follows a way to a directory is looked up **from the place** that its names lead to. -/
theorem walk_append_of_directory {components : List Text}
    (h : d.walk here components = .directory) (rest : List Text) :
    d.walk here (components ++ rest) =
      d.walk (Place.follow here (counting components)) rest := by
  induction components generalizing here with
  | nil => rfl
  | cons name components ih =>
      have hhere := entry?_of_walk h
      rw [List.cons_append]
      by_cases hidle : name = [] ∨ name = ['.']
      · rw [walk_cons_of_idle hidle hhere] at h ⊢
        rw [ih h, counting_cons_of_idle hidle]
      · rw [walk_cons_of_active hidle hhere] at h ⊢
        rw [counting_cons_of_active hidle]
        split at h
        · cases h
        · rename_i hshort
          rw [if_neg hshort, ih h]
          rfl

/-- Whether a way ends in a directory **depends on its names** alone. -/
theorem walk_counting {components : List Text} :
    d.walk here (counting components) = .directory ↔
      d.walk here components = .directory := by
  induction components generalizing here with
  | nil => rfl
  | cons name components ih =>
      by_cases hhere : d.entry? here = some .directory
      · by_cases hidle : name = [] ∨ name = ['.']
        · rw [walk_cons_of_idle hidle hhere, counting_cons_of_idle hidle, ih]
        · rw [walk_cons_of_active hidle hhere, counting_cons_of_active hidle,
            walk_cons_of_active hidle hhere]
          split
          · rfl
          · exact ih
      · exact iff_of_false (mt entry?_of_walk hhere) (mt entry?_of_walk hhere)

/-- A way to a directory **passes directories**. -/
theorem walk_of_append {names rest : List Text} (h : d.walk here (names ++ rest) = .directory) :
    d.walk here names = .directory := by
  induction names generalizing here with
  | nil =>
      rw [walk, entry?_of_walk h]
  | cons name names ih =>
      have hhere := entry?_of_walk h
      rw [List.cons_append] at h
      by_cases hidle : name = [] ∨ name = ['.']
      · rw [walk_cons_of_idle hidle hhere] at h ⊢
        exact ih h
      · rw [walk_cons_of_active hidle hhere] at h ⊢
        split at h
        · cases h
        · rename_i hshort
          rw [if_neg hshort]
          exact ih h

end Disk

/-! ### The places of a path -/

namespace Path

/-- The place where a path **starts**. -/
def origin (here : Place) (p : Path) : Place :=
  if p.isAbsolute then [] else here

/-- The place that a path **leads to** if there is a directory. -/
def place (here : Place) (p : Path) : Place :=
  Place.follow (p.origin here) (names p.text)

/-- The places that a path **passes**. -/
def trail (here : Place) (p : Path) : List Place :=
  Place.passed (p.origin here) (names p.text)

variable {here : Place} {p q : Path}

/-- The names of a path are those of its body. -/
theorem names_text (p : Path) : names p.text = names p.body := by
  unfold body front
  split
  next r h =>
    rw [h]
    exact names_append_slash [] r
  next h =>
    rw [h]
    rfl
  next r h =>
    rw [h]
    calc names ('.' :: '/' :: r) = names r := names_append_slash ['.'] r
      _ = names ('/' :: r) := (names_append_slash [] r).symm
  next => rfl

/-- The parent of a path **lacks its last name**, except that before a leading `.` there is none. -/
theorem names_of_parent? (h : p.parent? = some q) :
    (∃ name, names p.text = names q.text ++ [name]) ∨ names p.text = [] ∧ names q.text = [] := by
  rw [names_text p, names_text q]
  rcases p.parent?_cases with ⟨hnames, hparent⟩ | ⟨b, name, -, hnames, hparent, hfront⟩
  · rw [h] at hparent
    split at hparent
    next =>
      obtain rfl := Option.some.inj hparent
      exact Or.inr ⟨hnames, rfl⟩
    next => cases hparent
  · obtain rfl := Option.some.inj (h.symm.trans hparent)
    exact Or.inl ⟨name, by rw [body_of_front_eq hfront, hnames]⟩

/-- It starts where the path starts. -/
theorem origin_of_parent? (here : Place) (h : p.parent? = some q) :
    q.origin here = p.origin here := by
  rw [origin, origin, isAbsolute_of_parent? h]

/-- It **passes one place less**, except that a leading `.` leads nowhere. -/
theorem trail_of_parent? (here : Place) (h : p.parent? = some q) :
    p.trail here = q.trail here ++ [p.place here] ∨
      p.trail here = q.trail here ∧ p.trail here = [p.place here] := by
  rw [trail, trail, place, origin_of_parent? here h]
  rcases names_of_parent? h with ⟨name, hnames⟩ | ⟨hp, hq⟩
  · left
    rw [hnames, Place.passed_concat]
  · right
    rw [hp, hq]
    exact ⟨rfl, rfl⟩

/-- Where going up ends, only **the start** is passed. -/
theorem trail_of_parent?_eq_none (here : Place) (h : p.parent? = none) :
    p.trail here = [p.place here] := by
  rcases p.parent?_cases with ⟨hnames, -⟩ | ⟨b, name, -, -, hparent, -⟩
  · rw [trail, place, names_text, hnames]
    rfl
  · cases h.symm.trans hparent

/-- The paths above a path are itself and those above its parent. -/
theorem ancestors_of_parent? (h : p.parent? = some q) : p.ancestors = p :: q.ancestors := by
  rw [ancestors]
  split
  next q' hq' => rw [Option.some.inj (hq'.symm.trans h)]
  next hnone => cases h.symm.trans hnone

/-- Where going up ends, there is only the path itself. -/
theorem ancestors_of_parent?_eq_none (h : p.parent? = none) : p.ancestors = [p] := by
  rw [ancestors]
  split
  next q hq => cases h.symm.trans hq
  next => rfl

/-- The parent of a path is **written at its start**. -/
theorem text_of_parent? (h : p.parent? = some q) : q.text <+: p.text := by
  unfold parent? at h
  cases hr : dropIdle p.body.reverse with
  | nil =>
      simp only [hr] at h
      split at h
      · obtain rfl := Option.some.inj h
        exact List.nil_prefix
      · cases h
  | cons c r =>
      obtain ⟨b, name, rfl, -, -, hcut⟩ := exists_cut_of_dropIdle hr
      simp only [hr] at h
      obtain rfl := Option.some.inj h
      rw [List.reverse_reverse] at hcut
      rw [← front_append_body p]
      refine (List.prefix_append_right_inj _).mpr ?_
      rcases hcut with hnil | hcut
      · rw [hnil]
        exact List.nil_prefix
      · exact (List.prefix_append _ _).trans hcut

/-- A name below a path is written **after it**, with a slash between them or none. -/
theorem text_join {name : Text} (h : IsName name) (p : Path) :
    (p.join ⟨name⟩).text = p.text ++ name ∨ (p.join ⟨name⟩).text = p.text ++ '/' :: name := by
  unfold join
  split
  next hfirst =>
    have hnil : p.text = [] := by simpa [h.isAbsolute_eq] using hfirst
    left
    rw [hnil]
    rfl
  next =>
    split
    · exact Or.inl rfl
    · exact Or.inr rfl

/-- It is longer by the name and at most a slash. -/
theorem byteSize_join {name : Text} (h : IsName name) (p : Path) :
    Text.byteSize p.text + Text.byteSize name ≤ Text.byteSize (p.join ⟨name⟩).text ∧
      Text.byteSize (p.join ⟨name⟩).text ≤ Text.byteSize p.text + 1 + Text.byteSize name := by
  have hslash : '/'.utf8Size = 1 := rfl
  rcases text_join h p with htext | htext
  · rw [htext, Text.byteSize_append]
    omega
  · rw [htext, Text.byteSize_append, Text.byteSize_cons, hslash]
    omega

/-- A name below a path starts **where the path starts**. -/
theorem origin_join {name : Text} (h : IsName name) (here : Place) (p : Path) :
    (p.join ⟨name⟩).origin here = p.origin here := by
  have habsolute : (p.join ⟨name⟩).isAbsolute = p.isAbsolute := by
    obtain ⟨s⟩ := p
    cases s with
    | nil =>
        rw [join, h.isAbsolute_eq]
        exact h.isAbsolute_eq
    | cons c s =>
        rcases text_join h ⟨c :: s⟩ with htext | htext <;> rw [isAbsolute, htext] <;> rfl
  rw [origin, origin, habsolute]

/-- A name below a path is the **last component** after those of the path. -/
theorem exists_splitOn_join {name : Text} (h : IsName name) (p : Path) :
    ∃ components, List.splitOn '/' (p.join ⟨name⟩).text = components ++ [name] ∧
      counting components = names p.text := by
  have hname : List.splitOn '/' name = [name] := by
    rw [List.splitOn_eq_singleton h.noSlash]
  have hslash (s : Text) : List.splitOn '/' (s ++ '/' :: name) = List.splitOn '/' s ++ [name] := by
    rw [List.splitOn_append_cons_self, hname]
  obtain ⟨s⟩ := p
  simp only [join, h.isAbsolute_eq, Bool.false_or, decide_eq_true_eq]
  split
  next hnil =>
    subst hnil
    exact ⟨[], hname, rfl⟩
  next hne =>
    split
    next hlast =>
      obtain ⟨s, rfl⟩ := List.getLast?_eq_some_iff.mp hlast
      refine ⟨List.splitOn '/' s, ?_, (names_append_slash_nil s).symm⟩
      rw [List.append_assoc, List.singleton_append, hslash]
    next => exact ⟨List.splitOn '/' s, hslash s, rfl⟩

end Path

end LangServer
