import Mathlib.Data.List.TakeWhile
import LangServer.Storage.Path

/-!
# Components of Paths

A path is taken as it is written, and there are many ways to write one: with slashes more than
needed and with components that do not count. What matters of it are its components, which are its
front, if it has one, and the names after it. This module says what going up and going down do to
them: the parent of a path lacks the last component, and a name below a path is one component more.

## Names

A name is what can stand between two slashes and counts there: it is not empty, and it is no `.`
(`Path.IsName`). The component `..` is a name like any other.

## Main statements

* `Path.parent?_cases`: what going to the parent does to a path as it is written.
* `Path.components_of_parent?`: the parent lacks the last component.
* `Path.parent?_eq_none_iff`: where going up ends.
* `Path.components_join`: a name below a path.
* `Path.exists_top`: going up from any path ends.
-/

namespace LangServer.Path

/-! ### Names -/

/-- A text is a **name** if it can stand between slashes and counts there. -/
structure IsName (name : Text) : Prop where
  nonempty : name ≠ []
  noSlash : '/' ∉ name
  notDot : name ≠ ['.']

/-- The names in a text between its slashes. -/
def names (t : Text) : List Text :=
  (List.splitOn '/' t).filter fun name => name ≠ [] ∧ name ≠ ['.']

/-- There are no names in an empty text. -/
@[simp] theorem names_nil : names [] = [] := rfl

/-- There are none in a `.`. -/
@[simp] theorem names_dot : names ['.'] = [] := rfl

/-- A slash **separates** names. -/
theorem names_append_slash (s t : Text) : names (s ++ '/' :: t) = names s ++ names t := by
  simp only [names, List.splitOn_append_cons_self, List.filter_append]

/-- A slash at the end makes no difference. -/
theorem names_append_slash_nil (s : Text) : names (s ++ ['/']) = names s := by
  rw [names_append_slash, names_nil, List.append_nil]

/-- A name is the only one in itself. -/
theorem IsName.names_eq {name : Text} (h : IsName name) : names name = [name] := by
  rw [names, List.splitOn_eq_singleton h.noSlash]
  simp [h.nonempty, h.notDot]

/-! ### Idle components -/

/-- What is left of a reversed body after its idle components: nothing, all of it, or what is
**behind a slash**. -/
theorem dropIdle_cases (t : Text) :
    dropIdle t = [] ∨ dropIdle t = t ∨ ∃ u, t = u ++ '/' :: dropIdle t := by
  fun_induction dropIdle t with
  | case1 r ih =>
      rcases ih with h | h | ⟨u, h⟩
      · exact Or.inl h
      · exact Or.inr (Or.inr ⟨[], by rw [h, List.nil_append]⟩)
      · exact Or.inr (Or.inr ⟨'/' :: u, by rw [List.cons_append, ← h]⟩)
  | case2 r ih =>
      rcases ih with h | h | ⟨u, h⟩
      · exact Or.inl h
      · exact Or.inr (Or.inr ⟨['.'], by rw [h, List.singleton_append]⟩)
      · exact Or.inr (Or.inr ⟨'.' :: '/' :: u, by rw [List.cons_append, List.cons_append, ← h]⟩)
  | case3 => exact Or.inl rfl
  | case4 t => exact Or.inr (Or.inl rfl)

/-- It is at the end of the reversed body. -/
theorem dropIdle_suffix (t : Text) : dropIdle t <:+ t := by
  rcases dropIdle_cases t with h | h | ⟨u, h⟩
  · rw [h]
    exact List.nil_suffix
  · exact ⟨[], by rw [h, List.nil_append]⟩
  · exact ⟨u ++ ['/'], by rw [List.append_assoc, List.singleton_append, ← h]⟩

/-- Idle components are **no names**. -/
theorem names_reverse_dropIdle (t : Text) : names (dropIdle t).reverse = names t.reverse := by
  fun_induction dropIdle t with
  | case1 r ih => rw [ih, List.reverse_cons, names_append_slash_nil]
  | case2 r ih =>
      rw [ih, List.reverse_cons, List.reverse_cons, List.append_assoc, List.singleton_append,
        names_append_slash, names_dot, List.append_nil]
  | case3 => rfl
  | case4 t => rfl

/-- What is left starts with a **name**, read backwards. -/
theorem isName_of_dropIdle {t r : Text} {c : Char} (h : dropIdle t = c :: r) :
    IsName ((c :: r).takeWhile (· ≠ '/')).reverse := by
  fun_induction dropIdle t with
  | case1 r ih => exact ih h
  | case2 r ih => exact ih h
  | case3 => cases h
  | case4 t hslash hdotSlash hdot =>
      subst h
      have hc : c ≠ '/' := fun hc => hslash r (by rw [hc])
      have htake : (c :: r).takeWhile (· ≠ '/') = c :: r.takeWhile (· ≠ '/') :=
        List.takeWhile_cons_of_pos (decide_eq_true hc)
      rw [htake]
      refine ⟨by simp, ?_, ?_⟩
      · intro hmem
        rw [← htake, List.mem_reverse] at hmem
        simpa using List.mem_takeWhile_imp hmem
      · intro hreverse
        obtain ⟨rfl, hrest⟩ : c = '.' ∧ r.takeWhile (· ≠ '/') = [] := by
          simpa using congrArg List.reverse hreverse
        -- A dot before a slash and a dot alone are idle.
        cases r with
        | nil => exact hdot rfl
        | cons d r =>
            by_cases hd : d = '/'
            · exact hdotSlash r (by rw [hd])
            · rw [List.takeWhile_cons_of_pos (by simpa using hd)] at hrest
              cases hrest

/-- **The last name** of a body and what is before it, as going to the parent cuts them. -/
theorem exists_cut_of_dropIdle {t r : Text} {c : Char} (h : dropIdle t = c :: r) :
    ∃ b name, b = (dropIdle ((c :: r).dropWhile (· ≠ '/'))).reverse ∧ IsName name ∧
      names t.reverse = names b ++ [name] ∧ (b = [] ∨ b ++ ['/'] <+: t.reverse) := by
  have hname := isName_of_dropIdle h
  have hsplit : c :: r = (c :: r).takeWhile (· ≠ '/') ++ (c :: r).dropWhile (· ≠ '/') :=
    List.takeWhile_append_dropWhile.symm
  have hhead := List.head?_dropWhile_not (· ≠ '/') (c :: r)
  generalize (c :: r).takeWhile (· ≠ '/') = word at hname hsplit
  generalize (c :: r).dropWhile (· ≠ '/') = rest at hsplit hhead
  have hnames : names t.reverse = names rest.reverse ++ [word.reverse] := by
    rw [← names_reverse_dropIdle t, h, hsplit, List.reverse_append]
    cases rest with
    | nil => rw [List.reverse_nil, List.nil_append, hname.names_eq, names_nil, List.nil_append]
    | cons d rest =>
        obtain rfl : d = '/' := by simpa using hhead
        rw [List.reverse_cons, List.append_assoc, List.singleton_append, names_append_slash,
          names_append_slash_nil, hname.names_eq]
  refine ⟨_, word.reverse, rfl, hname, ?_, ?_⟩
  · rw [names_reverse_dropIdle, hnames]
  · rcases dropIdle_cases rest with hnil | hsame | ⟨u, hu⟩
    · left
      rw [hnil, List.reverse_nil]
    · left
      cases rest with
      | nil => rfl
      | cons d rest =>
          obtain rfl : d = '/' := by simpa using hhead
          exact absurd (by rw [hsame]; rfl) (head?_dropIdle_ne ('/' :: rest))
    · right
      obtain ⟨v, hv⟩ := dropIdle_suffix t
      have hrest : rest.reverse = (dropIdle rest).reverse ++ ['/'] ++ u.reverse := by
        rw [← List.reverse_cons, ← List.reverse_append, ← hu]
      refine ⟨(v ++ word ++ u).reverse, ?_⟩
      rw [← hv, h, hsplit]
      simp only [List.reverse_append, hrest, List.append_assoc]

/-! ### Fronts -/

/-- A path has one of **three fronts**. -/
theorem front_cases (p : Path) : p.front = [] ∨ p.front = ['/'] ∨ p.front = ['.'] := by
  unfold front
  split <;> simp

/-- A path is absolute if its front is a slash. -/
theorem isAbsolute_iff {p : Path} : p.isAbsolute ↔ p.front = ['/'] := by
  obtain ⟨t⟩ := p
  unfold isAbsolute front
  split
  case h_4 hslash _ _ =>
    rw [decide_eq_true_eq]
    refine iff_of_false (fun hhead => ?_) (by simp)
    obtain ⟨u, hu⟩ := List.head?_eq_some_iff.mp hhead
    exact hslash u hu
  all_goals simp_all

/-- What follows a slash does not matter for the front, nor does the slash if there is something
before it. -/
theorem front_append_slash {s : Text} (hs : s ≠ []) (t : Text) :
    (mk (s ++ '/' :: t)).front = (mk s).front := by
  rcases s with - | ⟨c, - | ⟨d, s⟩⟩
  · exact absurd rfl hs
  · by_cases hslash : c = '/'
    · subst hslash
      rfl
    · by_cases hdot : c = '.'
      · subst hdot
        rfl
      · simp [front, hslash, hdot]
  · by_cases hslash : c = '/'
    · subst hslash
      rfl
    · by_cases hdot : c = '.' ∧ d = '/'
      · obtain ⟨rfl, rfl⟩ := hdot
        rfl
      · simp_all [front]

/-- A path that is cut **before a slash**, or after its front, keeps its front. -/
theorem front_of_cut {p : Path} {b : Text} (h : b = [] ∨ b ++ ['/'] <+: p.body) :
    (mk (p.front ++ b)).front = p.front := by
  rcases h with rfl | ⟨u, hu⟩
  · rw [List.append_nil]
    rcases p.front_cases with h | h | h <;> rw [h] <;> rfl
  · by_cases hnil : p.front ++ b = []
    · rw [hnil, (List.append_eq_nil_iff.mp hnil).1]
      rfl
    · have htext : p.text = p.front ++ b ++ '/' :: u := by
        rw [← front_append_body p, ← hu, List.append_assoc, List.append_assoc]
        rfl
      have hfront : p.front = (mk (p.front ++ b ++ '/' :: u)).front := by
        rw [← htext]
      rw [front_append_slash hnil] at hfront
      exact hfront.symm

/-- What follows the front of a path that keeps its front is its body. -/
theorem body_of_front_eq {front b : Text} (h : (mk (front ++ b)).front = front) :
    (mk (front ++ b)).body = b := by
  rw [body, h]
  exact List.drop_left

/-! ### Components -/

/-- The **components** of a path: the slash of an absolute path or the leading `.` of a relative
one, and the names after it. -/
def components (p : Path) : List Text :=
  (if p.front = [] then [] else [p.front]) ++ names p.body

/-- **What going to the parent does.** Without a name in the body, only a leading `.` can be left
behind. Otherwise the path is cut before its last name. -/
theorem parent?_cases (p : Path) :
    (names p.body = [] ∧ p.parent? = if p.front = ['.'] then some ⟨[]⟩ else none) ∨
      ∃ b name, IsName name ∧ names p.body = names b ++ [name] ∧
        p.parent? = some ⟨p.front ++ b⟩ ∧ (mk (p.front ++ b)).front = p.front := by
  unfold parent?
  cases h : dropIdle p.body.reverse with
  | nil =>
      left
      have hnames := names_reverse_dropIdle p.body.reverse
      rw [h, List.reverse_reverse] at hnames
      exact ⟨hnames.symm, rfl⟩
  | cons c r =>
      right
      obtain ⟨b, name, rfl, hname, hnames, hcut⟩ := exists_cut_of_dropIdle h
      rw [List.reverse_reverse] at hnames hcut
      exact ⟨_, name, hname, hnames, rfl, front_of_cut hcut⟩

/-- **The parent** lacks the last component. -/
theorem components_of_parent? {p q : Path} (h : p.parent? = some q) :
    ∃ last, p.components = q.components ++ [last] := by
  rcases p.parent?_cases with ⟨hnames, hparent⟩ | ⟨b, name, -, hnames, hparent, hfront⟩
  · rw [h] at hparent
    split at hparent
    next hdot =>
      obtain rfl := Option.some.inj hparent
      refine ⟨['.'], ?_⟩
      rw [components, hdot, hnames]
      rfl
    next => cases hparent
  · obtain rfl := Option.some.inj (h.symm.trans hparent)
    refine ⟨name, ?_⟩
    rw [components, components, hfront, body_of_front_eq hfront, hnames, List.append_assoc]

/-- Slashes more than needed and a dot in the middle do not count; a dot in front and two dots
do. -/
example : (ofString ".//a/./../b/").components = [['.'], ['a'], ['.', '.'], ['b']] ∧
    (ofString ".//a/./../b/").parent? = some (ofString ".//a/./..") := by
  decide

/-- The parent of an absolute path is absolute, that of a relative one is relative. -/
theorem isAbsolute_of_parent? {p q : Path} (h : p.parent? = some q) :
    q.isAbsolute = p.isAbsolute := by
  rw [Bool.eq_iff_iff, isAbsolute_iff, isAbsolute_iff]
  rcases p.parent?_cases with ⟨-, hparent⟩ | ⟨b, name, -, -, hparent, hfront⟩
  · rw [h] at hparent
    split at hparent
    next hdot =>
      obtain rfl := Option.some.inj hparent
      rw [hdot]
      decide
    next => cases hparent
  · obtain rfl := Option.some.inj (h.symm.trans hparent)
    rw [hfront]

/-- **Going up ends** at the root or at the empty path. -/
theorem parent?_eq_none_iff {p : Path} :
    p.parent? = none ↔ p.components = if p.isAbsolute then [['/']] else [] := by
  have habsolute := isAbsolute_iff (p := p)
  rcases p.parent?_cases with ⟨hnames, hparent⟩ | ⟨b, name, hname, hnames, hparent, -⟩
  · rw [hparent, components, hnames]
    rcases p.front_cases with h | h | h <;> simp_all
  · rw [hparent, components, hnames]
    rcases p.front_cases with h | h | h <;> simp_all

/-! ### A name below a path -/

/-- What follows a slash adds its names to the components of **what is before** the slash. -/
theorem components_append_slash {s : Text} (hs : s ≠ []) (t : Text) :
    (mk (s ++ '/' :: t)).components = (mk s).components ++ names t := by
  have htext : s ++ '/' :: t = (mk s).front ++ ((mk s).body ++ '/' :: t) := by
    rw [← List.append_assoc, front_append_body]
  have hfront := front_append_slash hs t
  have hbody : (mk (s ++ '/' :: t)).body = (mk s).body ++ '/' :: t := by
    rw [htext] at hfront ⊢
    exact body_of_front_eq hfront
  rw [components, components, hfront, hbody, names_append_slash, List.append_assoc]

/-- The same after the slash of the root. -/
theorem components_slash_cons (t : Text) : (mk ('/' :: t)).components = ['/'] :: names t := rfl

/-- A name has no front. -/
theorem IsName.front_eq {name : Text} (h : IsName name) : (⟨name⟩ : Path).front = [] := by
  have hslash := h.noSlash
  have hdot := h.notDot
  unfold front
  split <;> simp_all

/-- A name is not absolute. -/
theorem IsName.isAbsolute_eq {name : Text} (h : IsName name) :
    (⟨name⟩ : Path).isAbsolute = false := by
  rw [Bool.eq_false_iff, ne_eq, isAbsolute_iff, h.front_eq]
  decide

/-- A name by itself is one component. -/
theorem IsName.components_eq {name : Text} (h : IsName name) :
    (⟨name⟩ : Path).components = [name] := by
  rw [components, body, h.front_eq]
  exact h.names_eq

/-- **A name below a path** is one component more. -/
theorem components_join {name : Text} (h : IsName name) (p : Path) :
    (p.join ⟨name⟩).components = p.components ++ [name] := by
  obtain ⟨s⟩ := p
  simp only [join, h.isAbsolute_eq, Bool.false_or, decide_eq_true_eq]
  split
  next hnil =>
    subst hnil
    exact h.components_eq
  next hne =>
    split
    next hlast =>
      -- The slash at the end is the one before the name.
      obtain ⟨s, rfl⟩ := List.getLast?_eq_some_iff.mp hlast
      rw [List.append_assoc, List.singleton_append]
      by_cases hs : s = []
      · subst hs
        rw [List.nil_append, List.nil_append, components_slash_cons, components_slash_cons,
          h.names_eq]
        rfl
      · rw [components_append_slash hs, components_append_slash hs, h.names_eq, names_nil,
          List.append_nil]
    next => rw [components_append_slash hne, h.names_eq]

/-- The **parent of a name below a path** has the components of the path. -/
theorem exists_parent?_join {name : Text} (h : IsName name) (p : Path) :
    ∃ q, (p.join ⟨name⟩).parent? = some q ∧ q.components = p.components := by
  have hjoin := components_join h p
  cases hparent : (p.join ⟨name⟩).parent? with
  | none =>
      rw [parent?_eq_none_iff, hjoin] at hparent
      split at hparent
      · -- The only component of the root is no name.
        have hmem : name ∈ [['/']] := hparent ▸ List.mem_append_right _ (List.mem_singleton_self _)
        obtain rfl := List.mem_singleton.mp hmem
        exact absurd (List.mem_singleton_self '/') h.noSlash
      · exact absurd hparent (List.append_ne_nil_of_right_ne_nil _ (List.cons_ne_nil _ _))
  | some q =>
      obtain ⟨last, hlast⟩ := components_of_parent? hparent
      refine ⟨q, rfl, ?_⟩
      exact List.append_inj_left' (hlast.symm.trans hjoin) rfl

/-! ### Going up -/

/-- The path **some steps up**, if there is one. -/
def up (p : Path) : Nat → Option Path
  | 0 => some p
  | n + 1 => (p.up n).bind parent?

/-- A step up and then the others. -/
theorem up_succ (p : Path) (n : Nat) : p.up (n + 1) = p.parent?.bind fun q => q.up n := by
  induction n with
  | zero => cases h : p.parent? <;> simp [up, h]
  | succ n ih =>
      rw [up, ih]
      cases p.parent? <;> rfl

/-- **The paths above a path** are those that are reached by steps up, in this order. -/
theorem getElem?_ancestors (p : Path) (n : Nat) : p.ancestors[n]? = p.up n := by
  fun_induction ancestors p generalizing n with
  | case1 p q hq ih =>
      cases n with
      | zero => rfl
      | succ n => rw [List.getElem?_cons_succ, ih, up_succ, hq, Option.bind_some]
  | case2 p hp =>
      cases n with
      | zero => rfl
      | succ n => rw [List.getElem?_cons_succ, List.getElem?_nil, up_succ, hp, Option.bind_none]

/-- A path some steps up lacks **as many components**. -/
theorem components_of_up {p q : Path} {n : Nat} (h : p.up n = some q) :
    ∃ rest, p.components = q.components ++ rest ∧ rest.length = n := by
  induction n generalizing q with
  | zero =>
      obtain rfl := Option.some.inj h
      exact ⟨[], (List.append_nil _).symm, rfl⟩
  | succ n ih =>
      obtain ⟨r, hr, hq⟩ := Option.bind_eq_some_iff.mp h
      obtain ⟨rest, hrest, hlength⟩ := ih hr
      obtain ⟨last, hlast⟩ := components_of_parent? hq
      refine ⟨last :: rest, ?_, congrArg Nat.succ hlength⟩
      rw [hrest, hlast, List.append_assoc, List.singleton_append]

/-- Going up from an absolute path stays absolute, and from a relative one relative. -/
theorem isAbsolute_of_up {p q : Path} {n : Nat} (h : p.up n = some q) :
    q.isAbsolute = p.isAbsolute := by
  induction n generalizing q with
  | zero =>
      obtain rfl := Option.some.inj h
      rfl
  | succ n ih =>
      obtain ⟨r, hr, hq⟩ := Option.bind_eq_some_iff.mp h
      rw [isAbsolute_of_parent? hq, ih hr]

/-- **Going up from any path ends**, after no more steps than it has components, at the root if the
path is absolute and at the empty path if it is relative. -/
theorem exists_top (p : Path) : ∃ n top, n ≤ p.components.length ∧ p.up n = some top ∧
    p.up (n + 1) = none ∧ top.components = if p.isAbsolute then [['/']] else [] := by
  obtain ⟨n, top, hup, htop⟩ : ∃ n top, p.up n = some top ∧ top.parent? = none := by
    induction p using ancestors.induct with
    | case1 p q hq ih =>
        obtain ⟨n, top, hup, htop⟩ := ih
        refine ⟨n + 1, top, ?_, htop⟩
        rw [up_succ, hq, Option.bind_some, hup]
    | case2 p hp => exact ⟨0, p, rfl, hp⟩
  obtain ⟨rest, hrest, hlength⟩ := components_of_up hup
  refine ⟨n, top, ?_, hup, ?_, ?_⟩
  · rw [hrest, List.length_append, hlength]
    exact Nat.le_add_left _ _
  · rw [up, hup, Option.bind_some, htop]
  · rw [← isAbsolute_of_up hup]
    exact parent?_eq_none_iff.mp htop

end LangServer.Path
