import LangServer.Text.Units

/-!
# Paths

A path is a text; a slash in front makes it absolute, and slashes part its components. Empty
components and the component `.` do not count, except a `.` at the very start of a relative path.
The component `..` counts like any other: a path is taken as it is written, and only a look-up in
storage gives `..` its meaning.

## Main definitions

* `Path.join`: a name below a path.
* `Path.parent?`: the path without its last component.
* `Path.ancestors`: a path and all paths above it.

## Main statements

* `Path.length_parent?_lt`: going to the parent makes a path shorter, so going up ends.
-/

namespace LangServer

/-- A path as it is written. -/
structure Path where
  text : Text
  deriving DecidableEq, Repr

namespace Path

/-- The path with these characters. -/
def ofString (s : String) : Path := ⟨s.toList⟩

/-- The characters of a path as a string. -/
def toString (p : Path) : String := String.ofList p.text

/-- Whether a path starts at the root. -/
def isAbsolute (p : Path) : Bool :=
  p.text.head? = some '/'

/-- A path below another one; an absolute path stays as it is. -/
def join (p q : Path) : Path :=
  if q.isAbsolute || p.text = [] then q
  else if p.text.getLast? = some '/' then ⟨p.text ++ q.text⟩
  else ⟨p.text ++ '/' :: q.text⟩

/-- The start of a path that is not made of ordinary components: the slash of an absolute path,
or the leading `.` of a relative one. -/
def front (p : Path) : Text :=
  match p.text with
  | '/' :: _ => ['/']
  | ['.'] => ['.']
  | '.' :: '/' :: _ => ['.']
  | _ => []

/-- What follows the front of a path. -/
def body (p : Path) : Text :=
  p.text.drop p.front.length

/-- A reversed body without the components at its end that do not count. -/
def dropIdle : Text → Text
  | '/' :: r => dropIdle r
  | '.' :: '/' :: r => dropIdle r
  | ['.'] => []
  | r => r

/-- The path without its last component, if it has one. -/
def parent? (p : Path) : Option Path :=
  match dropIdle p.body.reverse with
  | [] => if p.front = ['.'] then some ⟨[]⟩ else none
  | r => some ⟨p.front ++ (dropIdle (r.dropWhile (· ≠ '/'))).reverse⟩

/-! ### Going up ends -/

/-- Dropping idle components does not make a body longer. -/
theorem length_dropIdle_le (t : Text) : (dropIdle t).length ≤ t.length := by
  fun_induction dropIdle t <;> simp <;> omega

/-- What is left starts with no slash. -/
theorem head?_dropIdle_ne (t : Text) : (dropIdle t).head? ≠ some '/' := by
  fun_induction dropIdle t with
  | case1 r ih => exact ih
  | case2 r ih => exact ih
  | case3 => simp
  | case4 t h₁ _ _ =>
    intro h
    cases t with
    | nil => simp at h
    | cons c r =>
      obtain rfl : c = '/' := by simpa using h
      exact h₁ r rfl

/-- A path is its front and its body. -/
theorem front_append_body (p : Path) : p.front ++ p.body = p.text := by
  obtain ⟨t⟩ := p
  unfold body front
  split <;> simp_all

/-- Going to the parent makes a path shorter. -/
theorem length_parent?_lt {p q : Path} (h : p.parent? = some q) :
    q.text.length < p.text.length := by
  have hsplit : p.front.length + p.body.length = p.text.length := by
    rw [← List.length_append, front_append_body]
  have hle := length_dropIdle_le p.body.reverse
  have hhead := head?_dropIdle_ne p.body.reverse
  unfold parent? at h
  cases hr : dropIdle p.body.reverse with
  | nil =>
    rw [hr] at h
    by_cases hf : p.front = ['.']
    · simp only [hf, if_true, Option.some.injEq] at h
      rw [← h]
      rw [hf] at hsplit
      simp only [List.length_cons, List.length_nil] at hsplit ⊢
      omega
    · simp [hf] at h
  | cons c r =>
    rw [hr] at h hle hhead
    have hc : c ≠ '/' := by simpa using hhead
    have hdrop : ((c :: r).dropWhile (· ≠ '/')).length ≤ r.length := by
      simp only [List.dropWhile_cons, ne_eq, hc, not_false_eq_true, decide_true, if_true]
      exact (List.dropWhile_suffix _).length_le
    have hidle := length_dropIdle_le ((c :: r).dropWhile (· ≠ '/'))
    simp only [Option.some.injEq] at h
    rw [← h]
    simp only [List.length_append, List.length_reverse, List.length_cons] at hle ⊢
    omega

/-- A path and all paths above it, from the longest to the shortest. -/
def ancestors (p : Path) : List Path :=
  match _h : p.parent? with
  | some q => p :: ancestors q
  | none => [p]
termination_by p.text.length
decreasing_by exact length_parent?_lt _h

end Path

end LangServer
