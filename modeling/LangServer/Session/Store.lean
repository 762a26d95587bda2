import LangServer.Document
import LangServer.Uri.Reader

/-!
# The Document Store

The open documents by their URIs. A store is known by what `get?` finds in it; the lemmas say how
`insert` and `erase` change that.
-/

namespace LangServer

/-- The open documents by their URIs; the first entry of a URI counts. -/
structure Store where
  entries : List (Uri × Document) := []

namespace Store

/-- The document of a URI, if it is open. -/
def get? (s : Store) (uri : Uri) : Option Document :=
  s.entries.lookup uri

/-- The store without the document of a URI. -/
def erase (s : Store) (uri : Uri) : Store :=
  ⟨s.entries.filter (·.1 ≠ uri)⟩

/-- The store with a document for a URI, in place of one that may be there. -/
def insert (s : Store) (uri : Uri) (d : Document) : Store :=
  ⟨(uri, d) :: (s.erase uri).entries⟩

/-- Nothing is open in an empty store. -/
@[simp] theorem get?_empty (uri : Uri) : ({} : Store).get? uri = none := rfl

/-- Looking for a URI in a list whose first key it is. -/
theorem lookup_cons_self (uri : Uri) (d : Document) (es : List (Uri × Document)) :
    ((uri, d) :: es).lookup uri = some d := by
  simp

/-- Looking for a URI in a list whose first key is another one. -/
theorem lookup_cons_of_ne {uri key : Uri} (h : uri ≠ key) (d : Document)
    (es : List (Uri × Document)) : ((key, d) :: es).lookup uri = es.lookup uri := by
  have hbeq : (uri == key) = false := by simpa using h
  simp [List.lookup_cons, hbeq]

/-- A closed document is gone, and no other one is. -/
@[simp] theorem get?_erase (s : Store) (uri other : Uri) :
    (s.erase uri).get? other = if other = uri then none else s.get? other := by
  obtain ⟨es⟩ := s
  unfold erase get?
  induction es with
  | nil => simp
  | cons e es ih =>
    obtain ⟨key, d⟩ := e
    by_cases hk : key = uri
    · rw [List.filter_cons_of_neg (by simpa using hk), ih]
      by_cases ho : other = uri
      · simp [ho]
      · rw [if_neg ho, if_neg ho, lookup_cons_of_ne (hk ▸ ho)]
    · rw [List.filter_cons_of_pos (by simpa using hk)]
      by_cases ho : other = key
      · subst ho
        rw [lookup_cons_self, lookup_cons_self, if_neg hk]
      · rw [lookup_cons_of_ne ho, lookup_cons_of_ne ho, ih]

/-- An opened document is found, and every other URI finds what it did. -/
@[simp] theorem get?_insert (s : Store) (uri other : Uri) (d : Document) :
    (s.insert uri d).get? other = if other = uri then some d else s.get? other := by
  by_cases ho : other = uri
  · subst ho
    rw [if_pos rfl]
    exact lookup_cons_self other d _
  · have herase := get?_erase s uri other
    rw [if_neg ho] at herase
    rw [if_neg ho, ← herase]
    exact lookup_cons_of_ne ho d _

end Store

end LangServer
