/-!
# The Last Value Given

Several things may be said of one matter, and then the last one counts: a section of the settings
that more than one layer has, a name that is described more than once, a settings file above a
directory with others above it. This module says which value that is by the place where it is given:
no entry after that place gives another one.

## Main statements

* `lastGiven_iff`: the last value given is the first one from the end.
* `LastGiven.append`: later entries hide earlier ones, and do so only where they give a value.
-/

namespace LangServer

variable {α β : Type} {value : α → Option β}

/-- The **last value given** by some entries: that of an entry after which none gives a value, or
nothing if no entry gives one. -/
def LastGiven (value : α → Option β) (entries : List α) : Option β → Prop
  | some v => ∃ before entry after, entries = before ++ entry :: after ∧ value entry = some v ∧
      ∀ e ∈ after, value e = none
  | none => ∀ e ∈ entries, value e = none

/-- The last value given is the first one **from the end**. -/
theorem lastGiven_iff {entries : List α} {o : Option β} :
    LastGiven value entries o ↔ entries.reverse.findSome? value = o := by
  cases o with
  | none =>
      rw [List.findSome?_eq_none_iff]
      simp only [LastGiven, List.mem_reverse]
  | some v =>
      rw [List.findSome?_eq_some_iff]
      constructor
      · rintro ⟨before, entry, after, rfl, hv, hafter⟩
        refine ⟨after.reverse, entry, before.reverse, ?_, hv, fun e he => ?_⟩
        · simp only [List.reverse_append, List.reverse_cons, List.append_assoc,
            List.singleton_append]
        · exact hafter e (List.mem_reverse.mp he)
      · rintro ⟨after, entry, before, hentries, hv, hafter⟩
        refine ⟨before.reverse, entry, after.reverse, ?_, hv, fun e he => ?_⟩
        · rw [← List.reverse_reverse entries, hentries]
          simp only [List.reverse_append, List.reverse_cons, List.append_assoc,
            List.singleton_append]
        · exact hafter e (List.mem_reverse.mp he)

/-- There is **one** last value given. -/
theorem LastGiven.unique {entries : List α} {o o' : Option β} (h : LastGiven value entries o)
    (h' : LastGiven value entries o') : o = o' :=
  (lastGiven_iff.mp h).symm.trans (lastGiven_iff.mp h')

/-- Later entries **hide** earlier ones where they give a value. -/
theorem LastGiven.append {earlier later : List α} {o o' : Option β}
    (h : LastGiven value earlier o) (h' : LastGiven value later o') :
    LastGiven value (earlier ++ later) (o'.or o) := by
  rw [lastGiven_iff] at h h' ⊢
  rw [List.reverse_append, List.findSome?_append, h, h']

/-- The last value of a single entry is its own. -/
theorem lastGiven_singleton (value : α → Option β) (entry : α) :
    LastGiven value [entry] (value entry) :=
  lastGiven_iff.mpr (by simp)

end LangServer
