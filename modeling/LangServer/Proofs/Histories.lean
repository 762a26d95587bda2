import LangServer.Proofs.Layers

/-!
# What a Loader Remembers

A loader is called again and again, for directories and for files, while the world changes around
it: files are written, variables set, the home directory moved. The one thing that it carries from
call to call is the path of the user's own settings file. This module says when that path is fixed,
and that nothing else of the history of a loader shows in what it loads.

## Conventions

Each call comes with the world as it is then, so nothing is assumed about what happens between
calls. A call reaches the user's own settings if it does not fail over the settings of the project.
A loader may be built with a path or without one; every loader is the one that was built with the
path that it has, or without one.

## Main statements

* `Loader.globalPath_after`: the path that is remembered after some calls.
* `Loader.history_independent`: each call gives what a new loader would give, as long as the home
  directory is the one that the first call to reach the user's own settings found.
-/

namespace LangServer

/-- A call with the **world as it is then**. -/
structure Occasion where
  world : World
  call : LoadCall

namespace Occasion

/-- The settings of the project that a call is about. -/
def project (o : Occasion) : Except SettingsError Settings :=
  match o.call with
  | .directory start => o.world.nearestSettings start
  | .file path => o.world.readSettings path

/-- The directory of the project that a call is about. -/
def root? (o : Occasion) : Option Path :=
  match o.call with
  | .directory start => o.world.nearest? start
  | .file path => path.parent?

/-- Whether a call **reaches the user's own settings**: it does unless the settings of the project
are at fault. -/
def reachesOwn (o : Occasion) : Bool :=
  (SettingsError.of? o.project).isNone

/-- The same call with another home directory. -/
def withHome (o : Occasion) (home : Option Path) : Occasion :=
  { o with world := { o.world with home } }

/-- The home directory that the first of some calls found that reached the user's own settings, of
those that found one. -/
def homeSeen? (os : List Occasion) : Option Path :=
  (os.filter reachesOwn).findSome? (·.world.home)

end Occasion

namespace Loader

/-- What a call gives, with the loader after it. -/
def load (l : Loader) (o : Occasion) : Loader × Except SettingsError Config :=
  match o.call with
  | .directory start => l.loadDirectory o.world start
  | .file path => l.loadFile o.world path

/-- The loader after some calls. -/
def after (l : Loader) (os : List Occasion) : Loader :=
  os.foldl (fun l o => (l.load o).1) l

/-- What some calls give, one after another. -/
def results (l : Loader) : List Occasion → List (Except SettingsError Config)
  | [] => []
  | o :: os => (l.load o).2 :: (l.load o).1.results os

/-- The first call comes first. -/
@[simp] theorem after_cons (l : Loader) (o : Occasion) (os : List Occasion) :
    l.after (o :: os) = (l.load o).1.after os := rfl

/-! ### One call -/

/-- **What a call gives**: the error of the project, and nothing is remembered; or else the layers
over the settings of the project, whatever comes of them. -/
theorem load_eq (l : Loader) (o : Occasion) :
    l.load o = match o.project with
      | .error e => (l, .error e)
      | .ok project =>
        (l.remember o.world, (l.layer o.world project).map fun s => ⟨s, o.root?⟩) := by
  obtain ⟨w, call⟩ := o
  cases call with
  | directory start =>
      simp only [load, Occasion.project, Occasion.root?, loadDirectory, World.projectSettings_eq]
      cases w.nearestSettings start <;> rfl
  | file path =>
      cases h : w.readSettings path <;>
        simp [load, Occasion.project, Occasion.root?, loadFile, h]

/-- What is remembered after a call. -/
theorem globalPath_load (l : Loader) (o : Occasion) :
    (l.load o).1.globalPath =
      l.globalPath.or (if o.reachesOwn then o.world.home.map Path.ownSettings else none) := by
  rw [load_eq, Occasion.reachesOwn]
  cases o.project with
  | error e => exact (Option.or_none).symm
  | ok project => rfl

/-- What a call gives depends on the loader by where it looks for the user's own settings, and on
the home directory by nothing else. -/
theorem load_withHome {l l' : Loader} {o : Occasion} {home : Option Path}
    (h : l.globalFile? o.world = l'.globalFile? { o.world with home }) :
    (l.load o).2 = (l'.load (o.withHome home)).2 := by
  have hproject : (o.withHome home).project = o.project := by
    obtain ⟨w, call⟩ := o
    cases call <;> rfl
  have hroot : (o.withHome home).root? = o.root? := by
    obtain ⟨w, call⟩ := o
    cases call <;> rfl
  have hlayer : ∀ project, l.layer o.world project = l'.layer { o.world with home } project := by
    intro project
    rw [layer, layer, globalSettings, globalSettings, h]
    rfl
  rw [load_eq, load_eq, hproject, hroot]
  cases o.project with
  | error e => rfl
  | ok project =>
      simp only [hlayer]
      rfl

/-! ### Many calls -/

/-- **What is remembered** after some calls: the path that the loader was built with, or else that
in the home directory that was seen first. -/
theorem globalPath_after (l : Loader) (os : List Occasion) :
    (l.after os).globalPath = l.globalPath.or ((Occasion.homeSeen? os).map Path.ownSettings) := by
  induction os generalizing l with
  | nil => exact (Option.or_none).symm
  | cons o os ih =>
      rw [after_cons, ih, globalPath_load, Option.or_assoc]
      congr 1
      cases hreaches : o.reachesOwn with
      | false => simp [Occasion.homeSeen?, hreaches]
      | true => cases hhome : o.world.home <;> simp [Occasion.homeSeen?, hreaches, hhome]

/-- A home directory that was seen is that of one of the calls. -/
theorem exists_of_homeSeen? {os : List Occasion} {home : Path}
    (h : Occasion.homeSeen? os = some home) : ∃ o ∈ os, o.world.home = some home := by
  obtain ⟨o, ho, hhome⟩ := List.exists_of_findSome?_eq_some h
  exact ⟨o, (List.mem_filter.mp ho).1, hhome⟩

/-- **Loading does not depend on the history** of a loader. As long as the home directory is the
same at all calls, each gives what the loader would give if it were new. Whatever becomes of the
home directory, each call looks for the user's own settings where the first call to reach them did,
and gives what a new loader would give in that home directory. Calls that do not reach them leave
the loader as it was built. -/
theorem history_independent (l : Loader) (os : List Occasion) (o : Occasion) :
    ((∀ p ∈ os, p.world.home = o.world.home) → ((l.after os).load o).2 = (l.load o).2) ∧
    (l.after os).globalFile? o.world =
      l.globalPath.or (((Occasion.homeSeen? os).or o.world.home).map Path.ownSettings) ∧
    ((l.after os).load o).2 =
      (l.load (o.withHome ((Occasion.homeSeen? os).or o.world.home))).2 ∧
    ((∀ p ∈ os, p.reachesOwn = false) → l.after os = l) := by
  have hfile : (l.after os).globalFile? o.world =
      l.globalPath.or (((Occasion.homeSeen? os).or o.world.home).map Path.ownSettings) := by
    rw [globalFile?, globalPath_after, Option.or_assoc, Option.map_or]
  have hload : ((l.after os).load o).2 =
      (l.load (o.withHome ((Occasion.homeSeen? os).or o.world.home))).2 := by
    refine load_withHome ?_
    rw [hfile, globalFile?]
  refine ⟨?_, hfile, hload, ?_⟩
  · intro hhome
    have hsame : (Occasion.homeSeen? os).or o.world.home = o.world.home := by
      cases hseen : Occasion.homeSeen? os with
      | none => rfl
      | some home =>
          obtain ⟨p, hp, hp'⟩ := exists_of_homeSeen? hseen
          rw [Option.some_or, ← hp', hhome p hp]
    rw [hload, hsame]
    rfl
  · intro hfailed
    have hseen : Occasion.homeSeen? os = none := by
      rw [Occasion.homeSeen?, List.filter_eq_nil_iff.mpr fun p hp => by simp [hfailed p hp]]
      rfl
    have hpath := globalPath_after l os
    rw [hseen, Option.map_none, Option.or_none] at hpath
    calc l.after os = ⟨(l.after os).globalPath⟩ := rfl
      _ = l := by rw [hpath]

/-- A call with a file, in a world with an empty settings file and a home directory. Of two home
directories one has a settings file of the user's own. -/
def callIn (home path : String) : Occasion where
  world :=
    { look := fun p =>
        if p = .ofString "/project.toml" then .file "".toUTF8
        else if p = .ofString "/home/a/.buglang/config.toml" then
          .file "[completion]\nenabled = false\n".toUTF8
        else .absent
      environment := fun _ => none
      home := some (.ofString home) }
  call := .file (.ofString path)

/-- A loader forgets a call with a file that is not there. It gives what a new one would give as
long as the home directory stays, and the same still when it has moved, though a new loader would
then give something else. -/
theorem history_independent_moved :
    ({} : Loader).after [callIn "/home/a" "/none.toml"] = {} ∧
      ((({} : Loader).after [callIn "/home/a" "/none.toml", callIn "/home/a" "/project.toml"]).load
          (callIn "/home/a" "/project.toml")).2 =
        (({} : Loader).load (callIn "/home/a" "/project.toml")).2 ∧
      ((({} : Loader).after [callIn "/home/a" "/none.toml", callIn "/home/a" "/project.toml"]).load
          (callIn "/home/b" "/project.toml")).2 =
        (({} : Loader).load (callIn "/home/a" "/project.toml")).2 ∧
      (({} : Loader).load (callIn "/home/a" "/project.toml")).2 =
        .ok ⟨{ completion := some { enabled := some false } }, some (.ofString "/")⟩ ∧
      (({} : Loader).load (callIn "/home/b" "/project.toml")).2 =
        .ok ⟨{}, some (.ofString "/")⟩ := by
  refine ⟨?_, ?_, ?_, Except.eq_ok_of_toOption (by decide +kernel),
    Except.eq_ok_of_toOption (by decide +kernel)⟩
  · refine (history_independent {} _ (callIn "/home/a" "/project.toml")).2.2.2 ?_
    rw [List.forall_mem_singleton]
    rfl
  · refine (history_independent {} _ (callIn "/home/a" "/project.toml")).1 ?_
    simp [callIn]
  · exact (history_independent {} _ (callIn "/home/b" "/project.toml")).2.2.1

end Loader

end LangServer
