import LangServer.Proofs.Components
import LangServer.Proofs.Layers

/-!
# The Search for a Project

A project is looked for from a directory upwards, by its path alone. This module says which settings
file is found, in terms of the paths that are reached by going up step by step, and that nothing but
that file matters: if it is at fault no other one is tried, and what lies further up makes no
difference.

Settings can be loaded for a directory or with a settings file. For a directory that has a settings
file in it the two are the same, up to the spelling of the directory that is taken for the
project's.

## Conventions

A path some steps up is `Path.up`, which goes to the parent as often as is said; going up ends at
the root or at the empty path (`Path.exists_top`).

## Main statements

* `World.nearest?_eq_some_iff`: the nearest directory is the first one on the way up.
* `World.search_exact`: which settings file is found and what depends on it.
* `Loader.loadDirectory_of_nearestAt`: loading for a directory is loading with the nearest file.
* `Loader.directory_agrees_with_file`: the two ways of loading.
-/

namespace LangServer

/-! ### The nearest settings file -/

namespace World

variable {w : World} {start root : Path} {n : Nat}

/-- A directory is the **nearest one** with a settings file in it, some steps up from a path: there
is none in a directory that fewer steps lead to. -/
structure NearestAt (w : World) (start : Path) (n : Nat) (root : Path) : Prop where
  up : start.up n = some root
  there : w.isThere (root.join projectFile)
  nearer : ∀ m < n, ∀ p, start.up m = some p → ¬ w.isThere (p.join projectFile)

/-- There is **no project** above a path if no directory on the way up has a settings file in it. -/
def NoProject (w : World) (start : Path) : Prop :=
  ∀ n p, start.up n = some p → ¬ w.isThere (p.join projectFile)

/-- **The nearest directory** is the first one on the way up. -/
theorem nearest?_eq_some_iff : w.nearest? start = some root ↔ ∃ n, w.NearestAt start n root := by
  rw [nearest?, List.find?_eq_some_iff_getElem]
  constructor
  · rintro ⟨hthere, n, hn, hroot, hnearer⟩
    refine ⟨n, ?_, hthere, ?_⟩
    · rw [← Path.getElem?_ancestors, List.getElem?_eq_getElem hn, hroot]
    · intro m hm p hp
      rw [← Path.getElem?_ancestors] at hp
      obtain ⟨_, rfl⟩ := List.getElem?_eq_some_iff.mp hp
      simpa using hnearer m hm
  · rintro ⟨n, hup, hthere, hnearer⟩
    rw [← Path.getElem?_ancestors] at hup
    obtain ⟨hn, hroot⟩ := List.getElem?_eq_some_iff.mp hup
    refine ⟨hthere, n, hn, hroot, ?_⟩
    intro m hm
    have hp := List.getElem?_eq_getElem (hm.trans hn)
    rw [Path.getElem?_ancestors] at hp
    simpa using hnearer m hm _ hp

/-- There is no nearest directory exactly if there is no project. -/
theorem nearest?_eq_none_iff : w.nearest? start = none ↔ w.NoProject start := by
  rw [nearest?, List.find?_eq_none]
  constructor
  · intro h n p hp
    rw [← Path.getElem?_ancestors] at hp
    exact h p (List.mem_of_getElem? hp)
  · intro h p hp
    obtain ⟨n, hn⟩ := List.mem_iff_getElem?.mp hp
    rw [Path.getElem?_ancestors] at hn
    exact h n p hn

/-- **The settings of the nearest project** and its directory are those of one file. -/
theorem projectSettings_of_nearestAt (h : w.NearestAt start n root) :
    w.projectSettings start =
      (w.readSettings (root.join projectFile)).map fun s => (some root, s) := by
  have hnearest : w.nearest? start = some root := nearest?_eq_some_iff.mpr ⟨n, h⟩
  rw [projectSettings, searchUp_eq_find?, hnearest]

/-- Without a project there are no settings at all. -/
theorem projectSettings_of_noProject (h : w.NoProject start) :
    w.projectSettings start = .ok (none, {}) := by
  rw [projectSettings, searchUp_eq_find?, nearest?_eq_none_iff.mpr h]

/-- There is a nearest project, or there is none. -/
theorem nearestAt_or_noProject (w : World) (start : Path) :
    (∃ n root, w.NearestAt start n root) ∨ w.NoProject start := by
  cases h : w.nearest? start with
  | none => exact Or.inr (nearest?_eq_none_iff.mp h)
  | some root =>
      obtain ⟨n, hn⟩ := nearest?_eq_some_iff.mp h
      exact Or.inl ⟨n, root, hn⟩

/-- There is only one nearest project. -/
theorem NearestAt.unique {m : Nat} {root' : Path} (h : w.NearestAt start n root)
    (h' : w.NearestAt start m root') : root = root' := by
  have hnearest := nearest?_eq_some_iff.mpr ⟨n, h⟩
  have hnearest' := nearest?_eq_some_iff.mpr ⟨m, h'⟩
  exact Option.some.inj (hnearest.symm.trans hnearest')

/-- A nearest project is a project. -/
theorem NearestAt.not_noProject (h : w.NearestAt start n root) : ¬ w.NoProject start :=
  fun hnone => hnone n root h.up h.there

/-- A project is the nearest one **in any other world** that has the same file there and none
nearer. -/
theorem NearestAt.of_agree {w' : World} (h : w.NearestAt start n root)
    (hnearer : ∀ m < n, ∀ p, start.up m = some p →
      w'.isThere (p.join projectFile) = w.isThere (p.join projectFile))
    (hfile : w'.look (root.join projectFile) = w.look (root.join projectFile)) :
    w'.NearestAt start n root := by
  refine ⟨h.up, ?_, ?_⟩
  · rw [isThere, hfile]
    exact h.there
  · intro m hm p hp
    rw [hnearer m hm p hp]
    exact h.nearer m hm p hp

/-- The settings of a file depend on what its path leads to. -/
theorem readSettings_congr {w' : World} {p : Path} (h : w'.look p = w.look p) :
    w'.readSettings p = w.readSettings p := by
  rw [readSettings, readSettings, h]

end World

/-! ### Loading for a directory -/

namespace Loader

open World (NearestAt NoProject)

variable {w : World} {start root : Path} {n : Nat}

/-- **Loading for a directory** is loading with the nearest settings file, except that the directory
of the project is the one that was reached by going up. -/
theorem loadDirectory_of_nearestAt (h : w.NearestAt start n root) (l : Loader) :
    l.loadDirectory w start =
      ((l.loadFile w (root.join projectFile)).1,
        (l.loadFile w (root.join projectFile)).2.map fun c =>
          { c with projectRoot := some root }) := by
  rw [loadDirectory, loadFile, World.projectSettings_of_nearestAt h]
  cases w.readSettings (root.join projectFile) with
  | error e => rfl
  | ok project =>
      simp only [Except.map]
      cases l.layer w project <;> rfl

/-- What is loaded for a directory has the directory of the nearest project. -/
theorem projectRoot_of_nearestAt (h : w.NearestAt start n root) {l : Loader} {config : Config}
    (hload : (l.loadDirectory w start).2 = .ok config) : config.projectRoot = some root := by
  rw [loadDirectory_of_nearestAt h] at hload
  obtain ⟨c, -, rfl⟩ := Except.exists_of_map_eq_ok hload
  rfl

/-- What is loaded with a settings file has the directory of the file. -/
theorem projectRoot_of_loadFile {l : Loader} {file : Path} {config : Config}
    (hload : (l.loadFile w file).2 = .ok config) : config.projectRoot = file.parent? := by
  rw [loadFile] at hload
  split at hload
  · cases hload
  · obtain ⟨settings, -, rfl⟩ := Except.exists_of_map_eq_ok hload
    rfl

/-- Without a project it has none. -/
theorem projectRoot_of_noProject (h : w.NoProject start) {l : Loader} {config : Config}
    (hload : (l.loadDirectory w start).2 = .ok config) : config.projectRoot = none := by
  rw [loadDirectory, World.projectSettings_of_noProject h] at hload
  obtain ⟨settings, -, rfl⟩ := Except.exists_of_map_eq_ok hload
  rfl

end Loader

/-! ### What is found -/

namespace World

variable {w : World} {start : Path}

/-- Settings of a project are found in a directory exactly if it is the nearest one and its settings
file **can be read**. -/
theorem projectSettings_eq_some_iff {root : Path} {s : Settings} :
    w.projectSettings start = .ok (some root, s) ↔
      (∃ n, w.NearestAt start n root) ∧ w.readSettings (root.join projectFile) = .ok s := by
  constructor
  · intro h
    rcases w.nearestAt_or_noProject start with ⟨n, root', hnear⟩ | hnone
    · rw [projectSettings_of_nearestAt hnear] at h
      obtain ⟨s', hread, hpair⟩ := Except.exists_of_map_eq_ok h
      obtain ⟨hroot, rfl⟩ := Prod.mk.inj hpair
      obtain rfl := Option.some.inj hroot
      exact ⟨⟨n, hnear⟩, hread⟩
    · rw [projectSettings_of_noProject hnone] at h
      cases h
  · rintro ⟨⟨n, hnear⟩, hread⟩
    rw [projectSettings_of_nearestAt hnear, hread]
    rfl

/-- No project is found exactly if **there is none**. -/
theorem projectSettings_eq_none_iff {s : Settings} :
    w.projectSettings start = .ok (none, s) ↔ w.NoProject start ∧ s = {} := by
  constructor
  · intro h
    rcases w.nearestAt_or_noProject start with ⟨n, root, hnear⟩ | hnone
    · rw [projectSettings_of_nearestAt hnear] at h
      obtain ⟨s', -, hpair⟩ := Except.exists_of_map_eq_ok h
      cases (Prod.mk.inj hpair).1
    · rw [projectSettings_of_noProject hnone] at h
      exact ⟨hnone, (Prod.mk.inj (Except.ok.inj h)).2.symm⟩
  · rintro ⟨hnone, rfl⟩
    exact projectSettings_of_noProject hnone

/-- The search fails exactly if the **nearest settings file** does. -/
theorem projectSettings_eq_error_iff {e : SettingsError} :
    w.projectSettings start = .error e ↔
      ∃ n root, w.NearestAt start n root ∧ w.readSettings (root.join projectFile) = .error e := by
  constructor
  · intro h
    rcases w.nearestAt_or_noProject start with ⟨n, root, hnear⟩ | hnone
    · rw [projectSettings_of_nearestAt hnear] at h
      exact ⟨n, root, hnear, Except.eq_error_of_map_eq_error h⟩
    · rw [projectSettings_of_noProject hnone] at h
      cases h
  · rintro ⟨n, root, hnear, hread⟩
    rw [projectSettings_of_nearestAt hnear, hread]
    rfl

/-- **The search finds the nearest settings file and nothing else matters.** Going up from any path
ends, at the root or at the empty path. The settings of a project, or the error, are those of the
first settings file on the way up, and there are none at all if there is no such file. What is
loaded for a directory fails with that error, and it has the directory of that file or none. Another
world with no nearer settings file and the same file there has the same project. -/
theorem search_exact (w : World) (start : Path) :
    (∃ n top, n ≤ start.components.length ∧ start.up n = some top ∧ start.up (n + 1) = none ∧
      top.components = if start.isAbsolute then [['/']] else []) ∧
    (∀ root s, w.projectSettings start = .ok (some root, s) ↔
      (∃ n, w.NearestAt start n root) ∧ w.readSettings (root.join projectFile) = .ok s) ∧
    (∀ s, w.projectSettings start = .ok (none, s) ↔ w.NoProject start ∧ s = {}) ∧
    (∀ e, w.projectSettings start = .error e ↔
      ∃ n root, w.NearestAt start n root ∧ w.readSettings (root.join projectFile) = .error e) ∧
    (∀ (l : Loader) e, w.projectSettings start = .error e →
      (l.loadDirectory w start).2 = .error e) ∧
    (∀ (l : Loader) config, (l.loadDirectory w start).2 = .ok config →
      (∀ root, config.projectRoot = some root ↔ ∃ n, w.NearestAt start n root) ∧
      (config.projectRoot = none ↔ w.NoProject start)) ∧
    ∀ (w' : World) n root, w.NearestAt start n root →
      (∀ m < n, ∀ p, start.up m = some p →
        w'.isThere (p.join projectFile) = w.isThere (p.join projectFile)) →
      w'.look (root.join projectFile) = w.look (root.join projectFile) →
        w'.projectSettings start = w.projectSettings start := by
  refine ⟨start.exists_top, fun _ _ => projectSettings_eq_some_iff,
    fun _ => projectSettings_eq_none_iff, fun _ => projectSettings_eq_error_iff, ?_, ?_, ?_⟩
  · intro l e h
    rw [Loader.loadDirectory, h]
  · intro l config hload
    rcases w.nearestAt_or_noProject start with ⟨n, root, hnear⟩ | hnone
    · rw [Loader.projectRoot_of_nearestAt hnear hload]
      refine ⟨fun root' => ⟨?_, ?_⟩, iff_of_false (Option.some_ne_none root) hnear.not_noProject⟩
      · intro hroot
        obtain rfl := Option.some.inj hroot
        exact ⟨n, hnear⟩
      · rintro ⟨m, hnear'⟩
        rw [hnear.unique hnear']
    · rw [Loader.projectRoot_of_noProject hnone hload]
      refine ⟨fun root => iff_of_false (Option.some_ne_none root).symm ?_, iff_of_true rfl hnone⟩
      rintro ⟨n, hnear⟩
      exact hnear.not_noProject hnone
  · intro w' n root hnear hnearer hfile
    rw [projectSettings_of_nearestAt (hnear.of_agree hnearer hfile),
      projectSettings_of_nearestAt hnear, readSettings_congr hfile]

/-- A disk with a settings file that is at fault below one that is not. -/
def nestedDisk : Disk where
  entries :=
    [(["x".toList], .directory), (["x".toList, "y".toList], .directory),
      (["x".toList, "buglang.toml".toList], .file "=".toUTF8),
      (["buglang.toml".toList], .file "".toUTF8)]

/-- The world of that disk, at its root. -/
def nestedWorld : World :=
  .ofDisk nestedDisk [] [] none

/-- From a directory two steps below the root the file that is at fault decides, whether or not
there is another one. From one beside it the file at the root is found. -/
theorem search_exact_nested :
    nestedWorld.NearestAt (.ofString "/x//./y/") 1 (.ofString "/x") ∧
      (({} : Loader).loadDirectory nestedWorld (.ofString "/x//./y/")).2 =
        .error (.malformed "/x/buglang.toml" .notToml) ∧
      (World.ofDisk ⟨nestedDisk.entries.dropLast⟩ [] [] none).projectSettings
          (.ofString "/x//./y/") = nestedWorld.projectSettings (.ofString "/x//./y/") ∧
      (({} : Loader).loadDirectory nestedWorld (.ofString "/z")).2 =
        .ok ⟨{}, some (.ofString "/")⟩ ∧
      ∃ n, nestedWorld.NearestAt (.ofString "/z") n (.ofString "/") := by
  have hnear : nestedWorld.NearestAt (.ofString "/x//./y/") 1 (.ofString "/x") := by
    refine ⟨by decide +kernel, by decide +kernel, ?_⟩
    intro m hm p hp
    obtain rfl : m = 0 := by omega
    obtain rfl := Option.some.inj hp
    decide +kernel
  have hread : nestedWorld.readSettings ((Path.ofString "/x").join projectFile) =
      .error (.malformed "/x/buglang.toml" .notToml) :=
    SettingsError.eq_error_of_of? (by decide +kernel)
  have hload : (({} : Loader).loadDirectory nestedWorld (.ofString "/z")).2 =
      .ok ⟨{}, some (.ofString "/")⟩ :=
    Except.eq_ok_of_toOption (by decide +kernel)
  obtain ⟨-, -, -, herror, hfails, -, hagree⟩ := search_exact nestedWorld (.ofString "/x//./y/")
  obtain ⟨-, -, -, -, -, hroots, -⟩ := search_exact nestedWorld (.ofString "/z")
  refine ⟨hnear, hfails {} _ ((herror _).mpr ⟨_, _, hnear, hread⟩), ?_, hload, ?_⟩
  · refine hagree _ 1 _ hnear ?_ rfl
    intro m hm p hp
    obtain rfl : m = 0 := by omega
    obtain rfl := Option.some.inj hp
    decide +kernel
  · exact ((hroots {} _ hload).1 _).mp rfl

end World

/-! ### Two ways of loading -/

/-- The name of a project's settings file is a name. -/
theorem isName_projectFile : Path.IsName projectFile.text :=
  ⟨by decide, by decide, by decide⟩

namespace Loader

/-- **The two ways of loading agree.** For a directory with a settings file in it, however its path
is written, loading for the directory and loading with that file remember the same and give the same
settings or the same error. The first takes the directory itself for that of the project, and the
second one with the same components. -/
theorem directory_agrees_with_file (l : Loader) (w : World) (dir : Path)
    (h : w.isThere (dir.join projectFile)) :
    (l.loadDirectory w dir).1 = (l.loadFile w (dir.join projectFile)).1 ∧
    (l.loadDirectory w dir).2.map Config.settings =
      (l.loadFile w (dir.join projectFile)).2.map Config.settings ∧
    ∀ config, (l.loadDirectory w dir).2 = .ok config →
      ∃ config' root, (l.loadFile w (dir.join projectFile)).2 = .ok config' ∧
        config.projectRoot = some dir ∧ config'.projectRoot = some root ∧
          root.components = dir.components := by
  have hnear : w.NearestAt dir 0 dir := ⟨rfl, h, nofun⟩
  have hload := loadDirectory_of_nearestAt hnear l
  refine ⟨?_, ?_, ?_⟩
  · rw [hload]
  · rw [hload]
    cases (l.loadFile w (dir.join projectFile)).2 <;> rfl
  · intro config hconfig
    rw [hload] at hconfig
    obtain ⟨config', hfile, rfl⟩ := Except.exists_of_map_eq_ok hconfig
    obtain ⟨root, hparent, hcomponents⟩ := Path.exists_parent?_join isName_projectFile dir
    exact ⟨config', root, hfile, rfl, (projectRoot_of_loadFile hfile).trans hparent, hcomponents⟩

/-- The root, written with a slash and a component more than needed. -/
theorem directory_agrees_with_file_root :
    World.nestedWorld.isThere ((Path.ofString "//.").join projectFile) ∧
      (({} : Loader).loadDirectory World.nestedWorld (.ofString "//.")).2 =
        .ok ⟨{}, some (.ofString "//.")⟩ ∧
      ∃ config' root,
        (({} : Loader).loadFile World.nestedWorld (.ofString "//./buglang.toml")).2 = .ok config' ∧
          config'.projectRoot = some root ∧ root.components = (Path.ofString "//.").components := by
  have hthere : World.nestedWorld.isThere ((Path.ofString "//.").join projectFile) := by
    decide +kernel
  have hload : (({} : Loader).loadDirectory World.nestedWorld (.ofString "//.")).2 =
      .ok ⟨{}, some (.ofString "//.")⟩ :=
    Except.eq_ok_of_toOption (by decide +kernel)
  obtain ⟨-, -, hroots⟩ := directory_agrees_with_file {} World.nestedWorld (.ofString "//.") hthere
  obtain ⟨config', root, hfile, -, hroot, hcomponents⟩ := hroots _ hload
  exact ⟨hthere, hload, config', root, hfile, hroot, hcomponents⟩

end Loader

end LangServer
