import Mathlib.Data.List.Induction
import LangServer.Proofs.LastGiven
import LangServer.Proofs.Places
import LangServer.Proofs.Search

/-!
# Directories and Their Spellings

A directory can be written in many ways, and two spellings of one directory lead to the same place
on the disk. The search for a project does not go up from that place: it goes back along the path as
it is written, so it meets the places that the path passes on its way. These can be other ones than
the places above the directory. With `..` a path passes places that it leaves again, and a relative
path passes none above the working directory.

This module says which settings file is found in terms of places, when it is the nearest one above
the directory, and that two spellings of one directory load the same if it is for both.

## Main statements

* `World.map_place_nearest?`: the search finds the last place passed that has a settings file.
* `Disk.faithful_iff`: when this is the nearest such place above the directory.
* `Loader.load_by_place`: spellings of one directory that load the same.
* `Loader.spelling_matters`: spellings of one directory that do not.
-/

namespace LangServer

/-! ### The last place with a settings file -/

namespace Disk

variable {d : Disk} {place : Place}

/-- Whether there is a settings file at a place. -/
def hasSettings (d : Disk) (place : Place) : Bool :=
  (d.entry? (place ++ [projectFile.text])).isSome

/-- The last of some places that has a settings file. -/
def lastSettings? (d : Disk) (places : List Place) : Option Place :=
  places.reverse.find? d.hasSettings

/-- The last place comes first. -/
theorem lastSettings?_concat (places : List Place) (place : Place) :
    d.lastSettings? (places ++ [place]) =
      if d.hasSettings place then some place else d.lastSettings? places := by
  rw [lastSettings?, List.reverse_append, List.reverse_singleton, List.singleton_append,
    List.find?_cons]
  split <;> simp_all [lastSettings?]

/-- There is **none after** the last one. -/
theorem lastSettings?_eq_some_iff {places : List Place} :
    d.lastSettings? places = some place ↔ d.hasSettings place ∧
      ∃ before after, places = before ++ place :: after ∧ ∀ a ∈ after, ¬ d.hasSettings a := by
  rw [lastSettings?, List.find?_eq_findSome?_guard, ← lastGiven_iff]
  simp only [LastGiven, Option.guard_eq_some_iff, Option.guard_eq_none_iff, ← Bool.not_eq_true]
  constructor
  · rintro ⟨before, a, after, hplaces, ⟨rfl, hsettings⟩, hafter⟩
    exact ⟨hsettings, before, after, hplaces, hafter⟩
  · rintro ⟨hsettings, before, after, hplaces, hafter⟩
    exact ⟨before, place, after, hplaces, ⟨rfl, hsettings⟩, hafter⟩

/-- There is no last one if there is none. -/
theorem lastSettings?_eq_none_iff {places : List Place} :
    d.lastSettings? places = none ↔ ∀ a ∈ places, ¬ d.hasSettings a := by
  rw [lastSettings?, List.find?_eq_none]
  simp only [List.mem_reverse]

/-- The **nearest place above** a place that has a settings file is below the others. -/
theorem above_of_lastSettings?_inits {a b : Place} (h : d.lastSettings? place.inits = some a)
    (hb : b <+: place) (hsettings : d.hasSettings b) : b <+: a := by
  induction place using List.reverseRecOn with
  | nil =>
      rw [List.prefix_nil.mp hb]
      exact List.nil_prefix
  | append_singleton place name ih =>
      rw [List.inits_append] at h
      change d.lastSettings? (place.inits ++ [place ++ [name]]) = some a at h
      rw [lastSettings?_concat] at h
      split at h
      next =>
        obtain rfl := Option.some.inj h
        exact hb
      next hnone =>
        rcases List.prefix_concat_iff.mp hb with rfl | hb
        · exact absurd hsettings hnone
        · exact ih h hb

end Disk

/-! ### What the search finds -/

namespace Disk

variable {d : Disk} {here place : Place} {p q : Path}

/-- A path can be **searched** if all its places are directories and there is room for the name of a
settings file after it. -/
structure Searchable (d : Disk) (here : Place) (p : Path) : Prop where
  noZero : '\x00' ∉ p.text
  room : Text.byteSize (p.join projectFile).text ≤ pathLimit
  directory : d.walk (p.origin here) (Path.names p.text) = .directory

/-- A path **leads to** a place if there is a directory and the place is its own. -/
structure LeadsTo (d : Disk) (here : Place) (p : Path) (place : Place) : Prop where
  look : d.look here p = .directory
  place_eq : p.place here = place

/-- A path to a directory can be searched if there is room. -/
theorem LeadsTo.searchable (h : d.LeadsTo here p place)
    (hroom : Text.byteSize (p.join projectFile).text ≤ pathLimit) : d.Searchable here p := by
  have hlook := h.look
  unfold Disk.look at hlook
  split at hlook
  · cases hlook
  next hzero =>
    split at hlook
    · cases hlook
    · split at hlook
      · cases hlook
      · exact ⟨hzero, hroom, walk_counting.mpr hlook⟩

/-- The parent of a path that can be searched can be searched. -/
theorem Searchable.parent (h : d.Searchable here p) (hq : p.parent? = some q) :
    d.Searchable here q := by
  obtain ⟨rest, hrest⟩ := Path.text_of_parent? hq
  refine ⟨fun hzero => h.noZero (hrest ▸ List.mem_append_left _ hzero), ?_, ?_⟩
  · -- The parent is at least one byte shorter, which makes up for the slash.
    have hpos : 1 ≤ Text.byteSize rest := by
      cases rest with
      | nil =>
          have hlt := Path.length_parent?_lt hq
          rw [← hrest, List.append_nil] at hlt
          exact absurd hlt (Nat.lt_irrefl _)
      | cons c rest => exact Nat.le_add_right_of_le c.utf8Size_pos
    have hroom : Text.byteSize p.text + Text.byteSize projectFile.text ≤ pathLimit :=
      (Path.byteSize_join isName_projectFile p).1.trans h.room
    refine (Path.byteSize_join isName_projectFile q).2.trans ?_
    rw [← hrest, Text.byteSize_append] at hroom
    omega
  · rw [Path.origin_of_parent? here hq]
    have hwalk := h.directory
    rcases Path.names_of_parent? hq with ⟨name, hnames⟩ | ⟨hp, hq⟩
    · rw [hnames] at hwalk
      exact walk_of_append hwalk
    · rw [hp] at hwalk
      rw [hq]
      exact hwalk

/-- So can all paths above it. -/
theorem Searchable.ancestor (h : d.Searchable here p) (hq : q ∈ p.ancestors) :
    d.Searchable here q := by
  induction p using Path.ancestors.induct with
  | case1 p r hr ih =>
      rw [Path.ancestors_of_parent? hr] at hq
      rcases List.mem_cons.mp hq with rfl | hq
      · exact h
      · exact ih (h.parent hr) hq
  | case2 p hp =>
      rw [Path.ancestors_of_parent?_eq_none hp] at hq
      rw [List.mem_singleton.mp hq]
      exact h

/-- A settings file **is looked for** at the place of a path. -/
theorem Searchable.look_join (h : d.Searchable here p) :
    d.look here (p.join projectFile) = d.walk (p.place here ++ [projectFile.text]) [] := by
  have hzero : '\x00' ∉ (p.join projectFile).text := by
    intro hmem
    rcases Path.text_join isName_projectFile p with htext | htext
    · have hmem' : '\x00' ∈ p.text ++ projectFile.text := htext ▸ hmem
      exact (List.mem_append.mp hmem').elim h.noZero (by decide)
    · have hmem' : '\x00' ∈ p.text ++ '/' :: projectFile.text := htext ▸ hmem
      exact (List.mem_append.mp hmem').elim h.noZero (by decide)
  have hne : (p.join projectFile).text ≠ [] := by
    intro hnil
    have hsize : Text.byteSize p.text + Text.byteSize projectFile.text ≤
        Text.byteSize (p.join projectFile).text := (Path.byteSize_join isName_projectFile p).1
    have hname : Text.byteSize projectFile.text = 12 := rfl
    rw [hnil, Text.byteSize_nil] at hsize
    omega
  obtain ⟨components, hsplit, hcounting⟩ := Path.exists_splitOn_join isName_projectFile p
  have hwalk : d.walk (p.origin here) components = .directory := by
    rw [← walk_counting, hcounting]
    exact h.directory
  have hplace (rest : List Text) :
      d.walk (p.origin here) (components ++ rest) = d.walk (p.place here) rest := by
    rw [walk_append_of_directory hwalk, hcounting, Path.place]
  have hentry : d.entry? (p.place here) = some .directory := by
    have hend : d.walk (p.place here) [] = .directory := by
      rw [← hplace, List.append_nil, hwalk]
    exact entry?_of_walk hend
  have horigin : (if (p.join projectFile).isAbsolute then [] else here) = p.origin here :=
    Path.origin_join isName_projectFile here p
  rw [Disk.look, if_neg hzero, if_neg hne, if_neg (Nat.not_lt.mpr h.room), horigin]
  calc d.walk (p.origin here) (List.splitOn '/' (p.join projectFile).text)
    _ = d.walk (p.origin here) (components ++ [projectFile.text]) := congrArg _ hsplit
    _ = d.walk (p.place here) [projectFile.text] := hplace _
    _ = d.walk (p.place here ++ [projectFile.text]) [] := by
        rw [walk_cons_of_active (by decide) hentry, if_neg (by decide)]
        rfl

end Disk

namespace World

variable {d : Disk} {here : Place} {vars : List (String × ByteArray)} {account : Option Path}
  {p : Path}

/-- A settings file is found **where there is one** at the place of a path. -/
theorem isThere_join (h : d.Searchable here p) :
    (ofDisk d here vars account).isThere (p.join projectFile) = d.hasSettings (p.place here) := by
  have hlook : (ofDisk d here vars account).look (p.join projectFile) =
      d.walk (p.place here ++ [projectFile.text]) [] := h.look_join
  rw [isThere, hlook, Disk.walk, Disk.hasSettings]
  cases d.entry? (p.place here ++ [projectFile.text]) with
  | none => rfl
  | some entry => cases entry <;> rfl

/-- **What the search finds**: the last place with a settings file that the path passes. -/
theorem map_place_nearest? (h : d.Searchable here p) :
    ((ofDisk d here vars account).nearest? p).map (Path.place here) =
      d.lastSettings? (p.trail here) := by
  unfold nearest?
  -- Along the way up, a path passes one place more than its parent.
  induction p using Path.ancestors.induct with
  | case1 p q hq ih =>
      rw [Path.ancestors_of_parent? hq, List.find?_cons, isThere_join h]
      have hrest := ih (h.parent hq)
      rcases Path.trail_of_parent? here hq with htrail | ⟨hsame, htrail⟩
      · rw [htrail, Disk.lastSettings?_concat]
        cases d.hasSettings (p.place here) with
        | false => exact hrest
        | true => rfl
      · rw [← hsame, htrail] at hrest
        rw [htrail]
        cases hsettings : d.hasSettings (p.place here) with
        | false => exact hrest
        | true => simp [Disk.lastSettings?, hsettings]
  | case2 p hp =>
      rw [Path.ancestors_of_parent?_eq_none hp, Path.trail_of_parent?_eq_none here hp,
        List.find?_cons, isThere_join h]
      cases hsettings : d.hasSettings (p.place here) <;> simp [Disk.lastSettings?, hsettings]

end World

/-! ### The nearest settings file above a directory -/

namespace Disk

variable {d : Disk} {here place : Place} {p : Path}

/-- A path is **faithful** to its directory if a settings file that it passes leads the search to
none that is elsewhere, and if the search does not end too early. -/
structure Faithful (d : Disk) (here : Place) (p : Path) : Prop where
  /-- The last place passed that has a settings file is above the directory. -/
  noDetour : ∀ a, d.lastSettings? (p.trail here) = some a → a <+: p.place here
  /-- If a place above the directory has a settings file, so has a place that is passed. -/
  reaches : ∀ a, a <+: p.place here → d.hasSettings a → ∃ b ∈ p.trail here, d.hasSettings b

/-- The search finds **the nearest settings file above the directory** exactly if the path is
faithful to it. -/
theorem faithful_iff :
    d.Faithful here p ↔ d.lastSettings? (p.trail here) = d.lastSettings? (p.place here).inits := by
  constructor
  · intro h
    cases hpassed : d.lastSettings? (p.trail here) with
    | none =>
        refine (lastSettings?_eq_none_iff.mpr fun a ha hsettings => ?_).symm
        obtain ⟨b, hb, hbsettings⟩ := h.reaches a ((List.mem_inits _ _).mp ha) hsettings
        exact lastSettings?_eq_none_iff.mp hpassed b hb hbsettings
    | some b =>
        have hb := h.noDetour b hpassed
        obtain ⟨hbsettings, before, after, htrail, hafter⟩ := lastSettings?_eq_some_iff.mp hpassed
        cases habove : d.lastSettings? (p.place here).inits with
        | none =>
            have hnone := lastSettings?_eq_none_iff.mp habove
            exact absurd hbsettings (hnone b ((List.mem_inits _ _).mpr hb))
        | some a =>
            have hba := above_of_lastSettings?_inits habove hb hbsettings
            obtain ⟨hasettings, _, _, hinits, -⟩ := lastSettings?_eq_some_iff.mp habove
            have ha : a <+: p.place here := by
              rw [← List.mem_inits, hinits]
              exact List.mem_append_right _ List.mem_cons_self
            -- After the last place with a settings file the path only goes on to its end.
            obtain ⟨rest, hrest, hend⟩ := Place.exists_rest_of_passed htrail
            by_cases hab : a <+: b
            · rw [hba.eq_of_length (hba.length_le.antisymm hab.length_le)]
            · have hmem : a ∈ Place.passed b rest :=
                Place.mem_passed_of_above (by rw [hend]; exact ha) hab
              rw [hrest] at hmem
              rcases List.mem_cons.mp hmem with rfl | hmem
              · exact absurd List.prefix_rfl hab
              · exact absurd hasettings (hafter a hmem)
  · intro h
    constructor
    · intro a ha
      obtain ⟨-, before, after, hinits, -⟩ := lastSettings?_eq_some_iff.mp (h.symm.trans ha)
      rw [← List.mem_inits, hinits]
      exact List.mem_append_right _ List.mem_cons_self
    · intro a ha hsettings
      by_contra hnone
      have hpassed : d.lastSettings? (p.trail here) = none :=
        lastSettings?_eq_none_iff.mpr fun b hb hbsettings => hnone ⟨b, hb, hbsettings⟩
      have habove := lastSettings?_eq_none_iff.mp (h.symm.trans hpassed)
      exact habove a ((List.mem_inits _ _).mpr ha) hsettings

/-- A path **without two dots** is faithful unless there is a settings file above the place where it
starts. -/
theorem faithful_of_down (hdown : ['.', '.'] ∉ Path.names p.text)
    (hstart : ∀ a, a <+: p.origin here → d.hasSettings a → a = p.origin here) :
    d.Faithful here p := by
  have hplace : p.place here = p.origin here ++ Path.names p.text := Place.follow_of_down hdown
  have htrail {a : Place} : a ∈ p.trail here ↔ p.origin here <+: a ∧ a <+: p.place here := by
    rw [hplace]
    exact Place.mem_passed_of_down hdown
  constructor
  · intro a ha
    obtain ⟨-, before, after, hpassed, -⟩ := lastSettings?_eq_some_iff.mp ha
    refine (htrail.mp ?_).2
    rw [hpassed]
    exact List.mem_append_right _ List.mem_cons_self
  · intro a ha hsettings
    refine ⟨a, htrail.mpr ⟨?_, ha⟩, hsettings⟩
    have horigin : p.origin here <+: p.place here := by
      rw [hplace]
      exact List.prefix_append _ _
    rcases List.prefix_or_prefix_of_prefix horigin ha with h | h
    · exact h
    · rw [hstart a h hsettings]

end Disk

/-! ### What is loaded -/

/-- An error without the path that it names. -/
def SettingsError.pathless : SettingsError → SettingsError
  | .notFound _ => .notFound ""
  | .malformed _ fault => .malformed "" fault
  | e => e

open SettingsError (pathless)

/-- What a text describes does not depend on its path, and only an error names it. -/
theorem Settings.parse_pathless (path path' : String) (text : Text) :
    (parse path text).mapError pathless = (parse path' text).mapError pathless := by
  unfold parse
  cases Toml.parse? text with
  | none => rfl
  | some document =>
      dsimp only
      cases ofToml? document <;> rfl

namespace World

variable {w : World} {p q : Path}

/-- The settings of a file depend on **what is in it**, the path of an error aside. -/
theorem readSettings_pathless (h : w.look p = w.look q) :
    (w.readSettings p).mapError pathless = (w.readSettings q).mapError pathless := by
  unfold readSettings
  rw [h]
  cases w.look q with
  | file contents =>
      dsimp only
      cases String.fromUTF8? contents with
      | none => rfl
      | some text => exact Settings.parse_pathless p.toString q.toString text.toList
  | _ => rfl

end World

namespace Loader

/-- What is **seen of a load**, the spelling of paths aside: the settings and whether there is a
project, or the error. -/
def outcome (result : Except SettingsError Config) : Except SettingsError (Settings × Bool) :=
  (result.map fun config => (config.settings, config.isProject)).mapError pathless

variable {w : World} {p q : Path}

/-- A load depends on the settings of the nearest project and on whether there is one. -/
theorem loadDirectory_congr (l : Loader)
    (hsettings : (w.nearestSettings p).mapError pathless = (w.nearestSettings q).mapError pathless)
    (hroot : (w.nearest? p).isSome = (w.nearest? q).isSome) :
    (l.loadDirectory w p).1 = (l.loadDirectory w q).1 ∧
      outcome (l.loadDirectory w p).2 = outcome (l.loadDirectory w q).2 := by
  rw [loadDirectory, loadDirectory, World.projectSettings_eq, World.projectSettings_eq]
  cases hp : w.nearestSettings p with
  | error e =>
      cases hq : w.nearestSettings q with
      | error e' =>
          rw [hp, hq] at hsettings
          exact ⟨rfl, congrArg Except.error (Except.error.inj hsettings)⟩
      | ok s =>
          rw [hp, hq] at hsettings
          cases hsettings
  | ok s =>
      cases hq : w.nearestSettings q with
      | error e =>
          rw [hp, hq] at hsettings
          cases hsettings
      | ok s' =>
          rw [hp, hq] at hsettings
          obtain rfl : s = s' := Except.ok.inj hsettings
          refine ⟨rfl, ?_⟩
          simp only [Except.map, outcome]
          cases l.layer w s with
          | error e => rfl
          | ok settings => simp only [Config.isProject, hroot]

variable {d : Disk} {here : Place} {vars : List (String × ByteArray)} {account : Option Path}

/-- Two paths whose search ends **at the same place** load the same. -/
theorem loadDirectory_of_lastSettings? (l : Loader) (hp : d.Searchable here p)
    (hq : d.Searchable here q)
    (h : d.lastSettings? (p.trail here) = d.lastSettings? (q.trail here)) :
    (l.loadDirectory (.ofDisk d here vars account) p).1 =
        (l.loadDirectory (.ofDisk d here vars account) q).1 ∧
      outcome (l.loadDirectory (.ofDisk d here vars account) p).2 =
        outcome (l.loadDirectory (.ofDisk d here vars account) q).2 := by
  have hplaces : ((World.ofDisk d here vars account).nearest? p).map (Path.place here) =
      ((World.ofDisk d here vars account).nearest? q).map (Path.place here) := by
    rw [World.map_place_nearest? hp, World.map_place_nearest? hq, h]
  refine loadDirectory_congr l ?_ ?_
  · unfold World.nearestSettings
    cases hroot : (World.ofDisk d here vars account).nearest? p with
    | none =>
        rw [hroot, Option.map_none, eq_comm, Option.map_eq_none_iff] at hplaces
        rw [hplaces]
    | some root =>
        rw [hroot, Option.map_some, eq_comm, Option.map_eq_some_iff] at hplaces
        obtain ⟨root', hroot', hsame⟩ := hplaces
        rw [hroot']
        have hlook := (hp.ancestor (List.mem_of_find?_eq_some hroot)).look_join
        have hlook' := (hq.ancestor (List.mem_of_find?_eq_some hroot')).look_join
        refine World.readSettings_pathless ?_
        calc d.look here (root.join projectFile)
          _ = d.walk (root'.place here ++ [projectFile.text]) [] := by rw [hlook, hsame]
          _ = d.look here (root'.join projectFile) := hlook'.symm
  · rw [← Option.isSome_map, hplaces, Option.isSome_map]

/-- **Loading by place.** Let two paths lead to the same directory, with room for the name of a
settings file after them. The search finds the last place with a settings file that a path passes.
This is the nearest one above the directory exactly if the path is faithful to it, which it is if it
has no two dots and starts at the root, or where no settings file is above. If both paths are
faithful they load the same: what the loader remembers, the settings and whether there is a project,
or the error up to the path that it names. -/
theorem load_by_place (l : Loader) (d : Disk) (here : Place) (vars : List (String × ByteArray))
    (account : Option Path) (place : Place) (p q : Path) (hp : d.LeadsTo here p place)
    (hq : d.LeadsTo here q place)
    (hproom : Text.byteSize (p.join projectFile).text ≤ Disk.pathLimit)
    (hqroom : Text.byteSize (q.join projectFile).text ≤ Disk.pathLimit) :
    ((World.ofDisk d here vars account).nearest? p).map (Path.place here) =
        d.lastSettings? (p.trail here) ∧
      (d.Faithful here p ↔ d.lastSettings? (p.trail here) = d.lastSettings? place.inits) ∧
      (['.', '.'] ∉ Path.names p.text →
        (∀ a, a <+: p.origin here → d.hasSettings a → a = p.origin here) → d.Faithful here p) ∧
      (d.Faithful here p → d.Faithful here q →
        (l.loadDirectory (.ofDisk d here vars account) p).1 =
            (l.loadDirectory (.ofDisk d here vars account) q).1 ∧
          outcome (l.loadDirectory (.ofDisk d here vars account) p).2 =
            outcome (l.loadDirectory (.ofDisk d here vars account) q).2) := by
  have hpsearch := hp.searchable hproom
  have hqsearch := hq.searchable hqroom
  refine ⟨World.map_place_nearest? hpsearch, ?_, Disk.faithful_of_down, ?_⟩
  · rw [← hp.place_eq]
    exact Disk.faithful_iff
  · intro hpfaithful hqfaithful
    refine loadDirectory_of_lastSettings? l hpsearch hqsearch ?_
    rw [Disk.faithful_iff.mp hpfaithful, Disk.faithful_iff.mp hqfaithful, hp.place_eq, hq.place_eq]

/-- A disk with a directory `r`, a directory `sub` in it that has a settings file, and a directory
`in` in that one. -/
def subprojectDisk : Disk where
  entries :=
    [(["r".toList], .directory), (["r".toList, "sub".toList], .directory),
      (["r".toList, "sub".toList, "in".toList], .directory),
      (["r".toList, "sub".toList, "buglang.toml".toList], .file "log.level='warn'".toUTF8)]

/-- The settings in it. -/
def subprojectSettings : Settings :=
  { log := some { level := some "warn" } }

/-- The world of that disk from a working directory. -/
def subprojectWorld (here : Place) : World :=
  .ofDisk subprojectDisk here [] none

/-- A relative path that goes down, up and down again, and an absolute one to the same directory. -/
theorem load_by_place_subproject :
    subprojectDisk.LeadsTo ["r".toList] (.ofString "./sub/in/../in/")
        ["r".toList, "sub".toList, "in".toList] ∧
      subprojectDisk.LeadsTo ["r".toList] (.ofString "//r/sub/in")
        ["r".toList, "sub".toList, "in".toList] ∧
      subprojectDisk.Faithful ["r".toList] (.ofString "./sub/in/../in/") ∧
      subprojectDisk.Faithful ["r".toList] (.ofString "//r/sub/in") ∧
      outcome (({} : Loader).loadDirectory (subprojectWorld ["r".toList])
        (.ofString "//r/sub/in")).2 = .ok (subprojectSettings, true) ∧
      outcome (({} : Loader).loadDirectory (subprojectWorld ["r".toList])
        (.ofString "./sub/in/../in/")).2 = .ok (subprojectSettings, true) := by
  have hp : subprojectDisk.LeadsTo ["r".toList] (.ofString "./sub/in/../in/")
      ["r".toList, "sub".toList, "in".toList] := ⟨rfl, by decide⟩
  have hq : subprojectDisk.LeadsTo ["r".toList] (.ofString "//r/sub/in")
      ["r".toList, "sub".toList, "in".toList] := ⟨rfl, by decide⟩
  obtain ⟨-, hfaithful, -, hagree⟩ :=
    load_by_place {} subprojectDisk ["r".toList] [] none _ _ _ hp hq (by decide) (by decide)
  obtain ⟨-, -, hdown, -⟩ :=
    load_by_place {} subprojectDisk ["r".toList] [] none _ _ _ hq hp (by decide) (by decide)
  have hpfaithful := hfaithful.mpr (by decide)
  have hqfaithful := hdown (by decide) fun a ha _ => List.prefix_nil.mp ha
  have hload : outcome (({} : Loader).loadDirectory (subprojectWorld ["r".toList])
      (.ofString "//r/sub/in")).2 = .ok (subprojectSettings, true) :=
    Except.eq_ok_of_toOption (by decide +kernel)
  exact ⟨hp, hq, hpfaithful, hqfaithful, hload, (hagree hpfaithful hqfaithful).2.trans hload⟩

/-- **Spelling matters.** A path that goes down to a project and up again finds the project, though
it is not above the directory that the path leads to. A path that starts at the working directory
does not find the project that is above it. -/
theorem spelling_matters :
    (subprojectDisk.LeadsTo ["r".toList] (.ofString "/r") ["r".toList] ∧
      subprojectDisk.LeadsTo ["r".toList] (.ofString "/r/sub/..") ["r".toList] ∧
      outcome (({} : Loader).loadDirectory (subprojectWorld ["r".toList]) (.ofString "/r")).2 =
        .ok ({}, false) ∧
      outcome (({} : Loader).loadDirectory (subprojectWorld ["r".toList])
        (.ofString "/r/sub/..")).2 = .ok (subprojectSettings, true)) ∧
    (subprojectDisk.LeadsTo ["r".toList, "sub".toList, "in".toList] (.ofString "/r/sub/in")
        ["r".toList, "sub".toList, "in".toList] ∧
      subprojectDisk.LeadsTo ["r".toList, "sub".toList, "in".toList] (.ofString ".")
        ["r".toList, "sub".toList, "in".toList] ∧
      outcome (({} : Loader).loadDirectory (subprojectWorld ["r".toList, "sub".toList, "in".toList])
        (.ofString "/r/sub/in")).2 = .ok (subprojectSettings, true) ∧
      outcome (({} : Loader).loadDirectory (subprojectWorld ["r".toList, "sub".toList, "in".toList])
        (.ofString ".")).2 = .ok ({}, false)) := by
  refine ⟨⟨⟨rfl, by decide⟩, ⟨rfl, by decide⟩, ?_, ?_⟩, ⟨rfl, by decide⟩, ⟨rfl, by decide⟩, ?_, ?_⟩
  all_goals exact Except.eq_ok_of_toOption (by decide +kernel)

end Loader

end LangServer
