import LangServer.Launch.Arguments
import LangServer.Proofs.Except

/-!
# What Accepted Arguments Say

Arguments are read one by one, and an option may wait for its value to come. Once some arguments are
accepted none of that shows any more: a switch is on if one of its spellings is among the arguments,
and an option has a value if the arguments give it one, either as the argument after the option or
after an equals sign (`Gives`). The settings file is the one that the arguments give, and only if
they give none the one of the environment.

This holds of accepted arguments only. A value can look like an option, but then the arguments are
refused.

## Main statements

* `Progress.step_of_take`: what one argument adds to what has been read.
* `Progress.says_of_takeAll`: what all arguments together say.
* `Invocation.says_of_serve`: what the arguments of a server that is to serve say.
-/

namespace LangServer

/-! ### Spellings -/

/-- The arguments that stand for a switch. -/
def Switch.spellings : Switch → List String
  | .tcp => ["--tcp"]
  | .verbose => ["--verbose", "-v"]
  | .help => ["--help", "-h"]
  | .version => ["--version", "-V"]

/-- The name of a switch. -/
def Switch.name : Switch → String
  | .tcp => "tcp"
  | .verbose => "verbose"
  | .help => "help"
  | .version => "version"

/-- The name of an option. -/
def Parameter.name : Parameter → String
  | .port => "port"
  | .host => "host"
  | .config => "config"

/-- The argument after which the value of an option comes. -/
def Parameter.flag : Parameter → String
  | .port => "--port"
  | .host => "--host"
  | .config => "--config"

/-- Some arguments **give** an option a value: as the argument after the option, or after an equals
sign. -/
def Gives (arguments : List String) (q : Parameter) (value : String) : Prop :=
  [q.flag, value] <:+: arguments ∨ q.flag ++ "=" ++ value ∈ arguments

/-- No arguments give nothing. -/
theorem gives_nil (q : Parameter) (value : String) : ¬ Gives [] q value := by
  simp [Gives]

/-- The first argument and the others. -/
theorem gives_cons_iff {argument : String} {rest : List String} {q : Parameter} {value : String} :
    Gives (argument :: rest) q value ↔
      (argument = q.flag ∧ rest.head? = some value) ∨ argument = q.flag ++ "=" ++ value ∨
        Gives rest q value := by
  have hhead : [q.flag, value] <+: argument :: rest ↔
      argument = q.flag ∧ rest.head? = some value := by
    rw [List.cons_prefix_cons]
    cases rest with
    | nil => simp
    | cons next rest => simp [List.cons_prefix_cons, eq_comm]
  rw [Gives, Gives, List.infix_cons_iff, hhead, List.mem_cons, eq_comm (b := argument)]
  grind

/-! ### Names and values -/

/-- The name and the attached value of an argument with two hyphens. -/
def longParts? (argument : String) : Option (String × Option String) :=
  match argument.toList with
  | '-' :: '-' :: rest =>
    some (String.ofList (rest.takeWhile (· ≠ '=')), Progress.attached rest)
  | _ => none

/-- The text behind the hyphens: a name, and an equals sign and a value after it if there is one. -/
def joinParts : String × Option String → Text
  | (name, none) => name.toList
  | (name, some value) => name.toList ++ '=' :: value.toList

/-- Taking a text apart at its first equals sign loses nothing. -/
theorem joinParts_attached (t : Text) :
    joinParts (String.ofList (t.takeWhile (· ≠ '=')), Progress.attached t) = t := by
  induction t with
  | nil => rfl
  | cons c t ih =>
      by_cases hc : c = '='
      · simp [Progress.attached, joinParts, hc]
      · cases h : Progress.attached t <;> simpa [Progress.attached, joinParts, hc, h] using ih

/-- An argument is **known by its parts**. -/
theorem toList_of_longParts? {argument : String} {parts : String × Option String}
    (h : longParts? argument = some parts) : argument.toList = '-' :: '-' :: joinParts parts := by
  rw [longParts?] at h
  split at h
  next rest heq =>
    obtain rfl := Option.some.inj h
    rw [heq, joinParts_attached]
  next => cases h

/-- Arguments with the same parts are the same. -/
theorem eq_of_longParts? {a b : String} {parts : String × Option String}
    (ha : longParts? a = some parts) (hb : longParts? b = some parts) : a = b :=
  String.toList_inj.mp ((toList_of_longParts? ha).trans (toList_of_longParts? hb).symm)

/-- An option is known by its name. -/
theorem longParts?_flag (q : Parameter) : longParts? q.flag = some (q.name, none) := by
  cases q <;> rfl

/-- An option with its value is known by its name and the value. -/
theorem longParts?_flag_value (q : Parameter) (value : String) :
    longParts? (q.flag ++ "=" ++ value) = some (q.name, some value) := by
  cases q <;> simp [longParts?, Parameter.flag, Parameter.name, Progress.attached]

/-- A switch is written with a letter or has a name and no value. -/
theorem longParts?_spelling (s : Switch) :
    ∀ a ∈ s.spellings, longParts? a = none ∨ longParts? a = some (s.name, none) := by
  cases s <;> decide

/-- Different switches are written differently. -/
theorem Switch.eq_of_spelling {s t : Switch} {a : String} (hs : a ∈ s.spellings)
    (ht : a ∈ t.spellings) : s = t := by
  have hapart : ∀ a ∈ s.spellings, a ∈ t.spellings → s = t := by
    cases s <;> cases t <;> decide
  exact hapart a hs ht

/-- A switch is written with a hyphen and something after it. -/
theorem Switch.exists_of_spelling {s : Switch} {a : String} (h : a ∈ s.spellings) :
    ∃ c cs, a.toList = '-' :: c :: cs := by
  have hhyphen : ∀ a ∈ s.spellings, a.toList.head? = some '-' ∧ 2 ≤ a.toList.length := by
    cases s <;> decide
  match ht : a.toList, hhyphen a h with
  | [], hhyphen => cases hhyphen.1
  | [_], hhyphen => simp at hhyphen
  | d :: c :: cs, hhyphen => exact ⟨c, cs, by rw [Option.some.inj hhyphen.1]⟩

/-- A switch is no option. -/
theorem Parameter.flag_not_mem_spellings (q : Parameter) (s : Switch) : q.flag ∉ s.spellings := by
  cases q <;> cases s <;> decide

/-- Nor is an option with its value. -/
theorem Parameter.flag_value_not_mem_spellings (q : Parameter) (value : String) (s : Switch) :
    q.flag ++ "=" ++ value ∉ s.spellings := by
  intro h
  rcases longParts?_spelling s _ h with hparts | hparts <;> simp [longParts?_flag_value] at hparts

/-- Different options are written differently. -/
theorem Parameter.flag_inj {q r : Parameter} : q.flag = r.flag ↔ q = r := by
  cases q <;> cases r <;> decide

/-- An option is not written like one with its value. -/
theorem Parameter.flag_ne_flag_value (q r : Parameter) (value : String) :
    q.flag ≠ r.flag ++ "=" ++ value := by
  intro h
  have hparts := longParts?_flag q
  rw [h, longParts?_flag_value] at hparts
  simp at hparts

/-- Different options or values are written differently. -/
theorem Parameter.flag_value_inj {q r : Parameter} {v w : String} :
    q.flag ++ "=" ++ v = r.flag ++ "=" ++ w ↔ q = r ∧ v = w := by
  refine ⟨fun h => ?_, fun ⟨hq, hv⟩ => by rw [hq, hv]⟩
  have hparts := longParts?_flag_value q v
  rw [h, longParts?_flag_value] at hparts
  obtain ⟨hname, hvalue⟩ := Prod.mk.inj (Option.some.inj hparts)
  have hinj : r.name = q.name → q = r := by
    cases q <;> cases r <;> decide
  exact ⟨hinj hname, (Option.some.inj hvalue).symm⟩

/-- The switch of a name has this name. -/
theorem Switch.name_of_ofName? {name : String} {s : Switch} (h : Switch.ofName? name = some s) :
    name = s.name := by
  unfold Switch.ofName? at h
  split at h <;> cases h <;> rfl

/-- The option of a name has this name. -/
theorem Parameter.name_of_ofName? {name : String} {q : Parameter}
    (h : Parameter.ofName? name = some q) : name = q.name := by
  unfold Parameter.ofName? at h
  split at h <;> cases h <;> rfl

/-! ### One argument -/

namespace Progress

variable {p p' : Progress}

/-- An option has got a value, settled or not. -/
def Records (p : Progress) (q : Parameter) (value : String) : Prop :=
  p.values.lookup q = some value ∨ p.pending = some (q, some value)

/-- **Giving a value** adds it to the values. -/
theorem give_eq_ok {q : Parameter} {value : String} (h : p.give q value = .ok p') :
    p'.switches = p.switches ∧ p'.pending = p.pending ∧
      ∀ r v, p'.values.lookup r = some v ↔ p.values.lookup r = some v ∨ r = q ∧ v = value := by
  rw [give] at h
  split at h
  next => cases h
  next hnew =>
    split at h
    next =>
      obtain rfl := Except.ok.inj h
      refine ⟨rfl, rfl, fun r v => ?_⟩
      by_cases hr : r = q
      · subst hr
        have hnone : p.values.lookup r = none := Option.not_isSome_iff_eq_none.mp hnew
        simp [hnone, eq_comm]
      · simp [List.lookup_cons, beq_eq_false_iff_ne.mpr hr, hr]
    next => cases h

/-- **Settling** leaves no option without a value, and no value is lost or added. -/
theorem settle_eq_ok (h : p.settle = .ok p') :
    p'.switches = p.switches ∧ p'.pending = none ∧ (∀ q, p.pending ≠ some (q, none)) ∧
      ∀ q v, p'.values.lookup q = some v ↔ p.Records q v := by
  rw [settle] at h
  split at h
  next hnone =>
    obtain rfl := Except.ok.inj h
    simp [Records, hnone]
  next => cases h
  next r w hpending =>
    obtain ⟨hswitches, hnone, hvalues⟩ := give_eq_ok h
    refine ⟨hswitches, hnone, by simp [hpending], fun q v => ?_⟩
    rw [hvalues, Records, hpending]
    simp [eq_comm]

/-- **Taking a switch** settles what waits, and a switch is taken once. -/
theorem switch_eq_ok {s : Switch} (h : p.switch s = .ok p') :
    ∃ settled, p.settle = .ok settled ∧ (s = .tcp ∨ s = .verbose) ∧ s ∉ p.switches ∧
      p' = { settled with switches := s :: settled.switches } := by
  obtain ⟨settled, hsettle, h⟩ := Except.exists_of_bind_eq_ok h
  refine ⟨settled, hsettle, ?_⟩
  cases s with
  | help | version => cases h
  | tcp | verbose =>
      simp only at h
      split at h
      next => cases h
      next hnew =>
        rw [(settle_eq_ok hsettle).1] at hnew
        exact ⟨by simp, hnew, (Except.ok.inj h).symm⟩

/-- The only letter that is accepted is that of `verbose`. -/
theorem letters_cons_eq_ok {c : Char} {cs : Text} (h : p.letters (c :: cs) = .ok p') :
    c = 'v' ∧ ∃ next, p.switch .verbose = .ok next ∧ next.letters cs = .ok p' := by
  rw [letters] at h
  cases hletter : Switch.ofLetter? c with
  | none =>
      rw [hletter] at h
      cases h
  | some s =>
      rw [hletter] at h
      obtain ⟨next, hswitch, hrest⟩ := Except.exists_of_bind_eq_ok h
      obtain ⟨-, -, hs, -, -⟩ := switch_eq_ok hswitch
      unfold Switch.ofLetter? at hletter
      split at hletter <;> cases hletter
      · exact ⟨rfl, next, hswitch, hrest⟩
      · simp at hs
      · simp at hs

/-- Of all groups of letters **only one is accepted**: the others stop the reading, or repeat a
switch. -/
theorem letters_eq_ok {c : Char} {cs : Text} (h : p.letters (c :: cs) = .ok p') :
    c = 'v' ∧ cs = [] ∧ p.switch .verbose = .ok p' := by
  obtain ⟨rfl, next, hnext, hrest⟩ := letters_cons_eq_ok h
  cases cs with
  | nil => exact ⟨rfl, rfl, Except.ok.inj hrest ▸ hnext⟩
  | cons d ds =>
      -- a second letter would be the same switch again
      obtain ⟨-, last, hlast, -⟩ := letters_cons_eq_ok hrest
      obtain ⟨settled, -, -, -, rfl⟩ := switch_eq_ok hnext
      obtain ⟨-, -, -, hnew, -⟩ := switch_eq_ok hlast
      exact absurd List.mem_cons_self hnew

/-- **What is accepted by its name**: a switch without a value, an option that waits for its value,
or an option with its value. -/
theorem named_eq_ok {name : String} {value : Option String} (h : p.named name value = .ok p') :
    (∃ s : Switch, name = s.name ∧ value = none ∧ p.switch s = .ok p') ∨
    (∃ (q : Parameter) (settled : Progress), name = q.name ∧ value = none ∧
      p.settle = .ok settled ∧ p' = { settled with pending := some (q, none) }) ∨
    (∃ (q : Parameter) (v : String) (settled : Progress), name = q.name ∧ value = some v ∧
      p.settle = .ok settled ∧ settled.give q v = .ok p') := by
  unfold named at h
  split at h
  next s hs => exact Or.inl ⟨s, Switch.name_of_ofName? hs, rfl, h⟩
  next => cases h
  next q _ hq =>
    obtain ⟨settled, hsettle, h⟩ := Except.exists_of_bind_eq_ok h
    exact Or.inr (Or.inl ⟨q, settled, Parameter.name_of_ofName? hq, rfl, hsettle,
      (Except.ok.inj h).symm⟩)
  next q v _ hq =>
    obtain ⟨settled, hsettle, h⟩ := Except.exists_of_bind_eq_ok h
    exact Or.inr (Or.inr ⟨q, v, settled, Parameter.name_of_ofName? hq, rfl, hsettle, h⟩)
  next => cases h

/-- What **one argument** adds to what has been read. -/
structure Step (p : Progress) (argument : String) (p' : Progress) : Prop where
  switches : ∀ s, s ∈ p'.switches ↔ s ∈ p.switches ∨ argument ∈ s.spellings
  waits : ∀ q, p'.pending = some (q, none) ↔ argument = q.flag
  /-- The value that was waited for, or an option with its value. -/
  records : ∀ q v, p'.Records q v ↔
    p.Records q v ∨ (p.pending = some (q, none) ∧ argument = v) ∨ argument = q.flag ++ "=" ++ v

/-- A switch adds itself. -/
theorem step_of_switch {s : Switch} {argument : String} (hspelling : argument ∈ s.spellings)
    (h : p.switch s = .ok p') : Step p argument p' := by
  obtain ⟨settled, hsettle, -, -, rfl⟩ := switch_eq_ok h
  obtain ⟨hswitches, hpending, hgot, hvalues⟩ := settle_eq_ok hsettle
  refine ⟨fun t => ?_, fun q => ?_, fun q v => ?_⟩
  · have ht : t = s ↔ argument ∈ t.spellings :=
      ⟨fun heq => heq ▸ hspelling, fun ht => Switch.eq_of_spelling ht hspelling⟩
    rw [List.mem_cons, hswitches, ht, or_comm]
  · have hflag : argument ≠ q.flag := fun heq => q.flag_not_mem_spellings s (heq ▸ hspelling)
    simp [hpending, hflag]
  · have hattached : argument ≠ q.flag ++ "=" ++ v := fun heq =>
      q.flag_value_not_mem_spellings v s (heq ▸ hspelling)
    rw [← hvalues, Records, hpending]
    simp [hgot q, hattached]

/-- An option without its value waits for it. -/
theorem step_of_flag {q : Parameter} {settled : Progress} (h : p.settle = .ok settled) :
    Step p q.flag { settled with pending := some (q, none) } := by
  obtain ⟨hswitches, -, hgot, hvalues⟩ := settle_eq_ok h
  refine ⟨fun s => ?_, fun r => ?_, fun r v => ?_⟩
  · simp [hswitches, q.flag_not_mem_spellings s]
  · simp [Parameter.flag_inj]
  · rw [← hvalues, Records]
    simp [hgot r, q.flag_ne_flag_value r v]

/-- An option with its value adds it. -/
theorem step_of_flag_value {q : Parameter} {value : String} {settled : Progress}
    (hsettle : p.settle = .ok settled) (h : settled.give q value = .ok p') :
    Step p (q.flag ++ "=" ++ value) p' := by
  obtain ⟨hswitches, hpending, hgot, hvalues⟩ := settle_eq_ok hsettle
  obtain ⟨hswitches', hpending', hvalues'⟩ := give_eq_ok h
  refine ⟨fun s => ?_, fun r => ?_, fun r v => ?_⟩
  · simp [hswitches', hswitches, q.flag_value_not_mem_spellings value s]
  · simp [hpending', hpending, (r.flag_ne_flag_value q value).symm]
  · rw [Records, hvalues', hpending', hpending, hvalues, Parameter.flag_value_inj]
    simp [hgot r, eq_comm]

/-- A word is the value that was waited for. -/
theorem step_of_word {argument : String} (hparts : longParts? argument = none)
    (hletters : ∀ c cs, argument.toList ≠ '-' :: c :: cs) (h : p.word argument = .ok p') :
    Step p argument p' := by
  rw [word] at h
  split at h
  next q hpending =>
    obtain rfl := Except.ok.inj h
    refine ⟨fun s => ?_, fun r => ?_, fun r v => ?_⟩
    · have hspelling : argument ∉ s.spellings := by
        intro hmem
        obtain ⟨c, cs, heq⟩ := Switch.exists_of_spelling hmem
        exact hletters c cs heq
      simp [hspelling]
    · have hflag : argument ≠ r.flag := by
        rintro rfl
        simp [longParts?_flag] at hparts
      simp [hflag]
    · have hattached : argument ≠ r.flag ++ "=" ++ v := by
        rintro rfl
        simp [longParts?_flag_value] at hparts
      simp [Records, hpending, hattached]
  next => cases h

/-- **One step** of the reading. -/
theorem step_of_take {argument : String} (h : p.take argument = .ok p') : Step p argument p' := by
  rw [take] at h
  split at h
  next rest hrest =>
    have hparts : longParts? argument =
        some (String.ofList (rest.takeWhile (· ≠ '=')), attached rest) := by
      simp only [longParts?, hrest]
    rcases named_eq_ok h with ⟨s, hname, hvalue, hswitch⟩ |
      ⟨q, settled, hname, hvalue, hsettle, rfl⟩ |
      ⟨q, value, settled, hname, hvalue, hsettle, hgive⟩
    · rw [hname, hvalue] at hparts
      have husage : s.usage ∈ s.spellings ∧ longParts? s.usage = some (s.name, none) := by
        cases s <;> decide
      exact step_of_switch (eq_of_longParts? hparts husage.2 ▸ husage.1) hswitch
    · rw [hname, hvalue] at hparts
      rw [eq_of_longParts? hparts (longParts?_flag q)]
      exact step_of_flag hsettle
    · rw [hname, hvalue] at hparts
      rw [eq_of_longParts? hparts (longParts?_flag_value q value)]
      exact step_of_flag_value hsettle hgive
  next c cs hhyphens hcs =>
    obtain ⟨rfl, rfl, hswitch⟩ := letters_eq_ok h
    obtain rfl : argument = "-v" := String.toList_inj.mp hcs
    exact step_of_switch (by decide) hswitch
  next hlong hletters =>
    have hparts : longParts? argument = none := by
      rw [longParts?]
      split
      next rest hrest => exact absurd hrest (hlong rest)
      next => rfl
    exact step_of_word hparts hletters h

/-! ### All arguments -/

/-- Arguments after which reading **ends well** say what they say. -/
theorem says_of_settle {arguments : List String} (hrest : arguments = [] ∨ arguments = ["--"])
    (h : p.settle = .ok p') :
    (∀ s, s ∈ p'.switches ↔ s ∈ p.switches ∨ ∃ a ∈ arguments, a ∈ s.spellings) ∧
      ∀ q v, p'.values.lookup q = some v ↔
        p.Records q v ∨ (p.pending = some (q, none) ∧ arguments.head? = some v) ∨
          Gives arguments q v := by
  obtain ⟨hswitches, -, hgot, hvalues⟩ := settle_eq_ok h
  refine ⟨fun s => ?_, fun q v => ?_⟩
  · have hnone : ¬ ∃ a ∈ arguments, a ∈ s.spellings := by
      rcases hrest with rfl | rfl
      · simp
      · cases s <;> decide
    simp [hswitches, hnone]
  · have hend : "--" ≠ q.flag ++ "=" ++ v := by
      intro heq
      have hparts := longParts?_flag_value q v
      rw [← heq] at hparts
      exact absurd hparts (by simp [longParts?, attached])
    have hnone : ¬ Gives arguments q v := by
      rcases hrest with rfl | rfl
      · exact gives_nil q v
      · simp [gives_cons_iff, gives_nil, hend]
    simp [hvalues, hgot q, hnone]

/-- **All arguments** together: a switch is on if it is among them, and an option has the value that
they give it, apart from what had been read before. -/
theorem says_of_takeAll {arguments : List String} (h : p.takeAll arguments = .ok p') :
    (∀ s, s ∈ p'.switches ↔ s ∈ p.switches ∨ ∃ a ∈ arguments, a ∈ s.spellings) ∧
      ∀ q v, p'.values.lookup q = some v ↔
        p.Records q v ∨ (p.pending = some (q, none) ∧ arguments.head? = some v) ∨
          Gives arguments q v := by
  induction arguments generalizing p with
  | nil => exact says_of_settle (Or.inl rfl) h
  | cons argument rest ih =>
      unfold takeAll at h
      split at h
      next hend =>
        cases rest with
        | nil => exact says_of_settle (Or.inr (by rw [hend])) h
        | cons surplus rest => cases h
      next =>
        obtain ⟨next, htake, hrest⟩ := Except.exists_of_bind_eq_ok h
        obtain ⟨hswitches, hwaits, hrecords⟩ := step_of_take htake
        obtain ⟨hswitches', hvalues'⟩ := ih hrest
        refine ⟨fun s => ?_, fun q v => ?_⟩
        · simp [hswitches', hswitches, or_assoc]
        -- an option that waits gets the argument after it, here as in `Gives`
        · rw [hvalues', hrecords, hwaits, gives_cons_iff, List.head?_cons, Option.some_inj]
          grind

end Progress

/-- The settings file of the environment is second to that of the arguments. -/
theorem Progress.configFile_eq_ok {p : Progress} {fallback config : Option String}
    (h : p.configFile fallback = .ok config) : config = (p.values.lookup .config).or fallback := by
  unfold configFile at h
  split at h
  next file _ hfile => rw [hfile, ← Except.ok.inj h, Option.some_or]
  next hnone => rw [hnone, ← Except.ok.inj h, Option.none_or]
  next file hnone =>
    rw [hnone, Option.none_or]
    cases hcheck : Parameter.config.check file with
    | error e =>
        rw [hcheck] at h
        cases h
    | ok =>
        rw [hcheck] at h
        exact (Except.ok.inj h).symm

/-! ### Invocations -/

/-- **What accepted arguments say** about how to serve: whether over the network, whether to log
what happens inside, and with which settings file. A file that the arguments give comes before the
one of the environment. -/
theorem Invocation.says_of_serve {arguments : List String} {fallback : Option String}
    {a : Arguments} (h : ofArguments arguments fallback = .serve a) :
    (a.tcp = true ↔ "--tcp" ∈ arguments) ∧
    (a.verbose = true ↔ "--verbose" ∈ arguments ∨ "-v" ∈ arguments) ∧
    ∀ file, a.config = some file ↔
      Gives arguments .config file ∨
        (∀ other, ¬ Gives arguments .config other) ∧ fallback = some file := by
  rw [ofArguments] at h
  split at h
  next => cases h
  next p htake =>
    obtain ⟨hswitches, hvalues⟩ := Progress.says_of_takeAll htake
    have hon : ∀ s, s ∈ p.switches ↔ ∃ a ∈ arguments, a ∈ s.spellings := by
      intro s
      rw [hswitches]
      simp
    have hgiven : ∀ file, p.values.lookup .config = some file ↔ Gives arguments .config file := by
      intro file
      rw [hvalues]
      simp [Progress.Records]
    split at h
    next => cases h
    next config hconfig =>
      obtain rfl : p.arguments config = a := by cases h; rfl
      refine ⟨?_, ?_, fun file => ?_⟩
      · simp [Progress.arguments, hon, Switch.spellings]
      · simp only [Progress.arguments, decide_eq_true_eq, hon, Switch.spellings, List.mem_cons,
          List.not_mem_nil, or_false]
        constructor
        · rintro ⟨a, ha, rfl | rfl⟩
          · exact Or.inl ha
          · exact Or.inr ha
        · rintro (ha | ha)
          · exact ⟨_, ha, Or.inl rfl⟩
          · exact ⟨_, ha, Or.inr rfl⟩
      · simp only [Progress.arguments, Progress.configFile_eq_ok hconfig, ← hgiven]
        cases p.values.lookup .config <;> simp

end LangServer
