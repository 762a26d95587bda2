import Mathlib.Data.List.Induction
import Mathlib.Data.List.TakeWhile
import Mathlib.Data.Nat.Digits.Defs
import LangServer.Address

/-!
# The Grammar of Addresses

The texts that spell an internet address with a port, said without the reader, and the proof that
the reader accepts exactly these. A host is a dotted quad, or an address of version 6 in brackets,
with a scope or not (`SpellsHost`). The eight groups of the latter are written out, the last two as
a dotted quad or not, or some of them are left out at a double colon (`SpellsV6`). The value of a
numeral is the one that the library gives to its digits (`IsNumeral`).

## Reading off the front

A reader takes as much as it can off the front of a text, so what it takes depends on what follows:
a numeral is read whole if no digit comes after it (`Stops`), and groups if they end there (`Ends`).

## Main statements

* `Address.number_eq_some_iff`, `Address.ipv4_eq_some_iff`: what the readers of numerals and dotted
  quads take off the front of a text.
* `Address.exists_of_groups`, `Address.groups_of_spellsPart`: the same for groups, both ways.
* `SocketAddress.parse?_eq_some_iff`: the texts that spell an address with a port.
-/

namespace LangServer

/-- A character that has to come first is the first one. -/
theorem Text.expect_eq_some_iff {c : Char} {s r : Text} : expect c s = some r ↔ s = c :: r := by
  cases s with
  | nil => simp [expect]
  | cons d s => by_cases h : c = d <;> simp [expect, h, eq_comm]

namespace Address

/-! ### Numerals -/

/-- A text **spells a number** in a base: digits, at most `most` of them if there is a bound, and
without needless zeros if these are not allowed. -/
structure IsNumeral (base : Nat) (isDigit : Char → Bool) (most : Option Nat) (zeros : Bool)
    (t : Text) (n : Nat) : Prop where
  nonempty : t ≠ []
  digits : ∀ c ∈ t, isDigit c
  length : ∀ m, most = some m → t.length ≤ m
  needed : zeros = false → t.head? = some '0' → t.length = 1
  value : Nat.ofDigits base (t.reverse.map fun c => (Text.hexDigit? c).getD 0) = n

/-- The next character, if there is one, is **no digit**. -/
def Stops (isDigit : Char → Bool) (r : Text) : Prop :=
  ∀ c, r.head? = some c → isDigit c = false

/-- The number that digits spell is the library's. -/
theorem numeral_eq_ofDigits (base : Nat) (t : Text) :
    Text.numeral base t =
      Nat.ofDigits base (t.reverse.map fun c => (Text.hexDigit? c).getD 0) := by
  induction t using List.reverseRecOn with
  | nil => rfl
  | append_singleton t c ih =>
      rw [Text.numeral, List.foldl_append, ← Text.numeral, ih, List.reverse_concat, List.map_cons,
        Nat.ofDigits_cons, List.foldl_cons, List.foldl_nil, Nat.mul_comm, Nat.add_comm]

/-- Digits end **where they stop**. -/
theorem takeWhile_append_of_stops {isDigit : Char → Bool} {t r : Text}
    (ht : ∀ c ∈ t, isDigit c) (hr : Stops isDigit r) :
    (t ++ r).takeWhile isDigit = t ∧ (t ++ r).dropWhile isDigit = r := by
  rw [List.takeWhile_append_of_pos ht, List.dropWhile_append_of_pos ht]
  cases r with
  | nil => simp
  | cons c r =>
      have hc : ¬ isDigit c := by simp [hr c rfl]
      simp [hc]

variable {base : Nat} {isDigit : Char → Bool} {most : Option Nat} {zeros : Bool}

/-- **What the reader of numerals takes** off the front of a text: a numeral with no digit after
it. -/
theorem number_eq_some_iff {s r : Text} {n : Nat} :
    number base isDigit most zeros s = some (n, r) ↔
      ∃ t, s = t ++ r ∧ IsNumeral base isDigit most zeros t n ∧ Stops isDigit r := by
  constructor
  · intro h
    rw [number] at h
    split at h
    · cases h
    next hdigits =>
      obtain ⟨hvalue, rfl⟩ := Prod.mk.inj (Option.some.inj h)
      simp only [not_or, not_and] at hdigits
      obtain ⟨hnonempty, hmost, hzeros⟩ := hdigits
      refine ⟨s.takeWhile isDigit, List.takeWhile_append_dropWhile.symm,
        ⟨hnonempty, ?_, ?_, ?_, ?_⟩, ?_⟩
      · intro c hc
        exact List.mem_takeWhile_imp hc
      · rintro m rfl
        simpa using hmost
      · intro hneeded hzero
        have hlength := List.length_pos_iff.mpr hnonempty
        have hone := hzeros hneeded hzero
        omega
      · rw [← numeral_eq_ofDigits]
        exact hvalue
      · intro c hc
        have hhead := List.head?_dropWhile_not isDigit s
        rw [hc] at hhead
        simpa using hhead
  · rintro ⟨t, rfl, ht, hr⟩
    obtain ⟨htake, hdrop⟩ := takeWhile_append_of_stops ht.digits hr
    rw [number, htake, hdrop, if_neg]
    · rw [numeral_eq_ofDigits, ht.value]
    · rintro (hnil | hmost | ⟨hzeros, hzero, hlength⟩)
      · exact ht.nonempty hnil
      · cases most with
        | none => cases hmost
        | some m =>
            have hle := ht.length m rfl
            simp only [Option.any_some, decide_eq_true_eq] at hmost
            omega
      · have hone := ht.needed hzeros hzero
        omega

/-- The same with a bound on the number. -/
theorem numberUpTo_eq_some_iff {bound : Nat} {s r : Text} {n : Nat} :
    numberUpTo bound base isDigit most zeros s = some (n, r) ↔
      ∃ t, s = t ++ r ∧ (IsNumeral base isDigit most zeros t n ∧ n ≤ bound) ∧ Stops isDigit r := by
  rw [numberUpTo, Option.bind_eq_some_iff]
  constructor
  · rintro ⟨⟨m, r'⟩, hnumber, hbound⟩
    split at hbound
    next hle =>
      obtain ⟨rfl, rfl⟩ := Prod.mk.inj (Option.some.inj hbound)
      obtain ⟨t, hs, ht, hr⟩ := number_eq_some_iff.mp hnumber
      exact ⟨t, hs, ⟨ht, hle⟩, hr⟩
    next => cases hbound
  · rintro ⟨t, hs, ⟨ht, hle⟩, hr⟩
    exact ⟨(n, r), number_eq_some_iff.mpr ⟨t, hs, ht, hr⟩, if_pos hle⟩

/-- A numeral starts with a digit. -/
theorem IsNumeral.exists_cons {t : Text} {n : Nat} (h : IsNumeral base isDigit most zeros t n) :
    ∃ c u, t = c :: u ∧ isDigit c := by
  obtain ⟨c, u, rfl⟩ := List.exists_cons_of_ne_nil h.nonempty
  exact ⟨c, u, rfl, h.digits c List.mem_cons_self⟩

/-! ### Dotted quads -/

/-- One number of a dotted quad. -/
def IsOctet (t : Text) (n : Nat) : Prop :=
  IsNumeral 10 Char.isDigit (some 3) false t n ∧ n ≤ 255

/-- A text spells an address of version 4: a **dotted quad**. -/
inductive SpellsV4 : Text → Ipv4 → Prop
  | quad {t₁ t₂ t₃ t₄ : Text} {a b c d : Nat} :
      IsOctet t₁ a → IsOctet t₂ b → IsOctet t₃ c → IsOctet t₄ d →
      SpellsV4 (t₁ ++ '.' :: (t₂ ++ '.' :: (t₃ ++ '.' :: t₄))) ⟨a, b, c, d⟩

theorem octet_eq_some_iff {s r : Text} {n : Nat} :
    octet s = some (n, r) ↔ ∃ t, s = t ++ r ∧ IsOctet t n ∧ Stops Char.isDigit r :=
  numberUpTo_eq_some_iff

/-- What follows a point or a colon is not part of a number. -/
theorem stops_cons {isDigit : Char → Bool} {c : Char} (h : isDigit c = false) (r : Text) :
    Stops isDigit (c :: r) := by
  rintro _ ⟨⟩
  exact h

/-- **What the reader of dotted quads takes** off the front of a text. -/
theorem ipv4_eq_some_iff {s r : Text} {x : Ipv4} :
    ipv4 s = some (x, r) ↔ ∃ t, s = t ++ r ∧ SpellsV4 t x ∧ Stops Char.isDigit r := by
  constructor
  · intro h
    simp only [ipv4, Option.bind_eq_bind, Option.bind_eq_some_iff, Prod.exists,
      octet_eq_some_iff, Text.expect_eq_some_iff, Option.pure_def, Option.some.injEq,
      Prod.mk.injEq] at h
    obtain ⟨a, _, ⟨t₁, rfl, h₁, -⟩, _, rfl, b, _, ⟨t₂, rfl, h₂, -⟩, _, rfl, c, _,
      ⟨t₃, rfl, h₃, -⟩, _, rfl, d, r', ⟨t₄, rfl, h₄, hr⟩, rfl, rfl⟩ := h
    exact ⟨_, by simp, .quad h₁ h₂ h₃ h₄, hr⟩
  · rintro ⟨_, rfl, ⟨h₁, h₂, h₃, h₄⟩, hr⟩
    have hpoint (u : Text) : Stops Char.isDigit ('.' :: u) := stops_cons (by decide) u
    simp only [ipv4, Option.bind_eq_bind, Option.bind_eq_some_iff, Prod.exists,
      octet_eq_some_iff, Text.expect_eq_some_iff, Option.pure_def, Option.some.injEq,
      Prod.mk.injEq]
    refine ⟨_, _, ⟨_, ?_, h₁, hpoint _⟩, _, rfl, _, _, ⟨_, rfl, h₂, hpoint _⟩, _, rfl, _, _,
      ⟨_, rfl, h₃, hpoint _⟩, _, rfl, _, _, ⟨_, rfl, h₄, hr⟩, rfl, rfl⟩
    simp only [List.append_assoc, List.cons_append]

/-! ### Groups -/

/-- One group of an address of version 6. -/
def IsGroup (t : Text) (n : Nat) : Prop :=
  IsNumeral 16 Text.isHexDigit (some 4) true t n

/-- A text spells some **groups** with colons between them, the last two of which are a dotted quad
or not. -/
inductive SpellsGroups : Bool → Text → List Nat → Prop
  | group {t : Text} {g : Nat} : IsGroup t g → SpellsGroups false t [g]
  | quad {t : Text} {x : Ipv4} : SpellsV4 t x → SpellsGroups true t (embedded x)
  | cons {dotted : Bool} {t u : Text} {g : Nat} {gs : List Nat} : IsGroup t g →
      SpellsGroups dotted u gs → SpellsGroups dotted (t ++ ':' :: u) (g :: gs)

/-- The same, or there is nothing at all. -/
inductive SpellsPart : Bool → Text → List Nat → Prop
  | nothing : SpellsPart false [] []
  | groups {dotted : Bool} {t : Text} {gs : List Nat} :
      SpellsGroups dotted t gs → SpellsPart dotted t gs

/-- What can follow groups: the end of the address or a double colon. -/
inductive Ends : Text → Prop
  | bracket (r : Text) : Ends (']' :: r)
  | percent (r : Text) : Ends ('%' :: r)
  | colons (r : Text) : Ends (':' :: ':' :: r)

theorem group_eq_some_iff {s r : Text} {n : Nat} :
    group s = some (n, r) ↔ ∃ t, s = t ++ r ∧ IsGroup t n ∧ Stops Text.isHexDigit r :=
  number_eq_some_iff

/-- A decimal digit is a hexadecimal one. -/
theorem isHexDigit_of_isDigit {c : Char} (h : c.isDigit) : Text.isHexDigit c := by
  rw [Char.isDigit, Bool.and_eq_true, decide_eq_true_eq, decide_eq_true_eq] at h
  have hc : '0' ≤ c ∧ c ≤ '9' := h
  rw [Text.isHexDigit, Text.hexDigit?, if_pos hc]
  rfl

/-- Where no digit comes first there is **no group**. -/
theorem group_eq_none {s : Text} (h : Stops Text.isHexDigit s) : group s = none := by
  cases hgroup : group s with
  | none => rfl
  | some p =>
      obtain ⟨t, rfl, ht, -⟩ := group_eq_some_iff.mp hgroup
      obtain ⟨c, u, rfl, hc⟩ := IsNumeral.exists_cons ht
      rw [h c rfl] at hc
      cases hc

/-- Where digits come first and no point follows them there is **no dotted quad**. -/
theorem ipv4_eq_none {t r : Text} (ht : ∀ c ∈ t, Text.isHexDigit c)
    (hr : Stops Text.isHexDigit r) (hpoint : r.head? ≠ some '.') : ipv4 (t ++ r) = none := by
  cases hquad : ipv4 (t ++ r) with
  | none => rfl
  | some p =>
      obtain ⟨x, u⟩ := p
      obtain ⟨_, hs, ⟨⟨h₁, -⟩, -, -, -⟩, -⟩ := ipv4_eq_some_iff.mp hquad
      -- the first character that is no digit is the one after `t`, and it is the first point
      rw [List.append_assoc, List.cons_append] at hs
      have hdigits := fun c hc => isHexDigit_of_isDigit (h₁.digits c hc)
      have hrest := congrArg (List.dropWhile Text.isHexDigit) hs
      rw [(takeWhile_append_of_stops ht hr).2,
        (takeWhile_append_of_stops hdigits (stops_cons (by decide) _)).2] at hrest
      rw [hrest] at hpoint
      exact absurd rfl hpoint

/-- Where no digit comes first there is no dotted quad either. -/
theorem ipv4_eq_none_of_stops {s : Text} (h : Stops Text.isHexDigit s)
    (hpoint : s.head? ≠ some '.') : ipv4 s = none :=
  ipv4_eq_none (List.forall_mem_nil _) h hpoint

/-- What can follow groups is part of none. -/
theorem Ends.stops {r : Text} (h : Ends r) :
    Stops Text.isHexDigit r ∧ Stops Char.isDigit r ∧ r.head? ≠ some '.' := by
  cases h <;> exact ⟨stops_cons (by decide) _, stops_cons (by decide) _, by simp⟩

section Reader

variable (n : Nat) (first : Bool) {s r : Text}

/-- A dotted quad ends the groups. -/
theorem groups_of_quad {x : Ipv4} (h : ipv4 s = some (x, r)) :
    groups (n + 2) first (if first then s else ':' :: s) = (embedded x, true, r) := by
  cases first <;> simp [groups, Text.expect, h]

/-- A group goes before the others. -/
theorem groups_of_group {g : Nat} (hquad : ipv4 s = none) (h : group s = some (g, r)) :
    groups (n + 1) first (if first then s else ':' :: s) =
      (g :: (groups n false r).1, (groups n false r).2) := by
  cases first <;> simp [groups, Text.expect, hquad, h]

/-- Where there is neither there are no groups. -/
theorem groups_of_neither (hquad : ipv4 s = none) (h : group s = none) :
    groups (n + 1) first (if first then s else ':' :: s) =
      ([], false, if first then s else ':' :: s) := by
  cases first <;> simp [groups, Text.expect, hquad, h]

end Reader

/-- Nothing is read of what can follow groups. -/
theorem groups_of_ends {r : Text} (h : Ends r) (n : Nat) (first : Bool) :
    groups n first r = ([], false, r) := by
  have hneither {s : Text} (hs : Stops Text.isHexDigit s) (hpoint : s.head? ≠ some '.') :
      ipv4 s = none ∧ group s = none :=
    ⟨ipv4_eq_none_of_stops hs hpoint, group_eq_none hs⟩
  cases n with
  | zero => rfl
  | succ n =>
      cases first with
      | true =>
          obtain ⟨hquad, hgroup⟩ := hneither h.stops.1 h.stops.2.2
          exact groups_of_neither n _ hquad hgroup
      | false =>
          cases h with
          | bracket r => rfl
          | percent r => rfl
          | colons r =>
              -- after the first colon there is another one, so it is not taken either
              obtain ⟨hquad, hgroup⟩ := hneither (stops_cons (c := ':') (by decide) r) (by simp)
              exact groups_of_neither n _ hquad hgroup

/-- **Groups are read** up to where they end. The induction is on how they are spelled; the number
of groups that may still come goes down with it. -/
theorem groups_of_spellsGroups {dotted : Bool} {t r : Text} {gs : List Nat}
    (h : SpellsGroups dotted t gs) (hr : Ends r) {n : Nat} (hn : gs.length ≤ n) (first : Bool) :
    groups n first (if first then t ++ r else ':' :: (t ++ r)) = (gs, dotted, r) := by
  obtain ⟨hhex, hdigit, hpoint⟩ := hr.stops
  obtain ⟨m, rfl⟩ := Nat.exists_eq_add_of_le' hn
  induction h generalizing first with
  | group ht =>
      have hgroup := group_eq_some_iff.mpr ⟨_, rfl, ht, hhex⟩
      have hstep := groups_of_group m first (ipv4_eq_none ht.digits hhex hpoint) hgroup
      rw [groups_of_ends hr] at hstep
      exact hstep
  | quad ht =>
      exact groups_of_quad m first (ipv4_eq_some_iff.mpr ⟨_, rfl, ht, hdigit⟩)
  | @cons _ t u g gs ht _ ih =>
      have hcolon : Stops Text.isHexDigit (':' :: (u ++ r)) := stops_cons (by decide) _
      have hgroup := group_eq_some_iff.mpr ⟨t, rfl, ht, hcolon⟩
      have hquad := ipv4_eq_none ht.digits hcolon (by simp)
      have hstep := groups_of_group (m + gs.length) first hquad hgroup
      have hrest := ih false (Nat.le_add_left _ _)
      rw [if_neg Bool.false_ne_true] at hrest
      rw [hrest] at hstep
      rw [List.append_assoc, List.cons_append]
      exact hstep

/-- The same where there may be nothing at all. -/
theorem groups_of_spellsPart {dotted : Bool} {t r : Text} {gs : List Nat}
    (h : SpellsPart dotted t gs) (hr : Ends r) {n : Nat} (hn : gs.length ≤ n) :
    groups n true (t ++ r) = (gs, dotted, r) := by
  cases h with
  | nothing => exact groups_of_ends hr n true
  | groups h => exact groups_of_spellsGroups h hr hn true

/-- **What the reader of groups takes** off a text are groups, as many as it may or fewer. -/
theorem exists_of_groups {n : Nat} {first dotted : Bool} {s r : Text} {gs : List Nat}
    (h : groups n first s = (gs, dotted, r)) :
    (gs = [] ∧ dotted = false ∧ s = r) ∨
      ∃ t, SpellsGroups dotted t gs ∧ gs.length ≤ n ∧
        s = if first then t ++ r else ':' :: (t ++ r) := by
  induction n generalizing first dotted s r gs with
  | zero =>
      simp only [groups, Prod.mk.injEq] at h
      obtain ⟨rfl, rfl, rfl⟩ := h
      exact Or.inl ⟨rfl, rfl, rfl⟩
  | succ n ih =>
      rw [groups] at h
      split at h
      next =>
        simp only [Prod.mk.injEq] at h
        obtain ⟨rfl, rfl, rfl⟩ := h
        exact Or.inl ⟨rfl, rfl, rfl⟩
      next u hcolon =>
        have hs : s = if first then u else ':' :: u := by
          cases first with
          | true => exact Option.some.inj hcolon
          | false => exact Text.expect_eq_some_iff.mp hcolon
        split at h
        next x v hquad =>
          simp only [Prod.mk.injEq] at h
          obtain ⟨rfl, rfl, rfl⟩ := h
          split at hquad
          next hn =>
            obtain ⟨t, rfl, ht, -⟩ := ipv4_eq_some_iff.mp hquad
            exact Or.inr ⟨t, .quad ht, Nat.succ_le_succ hn, hs⟩
          next => cases hquad
        next =>
          split at h
          next =>
            simp only [Prod.mk.injEq] at h
            obtain ⟨rfl, rfl, rfl⟩ := h
            exact Or.inl ⟨rfl, rfl, rfl⟩
          next g v hgroup =>
            obtain ⟨t, rfl, ht, -⟩ := group_eq_some_iff.mp hgroup
            cases hrest : groups n false v with
            | mk others rest =>
                obtain ⟨dotted', r'⟩ := rest
                rw [hrest] at h
                simp only [Prod.mk.injEq] at h
                obtain ⟨rfl, rfl, rfl⟩ := h
                right
                rcases ih hrest with ⟨rfl, rfl, rfl⟩ | ⟨w, hw, hlength, rfl⟩
                · exact ⟨t, .group ht, Nat.succ_le_succ (Nat.zero_le n), hs⟩
                · refine ⟨_, .cons ht hw, Nat.succ_le_succ hlength, ?_⟩
                  rw [List.append_assoc]
                  exact hs

/-- What it takes off the front of a text, if anything. -/
theorem exists_part_of_groups {n : Nat} {dotted : Bool} {s r : Text} {gs : List Nat}
    (h : groups n true s = (gs, dotted, r)) :
    ∃ t, s = t ++ r ∧ SpellsPart dotted t gs ∧ gs.length ≤ n := by
  rcases exists_of_groups h with ⟨rfl, rfl, rfl⟩ | ⟨t, ht, hlength, rfl⟩
  · exact ⟨[], rfl, .nothing, Nat.zero_le n⟩
  · exact ⟨t, rfl, .groups ht, hlength⟩

/-! ### Addresses of version 6 -/

/-- A text spells an **address of version 6**: all of its groups, or those before and those after a
double colon, which stands for at least one. -/
inductive SpellsV6 : Text → List Nat → Prop
  | full {dotted : Bool} {t : Text} {gs : List Nat} :
      SpellsGroups dotted t gs → gs.length = 8 → SpellsV6 t gs
  | short {dotted : Bool} {t u : Text} {gs hs : List Nat} :
      SpellsPart false t gs → SpellsPart dotted u hs → gs.length + hs.length < 8 →
      SpellsV6 (t ++ ':' :: ':' :: u) (gs ++ List.replicate (8 - gs.length - hs.length) 0 ++ hs)

/-- An address of version 6 is read **up to where it ends**. -/
theorem ipv6_of_spellsV6 {t r : Text} {gs : List Nat} (h : SpellsV6 t gs) (hr : Ends r) :
    ipv6 (t ++ r) = some (gs, r) := by
  cases h with
  | full ht hlength =>
      have hgroups := groups_of_spellsPart (.groups ht) hr hlength.le
      rw [ipv6, hgroups]
      exact if_pos hlength
  | @short dotted t u gs hs ht hu hlength =>
      have hhead : groups 8 true (t ++ ':' :: ':' :: (u ++ r)) =
          (gs, false, ':' :: ':' :: (u ++ r)) :=
        groups_of_spellsPart ht (.colons _) (by omega)
      have htail : groups (7 - gs.length) true (u ++ r) = (hs, dotted, r) :=
        groups_of_spellsPart hu hr (by omega)
      rw [List.append_assoc, List.cons_append, List.cons_append, ipv6, hhead]
      simp only [Bool.false_eq_true, if_false, htail, if_neg (show gs.length ≠ 8 by omega)]

/-- **What the reader of addresses of version 6 takes** off the front of a text is one. -/
theorem exists_of_ipv6 {s r : Text} {gs : List Nat} (h : ipv6 s = some (gs, r)) :
    ∃ t, s = t ++ r ∧ SpellsV6 t gs := by
  rw [ipv6] at h
  cases hhead : groups 8 true s with
  | mk head rest =>
      obtain ⟨dotted, u⟩ := rest
      obtain ⟨t, rfl, ht, hle⟩ := exists_part_of_groups hhead
      rw [hhead] at h
      simp only at h
      split at h
      next hlength =>
        obtain ⟨rfl, rfl⟩ := Prod.mk.inj (Option.some.inj h)
        cases ht with
        | nothing => cases hlength
        | groups ht => exact ⟨t, rfl, .full ht hlength⟩
      next hlength =>
        split at h
        next => cases h
        next hdotted =>
          rw [Bool.not_eq_true] at hdotted
          subst hdotted
          split at h
          next v =>
            cases htail : groups (7 - head.length) true v with
            | mk tail rest =>
                obtain ⟨dotted, w⟩ := rest
                obtain ⟨x, rfl, hx, htail'⟩ := exists_part_of_groups htail
                rw [htail] at h
                obtain ⟨rfl, rfl⟩ := Prod.mk.inj (Option.some.inj h)
                have hsum : head.length + tail.length < 8 := by omega
                exact ⟨t ++ ':' :: ':' :: x, by simp, .short ht hx hsum⟩
          next => cases h

/-! ### Scopes and ports -/

/-- A text spells a **scope**; no scope is scope zero. -/
inductive SpellsScope : Text → Nat → Prop
  | absent : SpellsScope [] 0
  | present {t : Text} {n : Nat} : IsNumeral 10 Char.isDigit none true t n → n ≤ 4294967295 →
      SpellsScope ('%' :: t) n

/-- A text spells a **port**. -/
def IsPort (t : Text) (n : Nat) : Prop :=
  IsNumeral 10 Char.isDigit none true t n ∧ n ≤ 65535

/-- A scope is read up to the bracket. -/
theorem scope_of_spellsScope {t : Text} {n : Nat} (h : SpellsScope t n) (r : Text) :
    scope (t ++ ']' :: r) = (n, ']' :: r) := by
  cases h with
  | absent => rfl
  | present ht hn =>
      have hnumber := numberUpTo_eq_some_iff.mpr
        ⟨_, rfl, ⟨ht, hn⟩, stops_cons (c := ']') (by decide) r⟩
      rw [List.cons_append, scope, hnumber]
      rfl

/-- What is read before a bracket is a scope. -/
theorem exists_of_scope {s r : Text} {n : Nat} (h : scope s = (n, ']' :: r)) :
    ∃ t, s = t ++ ']' :: r ∧ SpellsScope t n := by
  unfold scope at h
  split at h
  next u =>
    cases hnumber : numberUpTo 4294967295 10 Char.isDigit none true u with
    | none =>
        -- a sign without a number is left where it is, and it is no bracket
        rw [hnumber] at h
        cases (Prod.mk.inj h).2
    | some p =>
        rw [hnumber] at h
        obtain rfl : p = (n, ']' :: r) := h
        obtain ⟨t, rfl, ⟨ht, hn⟩, -⟩ := numberUpTo_eq_some_iff.mp hnumber
        exact ⟨'%' :: t, rfl, .present ht hn⟩
  next =>
    obtain ⟨rfl, rfl⟩ := Prod.mk.inj h
    exact ⟨[], rfl, .absent⟩

/-- A colon and a port are all that is left exactly if a port follows the colon. -/
theorem port_eq_some_iff {s : Text} {n : Nat} :
    port s = some (n, []) ↔ ∃ t, s = ':' :: t ∧ IsPort t n := by
  rw [port, Option.bind_eq_some_iff]
  constructor
  · rintro ⟨u, hu, hnumber⟩
    obtain ⟨t, rfl, ht, -⟩ := numberUpTo_eq_some_iff.mp hnumber
    rw [List.append_nil] at hu
    exact ⟨t, Text.expect_eq_some_iff.mp hu, ht⟩
  · rintro ⟨t, rfl, ht⟩
    refine ⟨t, Text.expect_eq_some_iff.mpr rfl, numberUpTo_eq_some_iff.mpr ⟨t, ?_, ht, nofun⟩⟩
    rw [List.append_nil]

/-! ### Hosts -/

/-- A text spells the address of a **host**: a dotted quad, or an address of version 6 in brackets,
with a scope or not. -/
inductive SpellsHost : Text → IpAddress → Prop
  | v4 {t : Text} {x : Ipv4} : SpellsV4 t x → SpellsHost t (.v4 x)
  | v6 {t u : Text} {gs : List Nat} {n : Nat} : SpellsV6 t gs → SpellsScope u n →
      SpellsHost ('[' :: (t ++ u ++ [']'])) (.v6 gs n)

/-- A dotted quad with a port after it. -/
theorem socketV4_eq_some_iff {s : Text} {x : SocketAddress} :
    socketV4 s = some (x, []) ↔
      ∃ t d a n, s = t ++ ':' :: d ∧ SpellsV4 t a ∧ IsPort d n ∧ x = ⟨.v4 a, n⟩ := by
  simp only [socketV4, Option.bind_eq_bind, Option.bind_eq_some_iff, Prod.exists,
    ipv4_eq_some_iff, Option.pure_def, Option.some.injEq, Prod.mk.injEq]
  constructor
  · rintro ⟨a, _, ⟨t, rfl, ht, -⟩, n, _, hport, rfl, rfl⟩
    obtain ⟨d, rfl, hd⟩ := port_eq_some_iff.mp hport
    exact ⟨t, d, a, n, rfl, ht, hd, rfl⟩
  · rintro ⟨t, d, a, n, rfl, ht, hd, rfl⟩
    exact ⟨a, ':' :: d, ⟨t, rfl, ht, stops_cons (by decide) d⟩, n, [],
      port_eq_some_iff.mpr ⟨d, rfl, hd⟩, rfl, rfl⟩

/-- An address of version 6 in brackets with a port after it. -/
theorem socketV6_eq_some_iff {s : Text} {x : SocketAddress} :
    socketV6 s = some (x, []) ↔
      ∃ t u d gs m n, s = '[' :: (t ++ u ++ [']']) ++ ':' :: d ∧ SpellsV6 t gs ∧ SpellsScope u m ∧
        IsPort d n ∧ x = ⟨.v6 gs m, n⟩ := by
  simp only [socketV6, Option.bind_eq_bind, Option.bind_eq_some_iff, Prod.exists,
    Text.expect_eq_some_iff, Option.pure_def, Option.some.injEq, Prod.mk.injEq]
  constructor
  · rintro ⟨_, rfl, gs, v, haddress, w, hscope, n, _, hport, rfl, rfl⟩
    obtain ⟨d, rfl, hd⟩ := port_eq_some_iff.mp hport
    obtain ⟨t, rfl, ht⟩ := exists_of_ipv6 haddress
    obtain ⟨u, rfl, hu⟩ := exists_of_scope (Prod.ext rfl hscope)
    exact ⟨t, u, d, gs, _, n, by simp, ht, hu, hd, rfl⟩
  · rintro ⟨t, u, d, gs, m, n, rfl, ht, hu, hd, rfl⟩
    have hends : Ends (u ++ ']' :: ':' :: d) := by
      cases hu with
      | absent => exact .bracket _
      | present => exact .percent _
    have hscope := scope_of_spellsScope hu (':' :: d)
    refine ⟨t ++ (u ++ ']' :: ':' :: d), by simp, gs, _, ipv6_of_spellsV6 ht hends, ':' :: d, ?_⟩
    rw [hscope]
    exact ⟨rfl, n, [], port_eq_some_iff.mpr ⟨d, rfl, hd⟩, rfl, rfl⟩

end Address

open Address

/-- **The texts that spell an address with a port**: a host, a colon and a port, and no more. -/
theorem SocketAddress.parse?_eq_some_iff {s : Text} {x : SocketAddress} :
    parse? s = some x ↔ ∃ t d, s = t ++ ':' :: d ∧ SpellsHost t x.ip ∧ IsPort d x.port := by
  constructor
  · intro h
    have hread : (socketV4 s).or (socketV6 s) = some (x, []) := by
      rw [parse?] at h
      split at h
      next y hy => rw [hy, Option.some.inj h]
      next => cases h
    rcases Option.or_eq_some_iff.mp hread with hfour | ⟨-, hsix⟩
    · obtain ⟨t, d, a, n, rfl, ht, hd, rfl⟩ := socketV4_eq_some_iff.mp hfour
      exact ⟨t, d, rfl, .v4 ht, hd⟩
    · obtain ⟨t, u, d, gs, m, n, rfl, ht, hu, hd, rfl⟩ := socketV6_eq_some_iff.mp hsix
      exact ⟨_, d, rfl, .v6 ht hu, hd⟩
  · obtain ⟨ip, port⟩ := x
    rintro ⟨t, d, rfl, hhost, hd⟩
    cases hhost with
    | v4 ht =>
        have hfour := socketV4_eq_some_iff.mpr ⟨t, d, _, port, rfl, ht, hd, rfl⟩
        rw [parse?, hfour]
        rfl
    | @v6 t u _ _ ht hu =>
        have hsix := socketV6_eq_some_iff.mpr ⟨t, u, d, _, _, port, rfl, ht, hu, hd, rfl⟩
        -- a bracket is no digit, so the reader of dotted quads has nothing to say
        have hquad : ipv4 ('[' :: (t ++ u ++ [']']) ++ ':' :: d) = none :=
          ipv4_eq_none_of_stops (stops_cons (by decide) _) (by simp)
        have hfour : socketV4 ('[' :: (t ++ u ++ [']']) ++ ':' :: d) = none := by
          rw [socketV4, hquad]
          rfl
        rw [parse?, hfour, Option.none_or, hsix]

end LangServer
