import LangServer.Proofs.AddressGrammar

/-!
# Hosts and Ports

A host and a port are put together with a colon between them, and what comes of it is read as one
text. This module shows that the reader takes the two apart where they were put together: it accepts
a host exactly if the host by itself is an address, and then gives that address and that port.

That the place is the same follows from the port, which has no colon on either side. What a host
cannot be follows from its characters: a dotted quad has digits and three points, and an address in
brackets has no bracket inside.

## Main statements

* `Address.SpellsHost.of_append`: what can be written after a host so that it stays one.
* `socketAddress?_eq_some_iff`: the hosts that are accepted.
* `socketAddress_exact`: the same, with what follows from it.
-/

namespace LangServer

namespace Address

/-! ### The characters of hosts -/

/-- A dotted quad has digits and three points. -/
theorem SpellsV4.chars {t : Text} {x : Ipv4} (h : SpellsV4 t x) :
    (∀ c ∈ t, c.isDigit ∨ c = '.') ∧ t.count '.' = 3 := by
  obtain ⟨⟨h₁, -⟩, ⟨h₂, -⟩, ⟨h₃, -⟩, ⟨h₄, -⟩⟩ := h
  have hzero {u : Text} (hu : ∀ c ∈ u, c.isDigit) : u.count '.' = 0 :=
    List.count_eq_zero.mpr fun hmem => absurd (hu '.' hmem) (by decide)
  constructor
  · simp only [List.mem_append, List.mem_cons]
    rintro c (hc | rfl | hc | rfl | hc | rfl | hc)
    · exact Or.inl (h₁.digits c hc)
    · exact Or.inr rfl
    · exact Or.inl (h₂.digits c hc)
    · exact Or.inr rfl
    · exact Or.inl (h₃.digits c hc)
    · exact Or.inr rfl
    · exact Or.inl (h₄.digits c hc)
  · simp [List.count_append, hzero h₁.digits, hzero h₂.digits, hzero h₃.digits, hzero h₄.digits]

/-- The characters of an address of version 6. -/
def IsV6Char (c : Char) : Prop :=
  Text.isHexDigit c ∨ c = ':' ∨ c = '.'

/-- Groups have no others. -/
theorem SpellsGroups.chars {dotted : Bool} {t : Text} {gs : List Nat}
    (h : SpellsGroups dotted t gs) : ∀ c ∈ t, IsV6Char c := by
  induction h with
  | group ht =>
      intro c hc
      exact Or.inl (ht.digits c hc)
  | quad ht =>
      intro c hc
      rcases ht.chars.1 c hc with hdigit | hpoint
      · exact Or.inl (isHexDigit_of_isDigit hdigit)
      · exact Or.inr (Or.inr hpoint)
  | cons ht _ ih =>
      simp only [List.mem_append, List.mem_cons]
      rintro c (hc | rfl | hc)
      · exact Or.inl (ht.digits c hc)
      · exact Or.inr (Or.inl rfl)
      · exact ih c hc

/-- Nor has an address of version 6, and it has a colon. -/
theorem SpellsV6.chars {t : Text} {gs : List Nat} (h : SpellsV6 t gs) :
    (∀ c ∈ t, IsV6Char c) ∧ ':' ∈ t := by
  cases h with
  | full ht hlength =>
      refine ⟨ht.chars, ?_⟩
      -- without a colon there are at most two groups
      cases ht with
      | group => cases hlength
      | quad => cases hlength
      | cons => simp
  | short ht hu _ =>
      have hpart {dotted : Bool} {t : Text} {gs : List Nat} (h : SpellsPart dotted t gs) :
          ∀ c ∈ t, IsV6Char c := by
        cases h with
        | nothing => exact List.forall_mem_nil _
        | groups h => exact h.chars
      refine ⟨?_, by simp⟩
      simp only [List.mem_append, List.mem_cons]
      rintro c (hc | rfl | rfl | hc)
      · exact hpart ht c hc
      · exact Or.inr (Or.inl rfl)
      · exact Or.inr (Or.inl rfl)
      · exact hpart hu c hc

/-- A host in brackets has **no other bracket**. -/
theorem SpellsHost.brackets {t : Text} {ip : IpAddress} (h : SpellsHost t ip) :
    (∃ x, ip = .v4 x ∧ SpellsV4 t x) ∨
      (∃ gs n, ip = .v6 gs n) ∧ ∃ u, t = '[' :: (u ++ [']']) ∧ ']' ∉ u := by
  cases h with
  | v4 h => exact Or.inl ⟨_, rfl, h⟩
  | v6 ht hu =>
      refine Or.inr ⟨⟨_, _, rfl⟩, _, rfl, ?_⟩
      rw [List.mem_append, not_or]
      constructor
      · intro hmem
        rcases ht.chars.1 _ hmem with h | h | h <;> exact absurd h (by decide)
      · intro hmem
        cases hu with
        | absent => cases hmem
        | present hscope _ =>
            rcases List.mem_cons.mp hmem with h | h
            · exact absurd h (by decide)
            · exact absurd (hscope.digits _ h) (by decide)

/-- A dotted quad does not start with a bracket, nor does it have a colon. -/
theorem SpellsV4.not_mem {t : Text} {x : Ipv4} (h : SpellsV4 t x) : '[' ∉ t ∧ ':' ∉ t := by
  constructor <;>
  · intro hmem
    rcases h.chars.1 _ hmem with h | h <;> exact absurd h (by decide)

/-- What can be **written after a host** so that it stays one are digits, and nothing after a
bracket. -/
theorem SpellsHost.of_append {t u : Text} {ip ip' : IpAddress} (h : SpellsHost t ip)
    (h' : SpellsHost (t ++ u) ip') : (∀ c ∈ u, c.isDigit) ∧ ((∃ gs n, ip = .v6 gs n) → u = []) := by
  rcases h.brackets with ⟨x, rfl, hx⟩ | ⟨⟨gs, n, rfl⟩, v, rfl, -⟩
  · refine ⟨?_, by simp⟩
    rcases h'.brackets with ⟨y, rfl, hy⟩ | ⟨-, w, hw, -⟩
    · intro c hc
      -- both have three points, so that none is left for the rest
      have hcount := hy.chars.2
      rw [List.count_append, hx.chars.2] at hcount
      have hpoint : '.' ∉ u := List.count_eq_zero.mp (by omega)
      rcases hy.chars.1 c (List.mem_append_right _ hc) with hdigit | rfl
      · exact hdigit
      · exact absurd hc hpoint
    · cases t with
      | nil => cases hx.chars.2
      | cons c t =>
          obtain rfl : c = '[' := (List.cons.inj hw).1
          exact absurd List.mem_cons_self hx.not_mem.1
  · have hnil : u = [] := by
      rcases h'.brackets with ⟨y, rfl, hy⟩ | ⟨-, w, hw, hbracket⟩
      · exact absurd List.mem_cons_self hy.not_mem.1
      · -- a last character after the bracket would leave the bracket inside
        rcases List.eq_nil_or_concat u with rfl | ⟨u, c, rfl⟩
        · rfl
        · have hinner : v ++ [']'] ++ u ++ [c] = w ++ [']'] := by simpa using hw
          rw [← (List.append_inj_left' hinner rfl)] at hbracket
          simp at hbracket
    subst hnil
    exact ⟨List.forall_mem_nil _, fun _ => rfl⟩

end Address

open Address

/-! ### Putting together and taking apart -/

/-- The decimal numeral of a number **reads back** as the number. -/
theorem Text.numeral_decimal (n : Nat) : numeral 10 (decimal n) = n := by
  have hdigit : ∀ d < 10, (hexDigit? d.digitChar).getD 0 = d := by
    decide
  induction n using Nat.strongRecOn with
  | ind n ih =>
      by_cases hn : n < 10
      · rw [decimal, Nat.toDigits_of_lt_base hn, numeral, List.foldl_cons, List.foldl_nil,
          hdigit n hn, Nat.zero_mul, Nat.zero_add]
      · have hrest : numeral 10 (Nat.toDigits 10 (n / 10)) = n / 10 := ih (n / 10) (by omega)
        rw [decimal, Nat.toDigits_of_base_le (by decide) (Nat.le_of_not_lt hn), numeral,
          List.foldl_append, ← numeral, hrest, List.foldl_cons, List.foldl_nil,
          hdigit (n % 10) (Nat.mod_lt n (by decide))]
        omega

/-- It spells the number. -/
theorem Address.isNumeral_decimal (n : Nat) :
    IsNumeral 10 Char.isDigit none true (Text.decimal n) n where
  nonempty := Nat.toDigits_ne_nil
  digits _ hc := Nat.isDigit_of_mem_toDigits (by decide) (by decide) hc
  length := nofun
  needed := nofun
  value := (numeral_eq_ofDigits 10 _).symm.trans (Text.numeral_decimal n)

/-- Where two texts end in a colon and **what has none**, they were cut at the same place. -/
theorem Address.append_colon_inj {s t d e : Text} (hd : ':' ∉ d) (he : ':' ∉ e)
    (h : s ++ ':' :: d = t ++ ':' :: e) : s = t ∧ d = e := by
  have hnone {a d e : Text} (hd : ':' ∉ d) (h : ':' :: d = a ++ ':' :: e) : a = [] ∧ d = e := by
    cases a with
    | nil => exact ⟨rfl, (List.cons.inj h).2⟩
    | cons c a =>
        rw [(List.cons.inj h).2] at hd
        exact absurd (List.mem_append_right a List.mem_cons_self) hd
  rcases List.append_eq_append_iff.mp h with ⟨a, rfl, ha⟩ | ⟨a, rfl, ha⟩
  · obtain ⟨rfl, rfl⟩ := hnone hd ha
    exact ⟨(List.append_nil s).symm, rfl⟩
  · obtain ⟨rfl, rfl⟩ := hnone he ha
    exact ⟨List.append_nil t, rfl⟩

/-- The hosts that are accepted with a port, and what comes of them. -/
theorem socketAddress?_eq_some_iff {host : String} {port : UInt16} {x : SocketAddress} :
    socketAddress? host port.toNat = some x ↔
      SpellsHost host.toList x.ip ∧ x.port = port.toNat := by
  have hcolon {t : Text} {n : Nat} (ht : IsPort t n) : ':' ∉ t := fun hmem =>
    absurd (ht.1.digits _ hmem) (by decide)
  have hport : IsPort (Text.decimal port.toNat) port.toNat :=
    ⟨isNumeral_decimal _, Nat.le_of_lt_succ port.toNat_lt⟩
  rw [socketAddress?, SocketAddress.parse?_eq_some_iff]
  constructor
  · rintro ⟨t, d, hsplit, ht, hd⟩
    obtain ⟨rfl, rfl⟩ := append_colon_inj (hcolon hport) (hcolon hd) hsplit
    exact ⟨ht, hd.1.value.symm.trans hport.1.value⟩
  · rintro ⟨hhost, hx⟩
    exact ⟨_, _, rfl, hhost, hx ▸ hport⟩

/-- A host that is no address is refused. -/
theorem socketAddress?_eq_none {host : String} (h : ∀ ip, ¬ SpellsHost host.toList ip)
    (port : UInt16) : socketAddress? host port.toNat = none := by
  cases hx : socketAddress? host port.toNat with
  | none => rfl
  | some x => exact absurd (socketAddress?_eq_some_iff.mp hx).1 (h x.ip)

/-- **A host cannot bring a port of its own.** A host is accepted with any port exactly if by itself
it is a dotted quad or an address of version 6 in brackets, with a scope or not; and what comes of
it is that address and that port. So it does not depend on the port whether a host is accepted. A
text that ends in a colon and digits is not, nor is a host with something after it that does not
make it another host, nor an address of version 6 without brackets. -/
theorem socketAddress_exact (host : String) (port : UInt16) :
    (∀ x, socketAddress? host port.toNat = some x ↔
      SpellsHost host.toList x.ip ∧ x.port = port.toNat) ∧
    (∀ port' : UInt16,
      (socketAddress? host port.toNat).isSome = (socketAddress? host port'.toNat).isSome) ∧
    (∀ digits : String, digits ≠ "" → (∀ c ∈ digits.toList, c.isDigit) →
      socketAddress? (host ++ ":" ++ digits) port.toNat = none) ∧
    (∀ (rest : String) (x : SocketAddress), socketAddress? host port.toNat = some x → rest ≠ "" →
      (x.isV6 ∨ ∃ c ∈ rest.toList, c.isDigit = false) →
        socketAddress? (host ++ rest) port.toNat = none) ∧
    (∀ gs, SpellsV6 host.toList gs → socketAddress? host port.toNat = none) := by
  refine ⟨fun _ => socketAddress?_eq_some_iff, ?_, ?_, ?_, ?_⟩
  · intro port'
    have hsome (q : UInt16) :
        (socketAddress? host q.toNat).isSome ↔ ∃ ip, SpellsHost host.toList ip := by
      simp only [Option.isSome_iff_exists, socketAddress?_eq_some_iff]
      exact ⟨fun ⟨x, hx, _⟩ => ⟨x.ip, hx⟩, fun ⟨ip, hip⟩ => ⟨⟨ip, q.toNat⟩, hip, rfl⟩⟩
    rw [Bool.eq_iff_iff, hsome, hsome]
  · intro digits hne hdigits
    refine socketAddress?_eq_none (fun ip hip => ?_) port
    rcases hip.brackets with ⟨x, -, hx⟩ | ⟨-, u, hu, -⟩
    · exact hx.not_mem.2 (by simp)
    · -- the last character is a digit, and no bracket
      rcases List.eq_nil_or_concat digits.toList with hnil | ⟨ds, c, hds⟩
      · exact hne (String.toList_eq_nil_iff.mp hnil)
      · have hlast : host.toList ++ [':'] ++ ds ++ [c] = '[' :: u ++ [']'] := by
          simpa [hds] using hu
        obtain rfl : c = ']' := List.singleton_inj.mp (List.append_inj_right' hlast rfl)
        exact absurd (hdigits ']' (by simp [hds])) (by decide)
  · intro rest x hx hne hrest
    refine socketAddress?_eq_none (fun ip hip => ?_) port
    rw [String.toList_append] at hip
    obtain ⟨hdigits, hnil⟩ := (socketAddress?_eq_some_iff.mp hx).1.of_append hip
    rcases hrest with hsix | ⟨c, hc, hdigit⟩
    · refine hne (String.toList_eq_nil_iff.mp (hnil ?_))
      rw [SocketAddress.isV6] at hsix
      split at hsix
      next => cases hsix
      next gs n hip => exact ⟨gs, n, hip⟩
    · rw [hdigits c hc] at hdigit
      cases hdigit
  · intro gs hgs
    refine socketAddress?_eq_none (fun ip hip => ?_) port
    rcases hip.brackets with ⟨x, -, hx⟩ | ⟨-, u, hu, -⟩
    · exact hx.not_mem.2 hgs.chars.2
    · rcases hgs.chars.1 '[' (hu ▸ List.mem_cons_self) with h | h | h <;>
        exact absurd h (by decide)

/-- An address of version 6 with a dotted quad and a scope keeps them. With a port in the host, with
a digit after the bracket and without brackets it is refused. -/
theorem socketAddress_exact_scoped :
    socketAddress? "[FE80::1.2.3.4%07]" 443 =
        some ⟨.v6 [0xFE80, 0, 0, 0, 0, 0, 0x0102, 0x0304] 7, 443⟩ ∧
      SpellsHost "[FE80::1.2.3.4%07]".toList (.v6 [0xFE80, 0, 0, 0, 0, 0, 0x0102, 0x0304] 7) ∧
      socketAddress? "[FE80::1.2.3.4%07]:80" 443 = none ∧
      socketAddress? "[FE80::1.2.3.4%07]1" 443 = none ∧
      socketAddress? "FE80::1.2.3.4" 443 = none := by
  have hread : socketAddress? "[FE80::1.2.3.4%07]" 443 =
      some ⟨.v6 [0xFE80, 0, 0, 0, 0, 0, 0x0102, 0x0304] 7, 443⟩ := by
    decide +kernel
  obtain ⟨hsome, -, hport, hrest, -⟩ := socketAddress_exact "[FE80::1.2.3.4%07]" 443
  obtain ⟨-, -, -, -, hbare⟩ := socketAddress_exact "FE80::1.2.3.4" 443
  refine ⟨hread, ((hsome _).mp hread).1, ?_, ?_, ?_⟩
  · exact hport "80" (by decide) (List.all_eq_true.mp (by decide))
  · exact hrest "1" _ hread (by decide) (Or.inl rfl)
  · have hgroups : ipv6 "FE80::1.2.3.4".toList =
        some ([0xFE80, 0, 0, 0, 0, 0, 0x0102, 0x0304], []) := by
      decide +kernel
    obtain ⟨t, ht, haddress⟩ := exists_of_ipv6 hgroups
    rw [List.append_nil] at ht
    exact hbare _ (ht ▸ haddress)

end LangServer
