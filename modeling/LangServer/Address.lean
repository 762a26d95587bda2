import LangServer.Text.Numeral
import LangServer.Text.Split

/-!
# Addresses

Internet addresses with a port, as text. An address of version 4 is four decimal numbers below
256 with points between them, none with needless zeros. An address of version 6 is eight groups
of up to four hexadecimal digits with colons between them; one run of zero groups may be written
`::`, the last two groups may be written as an address of version 4, and a scope may follow. With
a port, the latter stands in brackets.

Addresses are written in one way only: no needless zeros, small letters, and `::` for the longest
run of at least two zero groups, the first of several. An address of version 4 that is mapped into
version 6 keeps its points.

## Main definitions

* `SocketAddress.parse?`, `SocketAddress.render`: reading and writing.
* `socketAddress?`: the address of a host and a port.
-/

namespace LangServer

/-- The four numbers of an address of version 4. -/
structure Ipv4 where
  a : Nat
  b : Nat
  c : Nat
  d : Nat
  deriving DecidableEq, Repr

/-- An address of either version. -/
inductive IpAddress where
  | v4 (address : Ipv4)
  /-- The eight groups of an address of version 6, and its scope. -/
  | v6 (groups : List Nat) (scope : Nat)
  deriving DecidableEq, Repr

/-- An address with a port. -/
structure SocketAddress where
  ip : IpAddress
  port : Nat
  deriving DecidableEq, Repr

namespace Address

/-! ### Reading -/

/-- A number of the digits in front: at most `most` of them if there is a bound, and without
needless zeros if these are not allowed. -/
def number (base : Nat) (isDigit : Char → Bool) (most : Option Nat) (zeros : Bool) (s : Text) :
    Option (Nat × Text) :=
  let digits := s.takeWhile isDigit
  if digits = [] ∨ most.any (· < digits.length) ∨
      (zeros = false ∧ digits.head? = some '0' ∧ 1 < digits.length) then none
  else some (Text.numeral base digits, s.dropWhile isDigit)

/-- A number that is not above a bound. -/
def numberUpTo (bound base : Nat) (isDigit : Char → Bool) (most : Option Nat) (zeros : Bool)
    (s : Text) : Option (Nat × Text) :=
  (number base isDigit most zeros s).bind fun p => if p.1 ≤ bound then some p else none

/-- One number of an address of version 4. -/
def octet (s : Text) : Option (Nat × Text) :=
  numberUpTo 255 10 Char.isDigit (some 3) false s

/-- An address of version 4. -/
def ipv4 (s : Text) : Option (Ipv4 × Text) := do
  let (a, r) ← octet s
  let (b, r) ← octet (← Text.expect '.' r)
  let (c, r) ← octet (← Text.expect '.' r)
  let (d, r) ← octet (← Text.expect '.' r)
  return (⟨a, b, c, d⟩, r)

/-- One group of an address of version 6. -/
def group (s : Text) : Option (Nat × Text) :=
  number 16 Text.isHexDigit (some 4) true s

/-- The two groups that an address of version 4 stands for. -/
def embedded (x : Ipv4) : List Nat :=
  [x.a * 256 + x.b, x.c * 256 + x.d]

/-- Up to `n` groups with colons between them: the groups, whether the last two were an address of
version 4, and what follows. Unless they are the `first` ones a colon comes before them. -/
def groups : Nat → Bool → Text → List Nat × Bool × Text
  | 0, _, s => ([], false, s)
  | n + 1, first, s =>
    match if first then some s else Text.expect ':' s with
    | none => ([], false, s)
    | some r =>
      match if 0 < n then ipv4 r else none with
      | some (x, r) => (embedded x, true, r)
      | none =>
        match group r with
        | none => ([], false, s)
        | some (g, r) =>
          let (gs, dotted, r) := groups n false r
          (g :: gs, dotted, r)

/-- The eight groups of an address of version 6. -/
def ipv6 (s : Text) : Option (List Nat × Text) :=
  let (head, dotted, r) := groups 8 true s
  if head.length = 8 then some (head, r)
  else if dotted then none
  else
    match r with
    | ':' :: ':' :: r =>
      let (tail, _, r) := groups (7 - head.length) true r
      some (head ++ List.replicate (8 - head.length - tail.length) 0 ++ tail, r)
    | _ => none

/-- The scope that may follow an address; no scope is scope zero. -/
def scope (s : Text) : Nat × Text :=
  match s with
  | '%' :: r => (numberUpTo 4294967295 10 Char.isDigit none true r).getD (0, s)
  | s => (0, s)

/-- A colon and a port. -/
def port (s : Text) : Option (Nat × Text) :=
  (Text.expect ':' s).bind (numberUpTo 65535 10 Char.isDigit none true)

/-- An address of version 4 and a port. -/
def socketV4 (s : Text) : Option (SocketAddress × Text) := do
  let (x, r) ← ipv4 s
  let (p, r) ← port r
  return (⟨.v4 x, p⟩, r)

/-- An address of version 6 in brackets and a port. -/
def socketV6 (s : Text) : Option (SocketAddress × Text) := do
  let r ← Text.expect '[' s
  let (gs, r) ← ipv6 r
  let (sc, r) := scope r
  let r ← Text.expect ']' r
  let (p, r) ← port r
  return (⟨.v6 gs sc, p⟩, r)

/-! ### Writing -/

/-- An address of version 4. -/
def renderV4 (x : Ipv4) : Text :=
  List.intercalate ['.'] ([x.a, x.b, x.c, x.d].map Text.decimal)

/-- The number of zero groups in front. -/
def zeroRun (gs : List Nat) : Nat :=
  (gs.takeWhile (· = 0)).length

/-- The place and length of the longest run of zero groups, the first of several; `i` is the
place of the first group. -/
def longestZeros (i : Nat) : List Nat → Nat × Nat
  | [] => (i, 0)
  | g :: gs =>
    let here := zeroRun (g :: gs)
    let later := longestZeros (i + 1) gs
    if later.2 ≤ here then (i, here) else later

/-- The groups of an address of version 6. -/
def renderGroups (gs : List Nat) : Text :=
  List.intercalate [':'] (gs.map Text.hexadecimal)

/-- An address of version 6 with `::` for its longest run of zero groups. -/
def renderCompressed (gs : List Nat) : Text :=
  let (start, length) := longestZeros 0 gs
  if length ≤ 1 then renderGroups gs
  else renderGroups (gs.take start) ++ ':' :: ':' :: renderGroups (gs.drop (start + length))

/-- An address of version 6. -/
def renderV6 (gs : List Nat) : Text :=
  match gs with
  | [0, 0, 0, 0, 0, 0xFFFF, g, h] =>
    "::ffff:".toList ++ renderV4 ⟨g / 256, g % 256, h / 256, h % 256⟩
  | gs => renderCompressed gs

end Address

namespace SocketAddress

/-- The address and port that a text spells, with nothing before or after. -/
def parse? (s : Text) : Option SocketAddress :=
  match (Address.socketV4 s).or (Address.socketV6 s) with
  | some (x, []) => some x
  | _ => none

/-- The text of an address with its port. -/
def render (x : SocketAddress) : Text :=
  match x.ip with
  | .v4 a => Address.renderV4 a ++ ':' :: Text.decimal x.port
  | .v6 gs scope =>
    let mark := if scope = 0 then [] else '%' :: Text.decimal scope
    '[' :: Address.renderV6 gs ++ mark ++ "]:".toList ++ Text.decimal x.port

/-- Whether an address is of version 6. -/
def isV6 (x : SocketAddress) : Bool :=
  match x.ip with
  | .v4 _ => false
  | .v6 _ _ => true

end SocketAddress

/-- What is said of a host that is no address. -/
def addressErrorMessage : String := "invalid socket address syntax"

/-- The address of a host and a port: what the two spell with a colon between them. -/
def socketAddress? (host : String) (port : Nat) : Option SocketAddress :=
  SocketAddress.parse? (host.toList ++ ':' :: Text.decimal port)

end LangServer
