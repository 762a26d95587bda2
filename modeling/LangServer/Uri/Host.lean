import LangServer.Address
import LangServer.Uri.DomainName
import LangServer.Uri.Percent

/-!
# Hosts

The host of a URI in its one normal form. With a special scheme a host is a domain name in ASCII
or an address; a name whose last label is a number has to be an address of
version 4, which may be written with fewer than four numbers and in other bases. With any other
scheme a host is any text without the characters that mean something in a URI.

An address of version 6 stands in brackets in both cases.
-/

namespace LangServer.Uri

/-! ### Addresses -/

/-- An address of version 6 between its brackets. -/
def bracketed? (s : Text) : Option Text :=
  match s.reverse with
  | ']' :: r =>
    match Address.ipv6 r.reverse with
    | some (groups, []) => some ('[' :: Address.renderCompressed groups ++ [']'])
    | _ => none
  | _ => none

/-- A part of an address of version 4: decimal, octal after a zero, hexadecimal after `0x`. -/
def ipv4Part? (s : Text) : Option Nat :=
  match s with
  | [] => none
  | '0' :: 'x' :: r => if r.all Text.isHexDigit then some (Text.numeral 16 r) else none
  | '0' :: 'X' :: r => if r.all Text.isHexDigit then some (Text.numeral 16 r) else none
  | '0' :: r => if r.all (fun c => '0' ≤ c && c ≤ '7') then some (Text.numeral 8 r) else none
  | r => if r.all Char.isDigit then some (Text.numeral 10 r) else none

/-- The labels of a name, without an empty one at the end. -/
def labels (name : Text) : List Text :=
  let parts := List.splitOn '.' name
  if 1 < parts.length ∧ parts.getLast? = some [] then parts.dropLast else parts

/-- Whether the last label of a name is a number. -/
def endsInNumber (name : Text) : Bool :=
  match (labels name).getLast? with
  | none => false
  | some [] => false
  | some last =>
    last.all Char.isDigit || ((ipv4Part? last).isSome && last.head? = some '0')

/-- An address of version 4: all parts but the last are bytes, and the last fills the rest. -/
def ipv4Name? (name : Text) : Option Ipv4 := do
  let parts ← (labels name).mapM ipv4Part?
  let last ← parts.getLast?
  let bytes := parts.dropLast
  if 4 < parts.length ∨ bytes.any (255 < ·) ∨ Nat.pow 256 (5 - parts.length) ≤ last then none
  else
    let high := bytes.foldr (fun b n => (b * Nat.pow 256 3) + n / 256) 0
    let n := high + last
    some ⟨n / Nat.pow 256 3, n / Nat.pow 256 2 % 256, n / 256 % 256, n % 256⟩

/-! ### Hosts -/

/-- The host of a special scheme. -/
def specialHost? (s : Text) : Option Text :=
  match s with
  | '[' :: r => bracketed? r
  | s => do
    let decoded ← String.fromUTF8? ⟨(decode s).toArray⟩
    let name ← asciiName? decoded.toList
    if name = [] then none
    else if endsInNumber name then (ipv4Name? name).map Address.renderV4
    else some name

/-- The host of any other scheme. -/
def plainHost? (s : Text) : Option Text :=
  match s with
  | '[' :: r => bracketed? r
  | s => if s.any forbiddenInHost then none else some (encode encodedEverywhere s)

end LangServer.Uri
