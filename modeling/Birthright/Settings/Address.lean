import Birthright.Text.Numeral

/-!
# Network addresses

Addresses of version 4 are four decimal numbers with points between them. Addresses of version 6
are eight groups of hexadecimal digits with colons between them; two colons in a row stand for all
zero groups that are missing, and the last two groups may be written like an address of version 4.

An address has one text in which it is written: small letters, no leading zeros, and the first of
the longest runs of two or more zero groups left out.
-/

namespace Birthright

/-- An address of version 4. -/
structure Ipv4 where
  a : UInt8
  b : UInt8
  c : UInt8
  d : UInt8
  deriving DecidableEq, Repr

/-- An address of version 6. -/
structure Ipv6 where
  groups : List UInt16
  length_groups : groups.length = 8
  deriving DecidableEq, Repr

/-- An address of either version. -/
inductive IpAddress where
  | v4 (address : Ipv4)
  | v6 (address : Ipv6)
  deriving DecidableEq, Repr

namespace Ipv4

/-- Reads one to three digits without a leading zero as a number below 256. -/
def octet? (s : List Char) : Option UInt8 :=
  if s.all Char.isDigit ∧ (s.length = 1 ∨ 1 < s.length ∧ s.length ≤ 3 ∧ s.head? ≠ some '0') then
    let n := Text.digitsValue s
    if n < 256 then some (.ofNat n) else none
  else none

/-- Reads a whole text as an address. -/
def ofText? (s : List Char) : Option Ipv4 :=
  match (s.splitOn '.').mapM octet? with
  | some [a, b, c, d] => some ⟨a, b, c, d⟩
  | _ => none

/-- The text of an address. -/
def text (i : Ipv4) : List Char :=
  ['.'].intercalate ([i.a, i.b, i.c, i.d].map fun n => Text.decimal n.toNat)

/-- The address as two groups of an address of version 6. -/
def groups (i : Ipv4) : List UInt16 :=
  [i.a.toUInt16 * 256 + i.b.toUInt16, i.c.toUInt16 * 256 + i.d.toUInt16]

end Ipv4

namespace Ipv6

/-- The address of eight groups. -/
def of? (groups : List UInt16) : Option Ipv6 :=
  if h : groups.length = 8 then some ⟨groups, h⟩ else none

/-! ## Reading -/

/-- Reads one to four hexadecimal digits. -/
def group? (s : List Char) : Option UInt16 :=
  if s.isEmpty ∨ 4 < s.length then none
  else (s.mapM Text.hexValue?).map fun digits => .ofNat (digits.foldl (16 * · + ·) 0)

/-- Reads groups, the last two of which may be written like an address of version 4. -/
def groups? : List (List Char) → Option (List UInt16)
  | [] => some []
  | [last] => (group? last).map ([·]) <|> (Ipv4.ofText? last).map Ipv4.groups
  | s :: rest => do return (← group? s) :: (← groups? rest)

/-- The parts between colons; an empty text has none. -/
def parts (s : List Char) : List (List Char) := if s.isEmpty then [] else s.splitOn ':'

/-- Cuts a text at the first two colons in a row. -/
def cutAtGap : List Char → Option (List Char × List Char)
  | ':' :: ':' :: rest => some ([], rest)
  | c :: rest => (cutAtGap rest).map fun (before, after) => (c :: before, after)
  | [] => none

/-- Reads a whole text as an address. A gap stands for at least one group. -/
def ofText? (s : List Char) : Option Ipv6 := do
  match cutAtGap s with
  | none => of? (← groups? (parts s))
  | some (before, after) =>
    let first ← (parts before).mapM group?
    let last ← groups? (parts after)
    if first.length + last.length < 8 then
      of? (first ++ List.replicate (8 - (first.length + last.length)) 0 ++ last)
    else none

/-! ## Writing -/

/-- Groups in hexadecimal with colons between them. -/
def groupsText (groups : List UInt16) : List Char :=
  [':'].intercalate (groups.map fun n => Text.hexadecimal n.toNat)

/-- Where the first of the longest runs of zero groups starts, and how long it is. -/
def zeroRun (groups : List UInt16) : Nat × Nat :=
  (List.range groups.length).foldl (fun best start =>
    let length := ((groups.drop start).takeWhile (· = 0)).length
    if best.2 < length then (start, length) else best) (0, 0)

/-- The text of an address. One that stands for an address of version 4 ends in its text. -/
def text (i : Ipv6) : List Char :=
  match i.groups with
  | [0, 0, 0, 0, 0, 0xffff, g, h] =>
    "::ffff:".toList
      ++ Ipv4.text ⟨(g >>> 8).toUInt8, g.toUInt8, (h >>> 8).toUInt8, h.toUInt8⟩
  | groups =>
    let (start, length) := zeroRun groups
    if 1 < length then
      groupsText (groups.take start) ++ [':', ':'] ++ groupsText (groups.drop (start + length))
    else groupsText groups

end Ipv6

namespace IpAddress

/-- Reads a whole text as an address of either version. -/
def ofText? (s : List Char) : Option IpAddress :=
  (Ipv4.ofText? s).map v4 <|> (Ipv6.ofText? s).map v6

/-- The address of the machine itself. -/
def loopback : IpAddress := .v4 ⟨127, 0, 0, 1⟩

/-- The address of a host, which is an address or the name `localhost` in any case. -/
def ofHost? (host : String) : Option IpAddress :=
  if host.toList.map Char.toLower = "localhost".toList then some loopback
  else ofText? host.toList

end IpAddress

/-- An address and a port number to listen at. -/
structure SocketAddress where
  address : IpAddress
  portNumber : UInt16
  deriving DecidableEq, Repr

/-- The text of an address with a port number. An address of version 6 is in brackets. -/
def SocketAddress.text (s : SocketAddress) : String :=
  let address := match s.address with
    | .v4 i => i.text
    | .v6 i => '[' :: (i.text ++ [']'])
  String.ofList (address ++ ':' :: Text.decimal s.portNumber.toNat)

example : (IpAddress.ofHost? "1:0:0:4::0.0.7.8").map (fun i => SocketAddress.text ⟨i, 80⟩)
    = some "[1:0:0:4::708]:80" := by decide +kernel

end Birthright
