import Birthright.Text.Numeral

/-!
# Paths of requests

The target of a request is a path, after which a query and a fragment may follow. In front of the
path there may be the rest of an address: a scheme such as `https`, a colon, two slashes and a
host. A path is split into segments at its slashes before anything is decoded, so that an escaped
slash is part of a segment.

## Escapes

A segment stands for a text in UTF-8. A percent sign with two hexadecimal digits stands for one
byte; any other percent sign stands for itself. Not all bytes form a text.
-/

namespace Birthright.Http

/-- Whether a character may be part of the scheme of an address. -/
def isSchemeChar (c : Char) : Bool := c.isAlphanum || c = '+' || c = '-' || c = '.'

/-- A target without its query and fragment. -/
def withoutQuery (target : List Char) : List Char :=
  target.takeWhile fun c => c != '?' && c != '#'

/-- The path of a target. An address that ends with the host has the path of a single slash. -/
def path (target : List Char) : List Char :=
  match target.dropWhile isSchemeChar with
  | ':' :: '/' :: '/' :: rest =>
    match (withoutQuery rest).dropWhile (· != '/') with
    | [] => ['/']
    | path => path
  | _ => withoutQuery target

/-- The segments of the path of a target; before the first slash there is an empty one. -/
def segments (target : String) : List (List Char) := (path target.toList).splitOn '/'

/-- The byte that two hexadecimal digits stand for. -/
def hexByte? (high low : UInt8) : Option UInt8 := do
  let h ← Text.hexValue? (.ofUInt8 high)
  let l ← Text.hexValue? (.ofUInt8 low)
  return .ofNat (16 * h + l)

/-- Replaces the escapes by the bytes that they stand for. -/
def percentDecode : List UInt8 → List UInt8
  | b :: high :: low :: rest =>
    if b = '%'.toUInt8 then
      match hexByte? high low with
      | some d => d :: percentDecode rest
      | none => b :: percentDecode (high :: low :: rest)
    else b :: percentDecode (high :: low :: rest)
  | short => short

/-- The text that a segment stands for, if its bytes form one. -/
def segmentText? (segment : List Char) : Option String :=
  String.fromUTF8? ⟨(percentDecode (String.ofList segment).toUTF8.toList).toArray⟩

example : segments "/health?full#top" = [[], "health".toList] := by decide
example : segments "http://localhost:80/health?full" = [[], "health".toList] := by decide
example : segmentText? "a%20%c3%A9%zz%".toList = some "a é%zz%" := by decide +kernel

end Birthright.Http
