import Permalink.Domain.Name
import Permalink.Text.Basic
import Permalink.Url.Percent

set_option autoImplicit false

namespace Permalink.Url

structure Ipv4 where
  a : UInt8
  b : UInt8
  c : UInt8
  d : UInt8
deriving DecidableEq, Repr

namespace Ipv4

def decimal (n : Nat) : List Char := Nat.toDigits 10 n

def text (address : Ipv4) : List Char :=
  ['.'].intercalate ([address.a, address.b, address.c, address.d].map (decimal ·.toNat))

/-- A number of any size; `0x` alone is zero. -/
def number? : List Char → Option Nat
  | [] => none
  | '0' :: 'x' :: digits => Text.number? 16 digits
  | '0' :: 'X' :: digits => Text.number? 16 digits
  | '0' :: c :: digits => Text.number? 8 (c :: digits)
  | digits => Text.number? 10 digits

def ofNat (n : Nat) : Ipv4 :=
  ⟨UInt8.ofNat (n / 0x1000000), UInt8.ofNat (n / 0x10000), UInt8.ofNat (n / 0x100), UInt8.ofNat n⟩

/-- How many values the last number has after `front` others. -/
def span (front : Nat) : Nat :=
  match front with
  | 0 => 0x100000000
  | 1 => 0x1000000
  | 2 => 0x10000
  | 3 => 0x100
  | _ => 0

/-- The address that numbers write: every number but the last is one byte. -/
def ofNumbers? (numbers : List Nat) : Option Ipv4 :=
  let front := numbers.dropLast
  numbers.getLast?.bind fun last =>
    if front.all (· < 256) ∧ last < span front.length then
      some (ofNat (front.foldl (fun n byte => n * 256 + byte) 0 * span front.length + last))
    else none

/-- The parts of a host between dots; one dot at the end is no part. -/
def parts (host : List Char) : List (List Char) :=
  let parts := host.splitOn '.'
  if parts.getLast? = some [] then parts.dropLast else parts

/-- A host whose last part looks like a number has to be an address. -/
def isNumeric (host : List Char) : Bool :=
  (parts host).getLast?.any fun last =>
    (!last.isEmpty && last.all Char.isDigit) || (number? last).isSome

def ofText? (host : List Char) : Option Ipv4 :=
  ((parts host).mapM number?).bind ofNumbers?

example : (ofText? "0x7f.1".toList).map text = some "127.0.0.1".toList := by decide +kernel
example : ofText? "1.2.3.256".toList = none := by decide +kernel

end Ipv4

structure Ipv6 where
  pieces : List UInt16
  length_pieces : pieces.length = 8
deriving DecidableEq, Repr

namespace Ipv6

def piece? (cs : List Char) : Option UInt16 :=
  if cs.isEmpty || 4 < cs.length then none else (Text.number? 16 cs).map UInt16.ofNat

def octet? (cs : List Char) : Option Nat :=
  if cs.isEmpty || (1 < cs.length && cs.head? == some '0') then none
  else (Text.number? 10 cs).filter (· < 256)

def embedded? (cs : List Char) : Option (List UInt16) :=
  match (cs.splitOn '.').mapM octet? with
  | some [a, b, c, d] => some [UInt16.ofNat (a * 256 + b), UInt16.ofNat (c * 256 + d)]
  | _ => none

def lastPieces? (embed : Bool) (cs : List Char) : Option (List UInt16) :=
  if embed && cs.contains '.' then embedded? cs else (piece? cs).map ([·])

/-- The pieces between single colons; `embed` admits an IPv4 address as the last. -/
def pieces? (embed : Bool) (cs : List Char) : Option (List UInt16) :=
  if cs.isEmpty then some []
  else
    let parts := cs.splitOn ':'
    (parts.dropLast.mapM piece?).bind fun front =>
      (lastPieces? embed (parts.getLast?.getD [])).map (front ++ ·)

def cutDoubleColon? : List Char → Option (List Char × List Char)
  | ':' :: ':' :: rest => some ([], rest)
  | [] => none
  | c :: rest => (cutDoubleColon? rest).map fun cut => (c :: cut.1, cut.2)

def ofText? (cs : List Char) : Option Ipv6 :=
  match cutDoubleColon? cs with
  | none =>
    (pieces? true cs).bind fun pieces =>
      if h : pieces.length = 8 then some ⟨pieces, h⟩ else none
  | some (front, back) =>
    (pieces? false front).bind fun front => (pieces? true back).bind fun back =>
      if h : front.length + back.length ≤ 7 then
        some ⟨front ++ List.replicate (8 - front.length - back.length) 0 ++ back, by
          simp only [List.length_append, List.length_replicate]
          omega⟩
      else none

def zeroRun (pieces : List UInt16) : Nat :=
  (pieces.takeWhile (· == 0)).length

/-- Where the longest run of zeros starts, the first of several. -/
def longestRun (pieces : List UInt16) : Nat :=
  (List.range pieces.length).foldl (fun best i =>
    if zeroRun (pieces.drop best) < zeroRun (pieces.drop i) then i else best) 0

def joinPieces (pieces : List UInt16) : List Char :=
  [':'].intercalate (pieces.map fun p => Nat.toDigits 16 p.toNat)

def text (address : Ipv6) : List Char :=
  let i := longestRun address.pieces
  let n := zeroRun (address.pieces.drop i)
  if 2 ≤ n then
    joinPieces (address.pieces.take i) ++ [':', ':'] ++ joinPieces (address.pieces.drop (i + n))
  else joinPieces address.pieces

example : (ofText? "0:1:0:0::1.2.3.4".toList).map text = some "0:1::102:304".toList := by
  decide +kernel
example : ofText? "1:2:3:4:5:6:7:8::".toList = none := by decide +kernel

end Ipv6

open Text

inductive Host where
  | domain (name : List Char)
  | ipv4 (address : Ipv4)
  | ipv6 (address : Ipv6)
  | verbatim (text : List Char)
deriving DecidableEq, Repr

namespace Host

def text : Host → List Char
  | domain name => name
  | ipv4 address => address.text
  | ipv6 address => '[' :: address.text ++ [']']
  | verbatim text => text

def bracketed? (cs : List Char) : Option Host :=
  if cs.getLast? = some ']' then (Ipv6.ofText? (cs.drop 1).dropLast).map ipv6 else none

def ofName? (name : List Char) : Option Host :=
  if name.isEmpty then none
  else if Ipv4.isNumeric name then (Ipv4.ofText? name).map ipv4
  else some (domain name)

def ofSpecialText? (cs : List Char) : Option Host :=
  if cs.head? = some '[' then bracketed? cs
  else ((Utf8.decode? (Percent.decode cs)).bind Domain.toAscii?).bind ofName?

def isRefused (c : Char) : Bool :=
  "\x00\t\n\r #/:<>?@[\\]^|".toList.contains c

def ofOtherText? (cs : List Char) : Option Host :=
  if cs.head? = some '[' then bracketed? cs
  else if cs.any isRefused then none
  else some (verbatim (Percent.encode Percent.controls cs))

end Host
end Permalink.Url
