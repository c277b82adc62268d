import Permalink.Text.Basic
import Permalink.Text.Utf8

set_option autoImplicit false

namespace Permalink.Url.Percent
open Text

abbrev EncodeSet := Char → Bool

def controls : EncodeSet := fun c => c.toNat < 0x20 || c == '\x7F'

def fragmentSet : EncodeSet := fun c =>
  controls c || c == ' ' || c == '\x22' || c == '<' || c == '>' || c == '\x60'

def pathSet : EncodeSet := fun c =>
  fragmentSet c || c == '#' || c == '?' || c == '\x7b' || c == '\x7d'

def userinfoSet : EncodeSet := fun c =>
  pathSet c || c == '/' || c == ':' || c == ';' || c == '=' || c == '@' || c == '[' ||
    c == '\\' || c == ']' || c == '^' || c == '|'

def querySet : EncodeSet := fun c =>
  controls c || c == ' ' || c == '\x22' || c == '#' || c == '<' || c == '>'

def specialQuerySet : EncodeSet := fun c =>
  querySet c || c == '\x27'

def escape (b : UInt8) : List Char :=
  ['%', upperHexDigit (b.toNat / 16), upperHexDigit (b.toNat % 16)]

def encodeChar (set : EncodeSet) (c : Char) : List Char :=
  if c.toNat < 128 && !set c then [c] else (String.utf8EncodeChar c).flatMap escape

def encode (set : EncodeSet) (cs : List Char) : List Char :=
  cs.flatMap (encodeChar set)

/-- A percent sign without two hexadecimal digits after it stands for itself. -/
def decode : List Char → List UInt8
  | [] => []
  | '%' :: a :: b :: rest =>
    match hexValue? a, hexValue? b with
    | some high, some low => UInt8.ofNat (16 * high + low) :: decode rest
    | _, _ => 0x25 :: decode (a :: b :: rest)
  | c :: rest => String.utf8EncodeChar c ++ decode rest

example : encode pathSet ['a', ' ', 'é', '%'] = "a%20%C3%A9%".toList := by decide +kernel
example : decode "%41%4g%".toList = [0x41, 0x25, 0x34, 0x67, 0x25] := by decide +kernel

end Permalink.Url.Percent

namespace Permalink.Url.Form
open Text

def decodeText (cs : List Char) : List Char :=
  Utf8.decodeLenient (Percent.decode (cs.map fun c => if c = '+' then ' ' else c))

def pieces (query : List Char) : List (List Char) :=
  (query.splitOn '&').filter (!·.isEmpty)

def pieceName (piece : List Char) : List Char :=
  decodeText (before '=' piece)

/-- A piece without an equals sign has an empty value. -/
def pieceValue (piece : List Char) : List Char :=
  decodeText ((after? '=' piece).getD [])

def pairs (query : List Char) : List (List Char × List Char) :=
  (pieces query).map fun piece => (pieceName piece, pieceValue piece)

def value? (name : List Char) (query : List Char) : Option (List Char) :=
  ((pairs query).find? fun pair => pair.1 == name && !pair.2.isEmpty).map (·.2)

example : value? ['v'] "v=&w=1&v=a%20b+c&v=d".toList = some "a b c".toList := by decide +kernel

end Permalink.Url.Form
