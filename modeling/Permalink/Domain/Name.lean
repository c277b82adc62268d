import Permalink.Domain.Mapping
import Permalink.Domain.Punycode
import Permalink.Unicode.Composition
import Permalink.Unicode.Property

set_option autoImplicit false

namespace Permalink.Domain
open Unicode

def isAscii (c : Char) : Bool := c.toNat < 128

/-- The ASCII characters that end a host or change its meaning, and those without a glyph. -/
def isForbidden (c : Char) : Bool :=
  c.toNat ≤ 0x20 || c.toNat == 0x7F || "%#/:<>?@[\\]^|".toList.contains c

def mapText? (cs : List Char) : Option (List Char) :=
  if cs.all isAscii then some (cs.map Char.toLower)
  else (cs.mapM mapChar?).map fun mapped => normalize mapped.flatten

/-- Is the last of the characters before a place (kept in reverse) a virama? -/
def afterVirama (reversed : List Char) : Bool :=
  reversed.head?.any isVirama

def betweenJoining (reversed rest : List Char) : Bool :=
  (reversed.dropWhile isTransparent).head?.any joinsForward &&
    (rest.dropWhile isTransparent).head?.any joinsBackward

/-- Joiners stand only where they change how a word is written. -/
def joinersAllowed : List Char → List Char → Bool
  | _, [] => true
  | reversed, c :: rest =>
    (if c = '\u200D' then afterVirama reversed
      else if c = '\u200C' then afterVirama reversed || betweenJoining reversed rest
      else true) &&
    joinersAllowed (c :: reversed) rest

def encodedMark : List Char := ['x', 'n', '-', '-']

def isReadable (cs : List Char) : Bool :=
  mapText? cs == some cs && !cs.any isForbidden && !cs.head?.any isMark &&
    joinersAllowed [] cs && !encodedMark.isPrefixOf cs

structure Label where
  ascii : List Char
  readable : List Char
deriving DecidableEq, Repr

def Label.ofMapped? (text : List Char) : Option Label :=
  if encodedMark.isPrefixOf text then
    (Punycode.decode? (text.drop 4)).bind fun readable =>
      if text.all isAscii && !readable.all isAscii && isReadable readable then
        some ⟨text, readable⟩
      else none
  else if text.all isAscii then
    if text.any isForbidden then none else some ⟨text, text⟩
  else if isReadable text then some ⟨encodedMark ++ Punycode.encode text, text⟩
  else none

def Label.isRightToLeft (label : Label) : Bool :=
  label.readable.any fun c =>
    !isAscii c && [.rightToLeft, .arabicLetter, .arabicNumber].contains (direction c)

/-- The directions of a label agree: it begins and ends with its own direction, up to marks, and
mixes in none of the other. -/
def directionsAgree (ds : List Direction) : Bool :=
  let last := (ds.reverse.dropWhile (· == .nonspacingMark)).head?
  let neutral := [Direction.europeanNumber, .europeanSeparator, .commonSeparator,
    .europeanTerminator, .otherNeutral, .boundaryNeutral, .nonspacingMark]
  match ds with
  | [] => true
  | .leftToRight :: _ =>
    ds.all (fun d => d == .leftToRight || neutral.contains d) &&
      last.any [.leftToRight, .europeanNumber].contains
  | .rightToLeft :: _ | .arabicLetter :: _ =>
    ds.all (fun d => [.rightToLeft, .arabicLetter, .arabicNumber].contains d ||
        neutral.contains d) &&
      last.any [.rightToLeft, .arabicLetter, .europeanNumber, .arabicNumber].contains &&
      !(ds.contains .europeanNumber && ds.contains .arabicNumber)
  | _ => false

def labels? (cs : List Char) : Option (List Label) :=
  (mapText? cs).bind fun mapped => (mapped.splitOn '.').mapM Label.ofMapped?

/-- In a name with a label written from right to left, the directions of every label agree. -/
def directionsAllowed (labels : List Label) : Bool :=
  !labels.any Label.isRightToLeft ||
    labels.all fun label => directionsAgree (label.readable.map Unicode.direction)

def toAscii? (cs : List Char) : Option (List Char) :=
  (labels? cs).bind fun labels =>
    if directionsAllowed labels then some (['.'].intercalate (labels.map (·.ascii))) else none

end Permalink.Domain
