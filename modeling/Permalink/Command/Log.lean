import Permalink.Text.Basic
import Permalink.Text.Utf8

set_option autoImplicit false

/-!
A log filter is a list of directives between commas. The longest target that fits a source decides,
and of equal ones the last. A filter that is absent or cannot be read lets errors through.
-/

namespace Permalink.Command.Log
open Text

structure Directive where
  /-- Empty for a directive about everything. -/
  target : List Char
  /-- Are errors let through? -/
  errors : Bool
deriving DecidableEq, Repr

/-- Does a level let errors through? Levels have names and numbers. -/
def level? (cs : List Char) : Option Bool :=
  let lower := String.ofList (cs.map Char.toLower)
  if ["off", "0"].contains lower then some false
  else if ["error", "warn", "info", "debug", "trace", "1", "2", "3", "4", "5"].contains lower then
    some true
  else none

def isTargetChar (c : Char) : Bool :=
  c.isAlphanum || c == '_' || c == ':' || c == '-' || 128 ≤ c.toNat

def Directive.ofText? (cs : List Char) : Option Directive :=
  match level? cs, after? '=' cs with
  | some errors, _ => some ⟨[], errors⟩
  | none, none => if cs.all isTargetChar then some ⟨cs, true⟩ else none
  | none, some level =>
    if (before '=' cs).all isTargetChar then (level? level).map (⟨before '=' cs, ·⟩) else none

def directives? (cs : List Char) : Option (List Directive) :=
  (((cs.splitOn ',').map trimChars).filter (!·.isEmpty)).mapM Directive.ofText?

/-- The more specific of two directives that fit, the later one if they are equally so. -/
def moreSpecific (a b : Directive) : Directive :=
  if b.target.length < a.target.length then a else b

def decide? (source : List Char) : List Directive → Option Directive
  | [] => none
  | d :: rest =>
    if d.target.isPrefixOf source then
      some ((decide? source rest).elim d (moreSpecific d))
    else decide? source rest

def showsErrors (source : String) (filter : Option (List UInt8)) : Bool :=
  match (filter.bind Utf8.decode?).bind directives? with
  | none | some [] => true
  | some directives => (decide? source.toList directives).any (·.errors)

/-- The characters that steer a terminal are spelled out in the log. -/
def spell (c : Char) : List Char :=
  let n := c.toNat
  let digits := [lowerHexDigit (n / 16), lowerHexDigit (n % 16)]
  if [0x07, 0x08, 0x0C, 0x1B, 0x7F].contains n then '\\' :: 'x' :: digits
  else if 0x80 ≤ n ∧ n ≤ 0x9F then ['\\', 'u', '\x7b'] ++ digits ++ ['\x7d']
  else [c]

def shown (message : String) : String := String.ofList (message.toList.flatMap spell)

end Permalink.Command.Log
