import Permalink.Text.Basic

set_option autoImplicit false

namespace Permalink.Unicode

abbrev Ranges := List (Nat × Nat)

def Ranges.contains (ranges : Ranges) (c : Char) : Bool :=
  ranges.any fun r => r.1 ≤ c.toNat && c.toNat ≤ r.2

def words (cs : List Char) : List (List Char) :=
  (cs.splitOnP fun c => c == ' ' || c == '\n').filter (!·.isEmpty)

def codePoint (cs : List Char) : Nat :=
  (Text.number? 16 cs).getD 0

/-- An interval `61-7A`, or a single code point `B7`. -/
def interval (cs : List Char) : Nat × Nat :=
  match cs.splitOn '-' with
  | [first, last] => (codePoint first, codePoint last)
  | _ => (codePoint cs, codePoint cs)

/-- Closed intervals in hexadecimal, between blanks: `61-7A B7`. -/
def Ranges.ofText (table : String) : Ranges :=
  (words table.toList).map interval

example : Ranges.ofText " 61-7A\n B7" = [(0x61, 0x7A), (0xB7, 0xB7)] := by decide +kernel

/-- A line of a table. `41-5A 61` moves an interval so that it begins at the target, `100-12E/2 101`
moves every second character of one, and `1F1= 64+7A 64+7A 1F5` gives each of some adjoining
characters its own replacement. -/
inductive Substitution where
  | moved (first last step target : Nat)
  | listed (first : Nat) (targets : List (List Nat))
deriving DecidableEq, Repr

namespace Substitution

def replacement? : Substitution → Nat → Option (List Nat)
  | .moved first last step target, n =>
    if first ≤ n ∧ n ≤ last ∧ (n - first) % step = 0 then some [target + (n - first)] else none
  | .listed first targets, n => if first ≤ n then targets[n - first]? else none

/-- A replacement `64+7A`. -/
def sequence (cs : List Char) : List Nat :=
  (cs.splitOn '+').map codePoint

def ofWords : List (List Char) → Option Substitution
  | [] => none
  | head :: targets =>
    match head.getLast?, head.splitOn '/' with
    | some '=', _ => some (.listed (codePoint head.dropLast) (targets.map sequence))
    | _, [range, step] =>
      targets.head?.map fun target =>
        .moved (interval range).1 (interval range).2 (codePoint step) (codePoint target)
    | _, _ =>
      targets.head?.map fun target =>
        .moved (interval head).1 (interval head).2 1 (codePoint target)

def listOfText (table : String) : List Substitution :=
  (table.toList.splitOn '\n').filterMap fun line => ofWords (words line)

def find? (table : List Substitution) (c : Char) : Option (List Char) :=
  (table.findSome? (·.replacement? c.toNat)).map (·.map Char.ofNat)

example : find? (listOfText "41-5A 61\n1F1= 64+7A 64+7A 1F5") (Char.ofNat 0x1F2) =
    some ['d', 'z'] := by decide +kernel

end Substitution
end Permalink.Unicode
