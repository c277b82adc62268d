set_option autoImplicit false

/-!
A word is written in ASCII as its ASCII characters, a hyphen if there are any, and then the other
characters as insertions in ascending order. Each insertion is the distance that a cursor travels
over all (character, position) pairs since the last one, in digits whose weights adapt to it.
-/

namespace Permalink.Domain.Punycode

/-- Digits are `a` to `z`, then `0` to `9`. -/
def digit (n : Nat) : Char :=
  if n < 26 then Char.ofNat (97 + n) else Char.ofNat (22 + n)

def digitValue? (c : Char) : Option Nat :=
  if 'a' ≤ c ∧ c ≤ 'z' then some (c.toNat - 97)
  else if 'A' ≤ c ∧ c ≤ 'Z' then some (c.toNat - 65)
  else if '0' ≤ c ∧ c ≤ '9' then some (c.toNat - 22)
  else none

theorem digitValue_digit {n : Nat} (h : n < 36) : digitValue? (digit n) = some n := by
  have all : ∀ m ∈ List.range 36, digitValue? (digit m) = some m := by decide
  exact all n (List.mem_range.mpr h)

/-- The least digit that does not end a number, at place `k` (counted in steps of 36). -/
def threshold (k bias : Nat) : Nat :=
  if k ≤ bias then 1 else if bias + 26 ≤ k then 26 else k - bias

theorem threshold_pos (k bias : Nat) : 1 ≤ threshold k bias := by
  unfold threshold
  split
  · omega
  · split <;> omega

theorem threshold_le (k bias : Nat) : threshold k bias ≤ 26 := by
  unfold threshold
  split
  · omega
  · split <;> omega

/-- Divides a distance by 35 until it is small, counting 36 for each division. -/
def scaleDown (distance k : Nat) : Nat × Nat :=
  if 455 < distance then scaleDown (distance / 35) (k + 36) else (distance, k)
termination_by distance
decreasing_by exact Nat.div_lt_self (by omega) (by omega)

def adapt (distance size : Nat) (first : Bool) : Nat :=
  let d := if first then distance / 700 else distance / 2
  let scaled := scaleDown (d + d / size) 0
  scaled.2 + 36 * scaled.1 / (scaled.1 + 38)

/-- Where the last insertion was made, and how the next distance is written. -/
structure Cursor where
  point : Nat
  /-- The position after the character inserted last. -/
  index : Nat
  bias : Nat
  size : Nat
deriving DecidableEq, Repr

namespace Cursor

def start (size : Nat) : Cursor := ⟨128, 0, 72, size⟩

/-- The cursor after an insertion at a distance: the new character is `point`, before `index`. -/
def advance (s : Cursor) (distance : Nat) : Cursor :=
  let reach := s.index + distance
  { point := s.point + reach / (s.size + 1)
    index := reach % (s.size + 1) + 1
    bias := adapt distance (s.size + 1) (s.index == 0)
    size := s.size + 1 }

def distance (s : Cursor) (point place : Nat) : Nat :=
  (point - s.point) * (s.size + 1) + place - s.index

theorem advance_distance {s : Cursor} {point place : Nat} (hplace : place ≤ s.size)
    (hreach : s.index ≤ (point - s.point) * (s.size + 1) + place) (hpoint : s.point ≤ point) :
    (s.advance (s.distance point place)).point = point ∧
      (s.advance (s.distance point place)).index = place + 1 := by
  have reach : s.index + s.distance point place = place + (s.size + 1) * (point - s.point) := by
    unfold distance
    rw [Nat.mul_comm (s.size + 1)]
    omega
  have quotient : (s.index + s.distance point place) / (s.size + 1) = point - s.point := by
    rw [reach, Nat.add_mul_div_left _ _ (by omega), Nat.div_eq_of_lt (by omega)]
    omega
  have remainder : (s.index + s.distance point place) % (s.size + 1) = place := by
    rw [reach, Nat.add_mul_mod_self_left, Nat.mod_eq_of_lt (by omega)]
  constructor
  · simp only [advance, quotient]
    omega
  · simp only [advance, remainder]

end Cursor

/-- The digits of a distance, the lowest first. -/
def writeDistance (bias k distance : Nat) : List Char :=
  let t := threshold k bias
  if distance < t then [digit distance]
  else digit (t + (distance - t) % (36 - t)) ::
    writeDistance bias (k + 36) ((distance - t) / (36 - t))
termination_by distance
decreasing_by
  have positive := threshold_pos k bias
  have := Nat.div_le_self (distance - threshold k bias) (36 - threshold k bias)
  omega

def readDistance? (bias k weight sum : Nat) : List Char → Option (Nat × List Char)
  | [] => none
  | c :: rest =>
    (digitValue? c).bind fun d =>
      let t := threshold k bias
      if d < t then some (sum + d * weight, rest)
      else readDistance? bias (k + 36) (weight * (36 - t)) (sum + d * weight) rest

/-- The positions at which a code point is inserted into the characters below it. -/
def places (point : Nat) : Nat → List Char → List Nat
  | _, [] => []
  | below, c :: cs =>
    if c.toNat = point then below :: places point (below + 1) cs
    else places point (if c.toNat < point then below + 1 else below) cs

/-- The code points beyond ASCII of a word, each once, in ascending order. -/
def points (cs : List Char) : List Nat :=
  ((cs.map Char.toNat).filter (128 ≤ ·)).mergeSort.eraseDups

def insertions (cs : List Char) : List (Nat × Nat) :=
  (points cs).flatMap fun point => (places point 0 cs).map (point, ·)

def writeInsertions : Cursor → List (Nat × Nat) → List Char
  | _, [] => []
  | s, (point, place) :: rest =>
    writeDistance s.bias 36 (s.distance point place) ++
      writeInsertions (s.advance (s.distance point place)) rest

def encode (cs : List Char) : List Char :=
  let basic := cs.filter (·.toNat < 128)
  basic ++ (if basic.isEmpty then [] else ['-']) ++
    writeInsertions (Cursor.start basic.length) (insertions cs)

/-- Makes the insertions that a text holds. A distance has a digit, so the length of the text is
fuel enough. -/
def readInsertions? : Nat → Cursor → List Char → List Char → Option (List Char)
  | _, _, word, [] => some word
  | 0, _, _, _ :: _ => none
  | fuel + 1, s, word, c :: text =>
    (readDistance? s.bias 36 1 0 (c :: text)).bind fun (distance, rest) =>
      let next := s.advance distance
      if next.point.isValidChar then
        readInsertions? fuel next (word.insertIdx (next.index - 1) (Char.ofNat next.point)) rest
      else none

/-- The ASCII characters of a written word and its insertions; a hyphen in front marks nothing. -/
def parts (cs : List Char) : List Char × List Char :=
  let tail := (cs.reverse.takeWhile (· ≠ '-')).reverse
  let basic := cs.take (cs.length - tail.length - 1)
  if basic.isEmpty then ([], cs) else (basic, tail)

def decode? (cs : List Char) : Option (List Char) :=
  let (basic, tail) := parts cs
  if basic.all (·.toNat < 128) then
    readInsertions? tail.length (Cursor.start basic.length) basic tail
  else none

end Permalink.Domain.Punycode
