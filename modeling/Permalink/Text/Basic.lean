set_option autoImplicit false

namespace Permalink.Text

/-- The characters with the Unicode property `White_Space`. -/
def isBlank (c : Char) : Bool :=
  let n := c.toNat
  (9 ≤ n && n ≤ 13) || n == 0x20 || n == 0x85 || n == 0xA0 || n == 0x1680 ||
    (0x2000 ≤ n && n ≤ 0x200A) || n == 0x2028 || n == 0x2029 || n == 0x202F ||
    n == 0x205F || n == 0x3000

/-- The list without its longest end made of characters that satisfy `p`. -/
def dropEndWhile {α : Type} (p : α → Bool) (l : List α) : List α :=
  (l.reverse.dropWhile p).reverse

def trimEndChars (cs : List Char) : List Char := dropEndWhile isBlank cs

def trimChars (cs : List Char) : List Char := trimEndChars (cs.dropWhile isBlank)

def trimEnd (s : String) : String := String.ofList (trimEndChars s.toList)

def trim (s : String) : String := String.ofList (trimChars s.toList)

@[simp] theorem dropEndWhile_nil {α : Type} (p : α → Bool) : dropEndWhile p [] = [] := rfl

theorem dropEndWhile_append_singleton {α : Type} (p : α → Bool) (l : List α) (a : α) :
    dropEndWhile p (l ++ [a]) = if p a then dropEndWhile p l else l ++ [a] := by
  by_cases h : p a <;> simp [dropEndWhile, h]

def before (mark : Char) (cs : List Char) : List Char :=
  cs.takeWhile (· ≠ mark)

def after? (mark : Char) : List Char → Option (List Char)
  | [] => none
  | c :: rest => if c = mark then some rest else after? mark rest

def cutLast? (mark : Char) (cs : List Char) : Option (List Char × List Char) :=
  (after? mark cs.reverse).map fun front =>
    (front.reverse, (before mark cs.reverse).reverse)

def occursIn (part : List Char) : List Char → Bool
  | [] => part.isEmpty
  | c :: rest => part.isPrefixOf (c :: rest) || occursIn part rest

theorem before_append_after {mark : Char} {cs rest : List Char} (h : after? mark cs = some rest) :
    before mark cs ++ mark :: rest = cs := by
  induction cs with
  | nil => simp [after?] at h
  | cons c cs ih =>
    by_cases hc : c = mark
    · simp_all [after?, before]
    · simp_all [after?, before]

theorem before_eq_of_after_eq_none {mark : Char} {cs : List Char} (h : after? mark cs = none) :
    before mark cs = cs := by
  induction cs with
  | nil => rfl
  | cons c cs ih =>
    by_cases hc : c = mark
    · simp_all [after?]
    · simp_all [after?, before]

theorem occursIn_iff {part whole : List Char} : occursIn part whole = true ↔ part <:+: whole := by
  induction whole with
  | nil => simp [occursIn]
  | cons c rest ih => simp [occursIn, ih, List.infix_cons_iff]

theorem after_eq_none_iff {mark : Char} {cs : List Char} : after? mark cs = none ↔ mark ∉ cs := by
  induction cs with
  | nil => simp [after?]
  | cons c cs ih =>
    by_cases hc : c = mark
    · simp [after?, hc]
    · simp [after?, hc, ih, Ne.symm hc]

def hexValue? (c : Char) : Option Nat :=
  if '0' ≤ c ∧ c ≤ '9' then some (c.toNat - 48)
  else if 'a' ≤ c ∧ c ≤ 'f' then some (c.toNat - 87)
  else if 'A' ≤ c ∧ c ≤ 'F' then some (c.toNat - 55)
  else none

def digit? (base : Nat) (c : Char) : Option Nat :=
  (hexValue? c).filter (· < base)

/-- The number that a list of digits writes; the empty list writes zero. -/
def number? (base : Nat) (digits : List Char) : Option Nat :=
  digits.foldlM (fun n c => (digit? base c).map (n * base + ·)) 0

def upperHexDigit (n : Nat) : Char :=
  if n < 10 then Char.ofNat (48 + n) else Char.ofNat (55 + n)

def lowerHexDigit (n : Nat) : Char :=
  if n < 10 then Char.ofNat (48 + n) else Char.ofNat (87 + n)

theorem hexValue_upperHexDigit {n : Nat} (h : n < 16) : hexValue? (upperHexDigit n) = some n := by
  have all : ∀ m ∈ List.range 16, hexValue? (upperHexDigit m) = some m := by decide
  exact all n (List.mem_range.mpr h)

end Permalink.Text
