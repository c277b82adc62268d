import Permalink.Proofs.Url.Path
import Permalink.Proofs.Url.Query
import Permalink.Url.Parse

set_option autoImplicit false

namespace Permalink.Url
open Text Percent

namespace Percent

theorem decode_eq_nil_iff {cs : List Char} : decode cs = [] ↔ cs = [] := by
  cases cs with
  | nil => simp [decode]
  | cons c cs =>
    cases h : escape? (c :: cs) with
    | none =>
      obtain ⟨b, bs, he, _⟩ := Utf8.utf8EncodeChar_head c
      simp [decode_cons h, he]
    | some found =>
      obtain ⟨byte, rest⟩ := found
      simp [decode_of_escape h]

theorem digits_of_dot {a b : Char} {high low : Nat} (ha : hexValue? a = some high)
    (hb : hexValue? b = some low) (h : 0x2E = UInt8.ofNat (16 * high + low)) :
    a = '2' ∧ (b = 'e' ∨ b = 'E') := by
  have hdigit {c : Char} {n : Nat} (hc : hexValue? c = some n) :
      n < 16 ∧ (n = 2 → c = '2') ∧ (n = 14 → c = 'e' ∨ c = 'E') := by
    have hall := Form.forall_ascii (p := fun c => ∀ n ∈ hexValue? c,
      n < 16 ∧ (n = 2 → c = '2') ∧ (n = 14 → c = 'e' ∨ c = 'E')) (by decide +kernel)
      (Form.toNat_lt_of_hex (by rw [hc]; rfl))
    exact hall n hc
  obtain ⟨hhigh, htwo, _⟩ := hdigit ha
  obtain ⟨hlow, _, he⟩ := hdigit hb
  have hval : 0x2E = 16 * high + low := by
    have hnat := congrArg UInt8.toNat h
    rwa [Utf8.toNat_ofNat_of_lt (by omega)] at hnat
  exact ⟨htwo (by omega), he (by omega)⟩

/-- A dot is written as such or as an escape. -/
theorem exists_dot_of_decode {cs : List Char} {bs : List UInt8} (h : decode cs = 0x2E :: bs) :
    ∃ dot ∈ Path.dots, ∃ rest, cs = dot ++ rest ∧ decode rest = bs := by
  cases cs with
  | nil => simp [decode] at h
  | cons c cs =>
    cases he : escape? (c :: cs) with
    | none =>
      -- The first byte of a character that is no dot is not that of a dot.
      rw [decode_cons he] at h
      have hchar := congrArg Utf8.decodeLenient h
      rw [Utf8.decodeLenient_utf8EncodeChar, Utf8.decodeLenient_ascii (by decide)] at hchar
      obtain rfl : c = '.' := (List.cons.inj hchar).1
      exact ⟨['.'], by simp [Path.dots], cs, rfl, (List.cons.inj h).2⟩
    | some found =>
      obtain ⟨byte, rest⟩ := found
      rw [decode_of_escape he] at h
      obtain ⟨rfl, hrest⟩ := List.cons.inj h
      obtain ⟨a, b, high, low, hcs, ha, hb, hbyte⟩ := escape_eq_some he
      obtain ⟨rfl, hlast⟩ := digits_of_dot ha hb hbyte
      refine ⟨['%', '2', b], ?_, rest, hcs, hrest⟩
      rcases hlast with rfl | rfl
      · simp [Path.dots]
      · simp [Path.dots]

end Percent

namespace Path

theorem isSingleDot_iff {cs : List Char} : isSingleDot cs = true ↔ decode cs = [0x2E] := by
  constructor
  · intro h
    have hall : ∀ dot ∈ dots, decode dot = [0x2E] := by decide
    exact hall cs (List.contains_iff_mem.mp h)
  · intro h
    obtain ⟨dot, hdot, rest, rfl, hrest⟩ := exists_dot_of_decode h
    rw [decode_eq_nil_iff.mp hrest, List.append_nil]
    exact List.contains_iff_mem.mpr hdot

theorem isDoubleDot_iff {cs : List Char} : isDoubleDot cs = true ↔ decode cs = [0x2E, 0x2E] := by
  constructor
  · intro h
    have hall : ∀ pair ∈ dots.flatMap fun a => dots.map (a ++ ·), decode pair = [0x2E, 0x2E] := by
      decide
    exact hall cs (List.contains_iff_mem.mp h)
  · intro h
    obtain ⟨first, hfirst, rest, rfl, hrest⟩ := exists_dot_of_decode h
    obtain ⟨second, hsecond, last, rfl, hlast⟩ := exists_dot_of_decode hrest
    rw [decode_eq_nil_iff.mp hlast, List.append_nil]
    exact List.contains_iff_mem.mpr
      (List.mem_flatMap.mpr ⟨first, hfirst, List.mem_map.mpr ⟨second, hsecond, rfl⟩⟩)

/-- The characters that no segment has as they are. -/
def reserved : List Char := ['/', '?', '#', '\x22', '<', '>', '\x60', '\x7b', '\x7d']

/-- A text that can be a segment of a URL, of whatever scheme. -/
structure IsPlain (cs : List Char) : Prop where
  printable : ∀ c ∈ cs, 0x20 < c.toNat ∧ c.toNat < 0x7F ∧ c ∉ reserved
  single : decode cs ≠ [0x2E]
  double : decode cs ≠ [0x2E, 0x2E]

theorem isPlain_nil : IsPlain [] := ⟨by simp, by decide, by decide⟩

theorem isPlain_of_mem_split {separator : Char → Bool} (hpercent : separator '%' = false)
    (hdigit : ∀ n < 16, separator (upperHexDigit n) = false) (hslash : separator '/' = true)
    {ofEmpty : List (List Char)} (hempty : ∀ s ∈ ofEmpty, s = []) {cs segment : List Char}
    (h : segment ∈ split separator ofEmpty cs) (hsingle : isSingleDot segment = false)
    (hdouble : isDoubleDot segment = false) : IsPlain segment := by
  refine ⟨fun c hc => ?_, fun hdot => ?_, fun hdots => ?_⟩
  · obtain ⟨hascii, hset, hseparator⟩ := plain_of_mem_split hpercent hdigit hempty h c hc
    have hne : c ≠ '/' := by
      rintro rfl
      rw [hslash] at hseparator
      cases hseparator
    exact Form.forall_ascii (p := fun c => pathSet c = false → c ≠ '/' →
      0x20 < c.toNat ∧ c.toNat < 0x7F ∧ c ∉ reserved) (by decide +kernel) hascii hset hne
  · rw [isSingleDot_iff.mpr hdot] at hsingle
    cases hsingle
  · rw [isDoubleDot_iff.mpr hdots] at hdouble
    cases hdouble

theorem isPlain_drive {segment : List Char} (h : isDrive segment = true) (hs : IsPlain segment) :
    IsPlain (segment.take 1 ++ [':']) := by
  obtain ⟨letter, mark, rfl⟩ : ∃ letter mark, segment = [letter, mark] := by
    rw [isDrive, Bool.and_eq_true, beq_iff_eq] at h
    exact List.length_eq_two.mp h.1
  refine ⟨fun c hc => ?_, fun hdot => ?_, fun hdots => ?_⟩
  · rcases List.mem_append.mp hc with hc | hc
    · exact hs.printable c (List.mem_of_mem_take hc)
    · rw [List.mem_singleton.mp hc]
      decide
  · have hsingle := isSingleDot_iff.mpr hdot
    simp [isSingleDot, dots] at hsingle
  · have hdouble := isDoubleDot_iff.mpr hdots
    simp [isDoubleDot, dots] at hdouble

theorem keeps_pushFile : Keeps IsPlain pushFile := by
  intro reversed segment hr hs s hmem
  unfold pushFile at hmem
  split at hmem
  · rename_i hdrive
    rw [List.mem_singleton.mp hmem]
    exact isPlain_drive (Bool.and_eq_true_iff.mp hdrive).2 hs
  · exact keeps_cons IsPlain reversed segment hr hs s hmem

theorem isPlain_of_mem_special {cs s : List Char}
    (h : s ∈ resolve (split isAnySlash [[]] cs)) : IsPlain s :=
  forall_mem_resolve isPlain_nil (fun _ => isPlain_of_mem_split (by decide) (by decide) rfl
    (by simp)) s h

theorem isPlain_of_mem_other {cs s : List Char} (h : s ∈ resolve (split isSlash [] cs)) :
    IsPlain s :=
  forall_mem_resolve isPlain_nil (fun _ => isPlain_of_mem_split (by decide) (by decide) rfl
    (by simp)) s h

theorem isPlain_of_mem_file {cs s : List Char} (h : s ∈ trimFront (fileSegments cs)) :
    IsPlain s := by
  have hfile : ∀ s ∈ fileSegments cs, IsPlain s :=
    forall_mem_resolveWith keeps_pushFile isPlain_nil fun _ =>
      isPlain_of_mem_split (by decide) (by decide) rfl (by simp)
  unfold trimFront at h
  split at h
  · rw [List.mem_singleton.mp h]
    exact isPlain_nil
  · exact hfile s ((List.dropWhile_sublist _).subset h)

end Path

def Path.HasPlain (path : Path) : Prop :=
  ∀ segments, path = .rooted segments → ∀ s ∈ segments, Path.IsPlain s

theorem hasPlain_of_specialLocation {scheme : Scheme} {cs : List Char} {authority : Authority}
    {path : Path} (h : specialLocation? scheme cs = some (authority, path)) : path.HasPlain := by
  obtain ⟨_, _, heq⟩ := Option.map_eq_some_iff.mp h
  obtain ⟨_, rfl⟩ := Prod.mk.inj heq
  rintro _ ⟨⟩ s hs
  exact Path.isPlain_of_mem_special hs

theorem hasPlain_filePath (host : Option Host) (cs : List Char) :
    (fileLocation host cs).2.HasPlain := by
  rintro _ ⟨⟩ s hs
  exact Path.isPlain_of_mem_file hs

theorem hasPlain_of_otherText (cs : List Char) : (Path.ofOtherText cs).HasPlain := by
  rintro _ ⟨⟩ s hs
  exact Path.isPlain_of_mem_other hs

theorem hasPlain_of_fileLocation {cs : List Char} {authority : Authority} {path : Path}
    (h : fileLocation? cs = some (authority, path)) : path.HasPlain := by
  have hplace {host : Option Host} {tail : List Char}
      (heq : fileLocation host tail = (authority, path)) : path.HasPlain := by
    have hplain := hasPlain_filePath host tail
    rwa [heq] at hplain
  unfold fileLocation? at h
  split at h
  · split at h
    · dsimp only at h
      split at h
      · exact hplace (Option.some.inj h)
      · obtain ⟨host, _, heq⟩ := Option.map_eq_some_iff.mp h
        exact hplace heq
    · exact hplace (Option.some.inj h)
  · exact hplace (Option.some.inj h)
  · exact hplace (Option.some.inj h)

theorem hasPlain_of_otherLocation {scheme : Scheme} {followed : Bool} {cs : List Char}
    {authority : Option Authority} {path : Path}
    (h : otherLocation? scheme followed cs = some (authority, path)) : path.HasPlain := by
  unfold otherLocation? at h
  split at h
  · obtain ⟨_, _, heq⟩ := Option.map_eq_some_iff.mp h
    obtain ⟨_, rfl⟩ := Prod.mk.inj heq
    exact hasPlain_of_otherText _
  · obtain ⟨_, rfl⟩ := Prod.mk.inj (Option.some.inj h)
    exact hasPlain_of_otherText _
  · obtain ⟨_, rfl⟩ := Prod.mk.inj (Option.some.inj h)
    rintro _ ⟨⟩

theorem hasPlain_of_map {found? : Option (Authority × Path)}
    {f : Authority × Path → Option Authority × Path} {authority : Option Authority} {path : Path}
    (hf : ∀ found, (f found).2 = found.2) (h : found?.map f = some (authority, path))
    (hplain : ∀ found, found? = some found → found.2.HasPlain) : path.HasPlain := by
  obtain ⟨found, hfound, heq⟩ := Option.map_eq_some_iff.mp h
  have hpath : found.2 = path := by rw [← hf found, heq]
  exact hpath ▸ hplain found hfound

theorem hasPlain_of_location {scheme : Scheme} {followed : Bool} {cs : List Char}
    {authority : Option Authority} {path : Path}
    (h : location? scheme followed cs = some (authority, path)) : path.HasPlain := by
  cases scheme with
  | file => exact hasPlain_of_map (fun _ => rfl) h fun _ => hasPlain_of_fileLocation
  | other name => exact hasPlain_of_otherLocation h
  | http | https | ws | wss | ftp =>
    exact hasPlain_of_map (fun _ => rfl) h fun _ => hasPlain_of_specialLocation

theorem isPlain_of_mem_segments {link : String} {url : Url} (h : parse? link = some url)
    {segment : String} (hs : segment ∈ url.segments) : Path.IsPlain segment.toList := by
  obtain ⟨⟨scheme, rest⟩, _, h⟩ := Option.bind_eq_some_iff.mp h
  obtain ⟨⟨authority, path⟩, hlocation, rfl⟩ := Option.map_eq_some_iff.mp h
  unfold segments at hs
  split at hs
  · rename_i segments hpath
    obtain ⟨s, hmem, rfl⟩ := List.mem_map.mp hs
    rw [String.toList_ofList]
    exact hasPlain_of_location hlocation segments hpath s (List.mem_of_mem_filter hmem)
  · cases hs

end Permalink.Url
