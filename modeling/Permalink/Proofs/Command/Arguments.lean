import Permalink.Command.Run
import Permalink.Proofs.Text.Strict

set_option autoImplicit false

namespace Permalink.Command
open Text

def formatName : List UInt8 := Utf8.encode "--format".toList

def endMark : List UInt8 := Utf8.encode "--".toList

/-- The arguments of one option, whether or not it is a known one. It begins with a hyphen and is
more than that, and `--format` has the next argument as its value. -/
inductive IsOption : List (List UInt8) → Prop where
  | valued (value : List UInt8) : IsOption [formatName, value]
  | alone (b : UInt8) (bytes : List UInt8) : 0x2D :: b :: bytes ≠ formatName →
      0x2D :: b :: bytes ≠ endMark → IsOption [0x2D :: b :: bytes]

def Request.andThen (rest : List (List UInt8)) : Request → Option Request
  | report options => readFrom? false options rest
  | version => some version
  | help => some help

/-- What an argument asks for that is an option without a value of its own. -/
def Argument.alone? (options : Options) : Argument → Option Request
  | formatValue value => (options.setFormat? value).map .report
  | noSanitize => options.setNoSanitize?.map .report
  | stripTracking => options.setStripTracking?.map .report
  | version => some .version
  | help => some .help
  | link _ | format | endOfOptions => none

theorem andThen_nil (request : Request) : request.andThen [] = some request := by
  cases request <;> rfl

section Links
variable {options set : Options}

theorem Options.links_of_setFormat {value : List Char} (h : options.setFormat? value = some set) :
    set.links = options.links := by
  unfold setFormat? at h
  split at h
  · cases h
  · obtain ⟨format, _, rfl⟩ := Option.map_eq_some_iff.mp h
    rfl

theorem Options.links_of_setNoSanitize (h : options.setNoSanitize? = some set) :
    set.links = options.links := by
  unfold setNoSanitize? at h
  split at h
  · cases h
  · rw [← Option.some.inj h]

theorem Options.links_of_setStripTracking (h : options.setStripTracking? = some set) :
    set.links = options.links := by
  unfold setStripTracking? at h
  split at h
  · cases h
  · rw [← Option.some.inj h]

theorem report_eq_of_map {found? : Option Options} (h : found?.map Request.report =
    some (.report set)) : found? = some set := by
  obtain ⟨found, hfound, heq⟩ := Option.map_eq_some_iff.mp h
  rw [hfound, Request.report.inj heq]

theorem Argument.links_of_alone {argument : Argument}
    (h : argument.alone? options = some (.report set)) : set.links = options.links := by
  cases argument with
  | formatValue value => exact Options.links_of_setFormat (report_eq_of_map h)
  | noSanitize => exact Options.links_of_setNoSanitize (report_eq_of_map h)
  | stripTracking => exact Options.links_of_setStripTracking (report_eq_of_map h)
  | version | help | link | format | endOfOptions => cases h

end Links

section Option
variable {b : UInt8} {bytes : List UInt8} {options : Options}

theorem ofLong_eq_some {cs : List Char} {argument : Argument}
    (h : Argument.ofLong? cs = some argument) (hname : cs ≠ "--format".toList)
    (hmark : cs ≠ "--".toList) :
    argument ≠ .format ∧ argument ≠ .endOfOptions ∧ ∀ text, argument ≠ .link text := by
  unfold Argument.ofLong? at h
  simp only [hname, hmark, if_false] at h
  split_ifs at h <;> obtain rfl := Option.some.inj h <;> simp

theorem ofBytes_eq_some (hname : 0x2D :: b :: bytes ≠ formatName)
    (hmark : 0x2D :: b :: bytes ≠ endMark) {argument : Argument}
    (h : Argument.ofBytes? (0x2D :: b :: bytes) = some argument) :
    argument ≠ .format ∧ argument ≠ .endOfOptions ∧ ∀ text, argument ≠ .link text := by
  unfold Argument.ofBytes? at h
  split at h
  · rename_i heq
    cases heq
  · rename_i rest heq
    obtain ⟨cs, hcs, hlong⟩ := Option.bind_eq_some_iff.mp h
    have hbytes := Utf8.decode_eq_some_iff.mp hcs
    rw [heq, hbytes] at hname hmark
    exact ofLong_eq_some hlong (fun he => hname (he ▸ rfl)) fun he => hmark (he ▸ rfl)
  · obtain rfl := Option.some.inj h
    simp
  · obtain rfl := Option.some.inj h
    simp
  · cases h
  · rename_i hother
    exact absurd rfl (hother _)

theorem readFrom_alone (hname : 0x2D :: b :: bytes ≠ formatName)
    (hmark : 0x2D :: b :: bytes ≠ endMark) (options : Options) (rest : List (List UInt8)) :
    readFrom? false options ((0x2D :: b :: bytes) :: rest) =
      ((Argument.ofBytes? (0x2D :: b :: bytes)).bind (Argument.alone? options)).bind
        (Request.andThen rest) := by
  rw [readFrom?]
  cases hread : Argument.ofBytes? (0x2D :: b :: bytes) with
  | none => rfl
  | some argument =>
    obtain ⟨hformat, hend, hlink⟩ := ofBytes_eq_some hname hmark hread
    cases argument with
    | link text => exact absurd rfl (hlink text)
    | format => exact absurd rfl hformat
    | endOfOptions => exact absurd rfl hend
    | version | help => rfl
    | formatValue value =>
      cases h : options.setFormat? value <;> simp [Argument.alone?, Request.andThen, h]
    | noSanitize => cases h : options.setNoSanitize? <;> simp [Argument.alone?, Request.andThen, h]
    | stripTracking =>
      cases h : options.setStripTracking? <;> simp [Argument.alone?, Request.andThen, h]

theorem readFrom_valued (value : List UInt8) (options : Options) (rest : List (List UInt8)) :
    readFrom? false options (formatName :: value :: rest) =
      (((Utf8.decode? value).bind options.setFormat?).map .report).bind (Request.andThen rest) := by
  have hname : Argument.ofBytes? formatName = some .format := by decide
  rw [readFrom?, hname, Option.bind_some]
  simp only [readFrom?]
  cases (Utf8.decode? value).bind options.setFormat? <;> rfl

/-- An option refuses the line, ends the reading, or is followed by the reading of the rest. -/
theorem IsOption.read {chunk : List (List UInt8)} (h : IsOption chunk) (options : Options) :
    ∃ asked? : Option Request,
      (∀ set, asked? = some (.report set) → set.links = options.links) ∧
      ∀ rest, readFrom? false options (chunk ++ rest) = asked?.bind (Request.andThen rest) := by
  cases h with
  | valued value =>
    refine ⟨_, fun set hset => ?_, readFrom_valued value options⟩
    obtain ⟨cs, _, hcs⟩ := Option.bind_eq_some_iff.mp (report_eq_of_map hset)
    exact Options.links_of_setFormat hcs
  | alone b bytes hname hmark =>
    refine ⟨_, fun set hset => ?_, readFrom_alone hname hmark options⟩
    obtain ⟨argument, _, hargument⟩ := Option.bind_eq_some_iff.mp hset
    exact Argument.links_of_alone hargument

theorem read_options {chunks : List (List (List UInt8))} (h : ∀ chunk ∈ chunks, IsOption chunk)
    (options : Options) : ∃ asked? : Option Request,
      (∀ set, asked? = some (.report set) → set.links = options.links) ∧
      ∀ rest, readFrom? false options (chunks.flatten ++ rest) =
        asked?.bind (Request.andThen rest) := by
  induction chunks generalizing options with
  | nil =>
    refine ⟨some (.report options), fun set hset => ?_, fun _ => rfl⟩
    rw [← Request.report.inj (Option.some.inj hset)]
  | cons chunk chunks ih =>
    rw [List.forall_mem_cons] at h
    obtain ⟨first?, hfirst, hread⟩ := h.1.read options
    simp only [List.flatten_cons, List.append_assoc, hread]
    cases first? with
    | none => exact ⟨none, nofun, fun _ => rfl⟩
    | some request =>
      cases request with
      | report next =>
        obtain ⟨asked?, hasked, hrest⟩ := ih h.2 next
        exact ⟨asked?, fun set hset => (hasked set hset).trans (hfirst next rfl), hrest⟩
      | version => exact ⟨some .version, nofun, fun _ => rfl⟩
      | help => exact ⟨some .help, nofun, fun _ => rfl⟩

end Option

theorem readLinks_encode (links : List String) (options : Options) :
    readLinks? options (links.map fun link => Utf8.encode link.toList) =
      some (.report { options with links := options.links ++ links }) := by
  induction links generalizing options with
  | nil => simp [readLinks?]
  | cons link links ih =>
    rw [List.map_cons, readLinks?, Utf8.decode_encode, Option.bind_some, ih]
    simp [Options.addLink]

def Request.withLinks (links : List String) : Request → Request
  | report options => report { options with links }
  | version => version
  | help => help

theorem andThen_endMark {options : Options} (h : options.links = []) (links : List String) :
    (Request.report options).andThen (endMark :: links.map fun link => Utf8.encode link.toList) =
      some (.report { options with links }) := by
  have hmark : Argument.ofBytes? endMark = some .endOfOptions := by decide
  rw [Request.andThen, readFrom?, hmark, Option.bind_some]
  simp only [readLinks_encode, h, List.nil_append]

/-- Links behind the mark change nothing but the links of what the options ask for. -/
theorem readArguments_links {chunks : List (List (List UInt8))}
    (h : ∀ chunk ∈ chunks, IsOption chunk) (links : List String) :
    (∀ options, readArguments? chunks.flatten = some (.report options) → options.links = []) ∧
      readArguments? (chunks.flatten ++
          endMark :: links.map fun link => Utf8.encode link.toList) =
        (readArguments? chunks.flatten).map (Request.withLinks links) := by
  obtain ⟨asked?, hlinks, hread⟩ := read_options h .initial
  have hasked : readArguments? chunks.flatten = asked? := by
    have hnil := hread []
    rw [List.append_nil] at hnil
    rw [readArguments?, hnil]
    cases asked? with
    | none => rfl
    | some request => exact andThen_nil request
  rw [hasked, readArguments?, hread]
  refine ⟨hlinks, ?_⟩
  cases asked? with
  | none => rfl
  | some request =>
    cases request with
    | report options => exact andThen_endMark (hlinks options rfl) links
    | version | help => rfl

end Permalink.Command
