import Permalink.Proofs.Domain.Name
import Permalink.Proofs.Url.Address
import Permalink.Proofs.Url.Parse

set_option autoImplicit false

namespace Permalink.Url
open Text Domain

/-- An ASCII character that is never dropped. -/
def isVisible (c : Char) : Bool := 0x20 < c.toNat && c.toNat < 128

/-- A character that is neither dropped nor taken for the end of the authority or the path. -/
def isInert (c : Char) : Bool := isVisible c && !Path.isAnySlash c && c != '#' && c != '?'

theorem not_mem_of_forall {p : Char → Bool} {cs : List Char} (h : ∀ c ∈ cs, p c = true) {d : Char}
    (hd : p d = false) : d ∉ cs := by
  intro hmem
  rw [h d hmem] at hd
  cases hd

theorem Percent.decode_of_not_mem {cs : List Char} (h : '%' ∉ cs) :
    Percent.decode cs = Utf8.encode cs := by
  induction cs with
  | nil => rfl
  | cons c cs ih =>
    rw [List.mem_cons, not_or] at h
    rw [Percent.decode_cons (Percent.escape_cons_of_ne (Ne.symm h.1) cs), ih h.2]
    rfl

namespace Host

theorem isInert_of_isNameChar {c : Char} (h : isNameChar c = true) :
    isInert c = true ∧ c ≠ '@' ∧ c ≠ ':' ∧ c ≠ '[' :=
  Form.forall_ascii
    (p := fun c => isNameChar c = true → isInert c = true ∧ c ≠ '@' ∧ c ≠ ':' ∧ c ≠ '[')
    (by decide +kernel) (of_decide_eq_true (isNameChar_iff.mp h).1) h

theorem isInert_of_hexValue {c : Char} (h : (hexValue? c).isSome) :
    isInert c = true ∧ c ≠ '@' ∧ c ≠ ']' :=
  Form.forall_ascii
    (p := fun c => (hexValue? c).isSome → isInert c = true ∧ c ≠ '@' ∧ c ≠ ']')
    (by decide +kernel) (Form.toNat_lt_of_hex h) h

theorem isNameChar_of_isDigit {c : Char} (h : c.isDigit = true) : isNameChar c = true := by
  have hbound : 48 ≤ c.toNat ∧ c.toNat ≤ 57 := by
    simpa [Char.isDigit, UInt32.le_iff_toNat_le] using h
  exact Form.forall_ascii (p := fun c => c.isDigit = true → isNameChar c = true)
    (by decide +kernel) (by omega) h

theorem isNameChar_of_mem_ipv4 {address : Ipv4} : ∀ c ∈ address.text, isNameChar c = true := by
  intro c hc
  rcases Ipv4.mem_text hc with rfl | hdigit
  · decide
  · exact isNameChar_of_isDigit hdigit

theorem toAscii_ipv4 (address : Ipv4) : toAscii? address.text = some address.text := by
  refine toAscii_of_isNameChar isNameChar_of_mem_ipv4 fun part hpart hmark => ?_
  have hmem : 'x' ∈ address.text :=
    (sublist_of_mem_splitOnP hpart).subset (hmark.subset (by decide))
  exact absurd (Ipv4.mem_text hmem) (by decide)

theorem ofSpecialText_of_isNameChar {cs : List Char} (h : ∀ c ∈ cs, isNameChar c = true) :
    ofSpecialText? cs = (toAscii? cs).bind ofName? := by
  have hbracket : cs.head? ≠ some '[' := fun hhead =>
    not_mem_of_forall h (by decide) (List.mem_of_head? hhead)
  rw [ofSpecialText?, if_neg hbracket,
    Percent.decode_of_not_mem (not_mem_of_forall h (by decide)), Utf8.decode_encode]
  rfl

/-- A host that is read as it is written, with colons between brackets only. -/
structure IsWritten (host : Host) : Prop where
  read : ofSpecialText? host.text = some host
  nonempty : host.text ≠ []
  inert : ∀ c ∈ host.text, isInert c = true ∧ c ≠ '@'
  cut : ∀ tail, Authority.cutHost false tail = ([], tail) →
    Authority.cutHost false (host.text ++ tail) = (host.text, tail)

theorem cutHost_append {inside : Bool} {cs : List Char} (hcolon : inside = false → ':' ∉ cs)
    (hbracket : (if inside then ']' else '[') ∉ cs) (tail : List Char) :
    Authority.cutHost inside (cs ++ tail) =
      (cs ++ (Authority.cutHost inside tail).1, (Authority.cutHost inside tail).2) := by
  induction cs with
  | nil => rfl
  | cons c cs ih =>
    rw [List.mem_cons, not_or] at hbracket
    have hrest := ih (fun hf hmem => hcolon hf (List.mem_cons_of_mem c hmem)) hbracket.2
    have hnot : ¬ (c = ':' ∧ inside = false) := fun h => hcolon h.2 (by simp [h.1])
    have hinside : (c == '[' || (inside && c != ']')) = inside := by
      cases inside with
      | false => simpa using Ne.symm hbracket.1
      | true => simpa using Or.inr (Ne.symm hbracket.1)
    rw [List.cons_append, Authority.cutHost, if_neg hnot, hinside, hrest]
    rfl

theorem IsWritten.of_isNameChar {host : Host} (hname : ∀ c ∈ host.text, isNameChar c = true)
    (hne : host.text ≠ []) (hread : (toAscii? host.text).bind ofName? = some host) :
    host.IsWritten := by
  refine ⟨by rwa [ofSpecialText_of_isNameChar hname], hne, fun c hc => ?_, fun tail htail => ?_⟩
  · obtain ⟨hinert, hat, _⟩ := isInert_of_isNameChar (hname c hc)
    exact ⟨hinert, hat⟩
  · rw [cutHost_append (fun _ => not_mem_of_forall hname (by decide))
      (not_mem_of_forall hname (by decide)), htail, List.append_nil]

theorem isWritten_of_ofName {name : List Char} {host : Host}
    (hname : ∀ c ∈ name, isNameChar c = true) (hascii : toAscii? name = some name)
    (h : ofName? name = some host) : host.IsWritten := by
  have hread := h
  rw [ofName?] at h
  split at h
  · cases h
  rename_i hne
  split at h
  · obtain ⟨address, _, rfl⟩ := Option.map_eq_some_iff.mp h
    have hne := address.text_ne_nil
    refine IsWritten.of_isNameChar isNameChar_of_mem_ipv4 hne ?_
    change (toAscii? address.text).bind ofName? = _
    rw [toAscii_ipv4, Option.bind_some, ofName?, if_neg (by simpa using hne),
      if_pos (Ipv4.isNumeric_text address), Ipv4.ofText_text]
    rfl
  · obtain rfl := Option.some.inj h
    have hne : name ≠ [] := by simpa using hne
    refine IsWritten.of_isNameChar hname hne ?_
    change (toAscii? name).bind ofName? = _
    rw [hascii]
    exact hread

theorem isWritten_ipv6 (address : Ipv6) : (ipv6 address).IsWritten := by
  have hinert : ∀ c ∈ address.text, isInert c = true ∧ c ≠ '@' ∧ c ≠ ']' := by
    intro c hc
    rcases Ipv6.mem_text hc with rfl | hhex
    · decide
    · exact isInert_of_hexValue hhex
  refine ⟨?_, by simp [text], fun c hc => ?_, fun tail htail => ?_⟩
  · have hlast : ('[' :: address.text ++ [']']).getLast? = some ']' := List.getLast?_concat
    have hinner : (('[' :: address.text ++ [']']).drop 1).dropLast = address.text := by simp
    change ofSpecialText? ('[' :: address.text ++ [']']) = _
    rw [ofSpecialText?, if_pos (by simp), bracketed?, if_pos hlast, hinner, Ipv6.ofText_text]
    rfl
  · simp only [text, List.mem_append, List.mem_cons, List.not_mem_nil, or_false] at hc
    rcases hc with (rfl | hc) | rfl
    · decide
    · exact ⟨(hinert c hc).1, (hinert c hc).2.1⟩
    · decide
  · have hbracket : ']' ∉ address.text := fun hmem => (hinert ']' hmem).2.2 rfl
    have hinside : Authority.cutHost true (address.text ++ ']' :: tail) =
        (address.text ++ [']'], tail) := by
      rw [cutHost_append (by simp) hbracket, Authority.cutHost]
      simp [htail]
    change Authority.cutHost false ('[' :: (address.text ++ [']']) ++ tail) = _
    rw [List.cons_append, List.append_assoc, List.singleton_append, Authority.cutHost]
    simp [hinside, text]

theorem isWritten_of_ofSpecialText {cs : List Char} {host : Host}
    (h : ofSpecialText? cs = some host) : host.IsWritten := by
  rw [ofSpecialText?] at h
  split at h
  · rw [bracketed?] at h
    split at h
    · obtain ⟨address, _, rfl⟩ := Option.map_eq_some_iff.mp h
      exact isWritten_ipv6 address
    · cases h
  · obtain ⟨name, hname, h⟩ := Option.bind_eq_some_iff.mp h
    obtain ⟨decoded, _, hname⟩ := Option.bind_eq_some_iff.mp hname
    exact isWritten_of_ofName (isNameChar_of_toAscii hname) (toAscii_toAscii hname) h

end Host

namespace Authority
open Percent

def IsEncoded (cs : List Char) : Prop := ∀ c ∈ cs, c.toNat < 128 ∧ userinfoSet c = false

theorem isEncoded_encode (cs : List Char) : IsEncoded (encode userinfoSet cs) :=
  kept_of_mem_encode (by decide) (by decide)

variable {username password : List Char}

theorem IsEncoded.isInert (h : IsEncoded username) {c : Char} (hc : c ∈ username) :
    isInert c = true ∧ c ≠ ':' ∧ c ≠ '@' :=
  Form.forall_ascii
    (p := fun c => userinfoSet c = false → Url.isInert c = true ∧ c ≠ ':' ∧ c ≠ '@')
    (by decide +kernel) (h c hc).1 (h c hc).2

theorem IsEncoded.not_mem (h : IsEncoded username) : ':' ∉ username ∧ '@' ∉ username :=
  ⟨fun hmem => (h.isInert hmem).2.1 rfl, fun hmem => (h.isInert hmem).2.2 rfl⟩

def credentials (username password : List Char) : List Char :=
  username ++ if password.isEmpty then [] else ':' :: password

theorem userinfo_eq (username password : List Char) : userinfo username password =
    if credentials username password = [] then [] else credentials username password ++ ['@'] := by
  cases username <;> cases password <;> simp [userinfo, credentials]

theorem before_credentials (h : IsEncoded username) :
    before ':' (credentials username password) = username := by
  rw [credentials, before_append_of_not_mem h.not_mem.1]
  cases password <;> simp [before]

theorem after_credentials (h : IsEncoded username) :
    (after? ':' (credentials username password)).getD [] = password := by
  rw [credentials, after_append_of_not_mem h.not_mem.1]
  cases password <;> simp [after?]

theorem cutUserinfo_append (username password : List Char) {rest : List Char}
    (hrest : '@' ∉ rest) : cutUserinfo? true (userinfo username password ++ rest) =
      some (credentials username password, rest) := by
  rw [userinfo_eq]
  cases hcredentials : credentials username password with
  | nil =>
    rw [if_pos rfl, List.nil_append, cutUserinfo?, cutLast_of_not_mem hrest]
  | cons c cs =>
    rw [if_neg (List.cons_ne_nil c cs), List.append_assoc, List.singleton_append, cutUserinfo?,
      cutLast_append hrest]

theorem isInert_of_mem_userinfo (husername : IsEncoded username) (hpassword : IsEncoded password)
    {c : Char} (h : c ∈ userinfo username password) : isInert c = true := by
  have hcredentials (hc : c ∈ credentials username password) : isInert c = true := by
    rw [credentials, List.mem_append] at hc
    rcases hc with hc | hc
    · exact (husername.isInert hc).1
    split at hc
    · cases hc
    rcases List.mem_cons.mp hc with rfl | hc
    · decide
    · exact (hpassword.isInert hc).1
  rw [userinfo_eq] at h
  split at h
  · cases h
  rcases List.mem_append.mp h with h | h
  · exact hcredentials h
  · rw [List.mem_singleton.mp h]
    decide

def portText (port : Option Nat) : List Char :=
  (port.map fun port => ':' :: Nat.toDigits 10 port).getD []

def IsPort (scheme : Scheme) (port : Option Nat) : Prop :=
  ∀ n ∈ port, n ≤ 65535 ∧ scheme.defaultPort? ≠ some n

variable {scheme : Scheme} {port : Option Nat}

theorem isPort_of_port {cs left : List Char} (h : port? scheme cs = some (port, left)) :
    IsPort scheme port := by
  intro n hn
  cases cs with
  | nil =>
    obtain ⟨rfl, _⟩ := Prod.mk.inj (Option.some.inj h)
    cases hn
  | cons c cs =>
    simp only [port?] at h
    split at h
    · cases h
    rename_i hbound
    split at h
    · obtain ⟨rfl, _⟩ := Prod.mk.inj (Option.some.inj h)
      cases hn
    · rename_i hdefault
      obtain ⟨rfl, _⟩ := Prod.mk.inj (Option.some.inj h)
      obtain rfl := Option.some.inj hn
      simp only [Bool.or_eq_true, not_or, beq_iff_eq, decide_eq_true_eq] at hbound hdefault
      exact ⟨by omega, hdefault.2⟩

theorem port_portText (h : IsPort scheme port) : port? scheme (portText port) = some (port, []) := by
  cases port with
  | none => rfl
  | some n =>
    obtain ⟨hle, hdefault⟩ := h n rfl
    have hdigits : ∀ c ∈ Nat.toDigits 10 n, c.isDigit = true := fun c hc =>
      Nat.isDigit_of_mem_toDigits (by decide) (by decide) hc
    have htake : (Nat.toDigits 10 n).takeWhile Char.isDigit = Nat.toDigits 10 n :=
      List.takeWhile_eq_self_iff.mpr hdigits
    have hdrop : (Nat.toDigits 10 n).dropWhile Char.isDigit = [] :=
      List.dropWhile_eq_nil_iff.mpr hdigits
    have hne : Nat.toDigits 10 n ≠ [] := Nat.toDigits_ne_nil
    change port? scheme (':' :: Nat.toDigits 10 n) = _
    simp only [port?, htake, hdrop, number_toDigits (by decide : 1 < 10) (by decide : 10 ≤ 16),
      Option.getD_some]
    rw [if_neg (by simpa using hle), if_neg (by simpa [hne] using hdefault)]

theorem cutHost_portText (port : Option Nat) :
    cutHost false (portText port) = ([], portText port) := by
  cases port with
  | none => rfl
  | some n => simp [portText, cutHost]

theorem isInert_of_mem_portText {c : Char} (h : c ∈ portText port) :
    isInert c = true ∧ c ≠ '@' := by
  cases port with
  | none => cases h
  | some n =>
    rcases List.mem_cons.mp h with rfl | h
    · decide
    · have hdigit := Nat.isDigit_of_mem_toDigits (by decide) (by decide) h
      obtain ⟨hinert, hat, _⟩ := Host.isInert_of_isNameChar (Host.isNameChar_of_isDigit hdigit)
      exact ⟨hinert, hat⟩

structure IsWritten (scheme : Scheme) (authority : Authority) : Prop where
  read : ofText? scheme true authority.text = some (authority, [])
  nonempty : authority.text ≠ []
  inert : ∀ c ∈ authority.text, isInert c = true

theorem text_eq (authority : Authority) : authority.text =
    userinfo authority.username authority.password ++
      (((authority.host.map (·.text)).getD []) ++ portText authority.port) :=
  List.append_assoc _ _ _

theorem isWritten_of_parts {host : Host} (hspecial : scheme.isSpecial = true)
    (husername : IsEncoded username) (hpassword : IsEncoded password) (hhost : host.IsWritten)
    (hport : IsPort scheme port) : IsWritten scheme ⟨username, password, some host, port⟩ := by
  have htext : (⟨username, password, some host, port⟩ : Authority).text =
      userinfo username password ++ (host.text ++ portText port) := text_eq _
  have hat : '@' ∉ host.text ++ portText port := by
    intro hmem
    rcases List.mem_append.mp hmem with hmem | hmem
    · exact (hhost.inert '@' hmem).2 rfl
    · exact (isInert_of_mem_portText hmem).2 rfl
  have hcut : cutHost false (host.text ++ portText port) = (host.text, portText port) :=
    hhost.cut _ (cutHost_portText port)
  refine ⟨?_, ?_, fun c hc => ?_⟩
  · rw [htext, ofText?, cutUserinfo_append _ _ hat, Option.bind_some]
    simp only [before_credentials husername, after_credentials husername,
      encode_eq_self husername, encode_eq_self hpassword, hcut]
    rw [host?, if_neg (by simpa using hhost.nonempty), if_pos hspecial, hhost.read]
    simp [port_portText hport]
  · rw [htext]
    simp [hhost.nonempty]
  · rw [htext, List.mem_append, List.mem_append] at hc
    rcases hc with hc | hc | hc
    · exact isInert_of_mem_userinfo husername hpassword hc
    · exact (hhost.inert c hc).1
    · exact (isInert_of_mem_portText hc).1

theorem isWritten_of_ofText {followed : Bool} {cs left : List Char} {authority : Authority}
    (hspecial : scheme.isSpecial = true)
    (h : ofText? scheme followed cs = some (authority, left)) : authority.IsWritten scheme := by
  obtain ⟨⟨info, rest⟩, _, h⟩ := Option.bind_eq_some_iff.mp h
  obtain ⟨found, hfound, h⟩ := Option.bind_eq_some_iff.mp h
  obtain ⟨⟨port, more⟩, hport, h⟩ := Option.map_eq_some_iff.mp h
  obtain ⟨rfl, _⟩ := Prod.mk.inj h
  rw [host?] at hfound
  split at hfound
  · simp [hspecial] at hfound
  · obtain ⟨host, hhost, rfl⟩ := Option.map_eq_some_iff.mp hfound
    exact isWritten_of_parts hspecial (isEncoded_encode _) (isEncoded_encode _)
      (Host.isWritten_of_ofSpecialText hhost) (isPort_of_port hport)

end Authority
end Permalink.Url
