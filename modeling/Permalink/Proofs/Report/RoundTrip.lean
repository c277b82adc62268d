import Permalink.Proofs.Report.Reader
import Permalink.Report

set_option autoImplicit false

namespace Permalink

def Service.ofName? (name : String) : Option Service :=
  [youtube, odysee, reddit].find? (·.name = name)

def Kind.ofName? (name : String) : Option Kind :=
  [video, channel].find? (·.name = name)

theorem Service.ofName_name (service : Service) : ofName? service.name = some service := by
  cases service <;> rfl

theorem Kind.ofName_name (kind : Kind) : ofName? kind.name = some kind := by
  cases kind <;> rfl

namespace Json

def field? (name : String) : Json → Option Json
  | object fields => fields.lookup name.toList
  | _ => none

def asBool? : Json → Option Bool
  | bool value => some value
  | _ => none

def asString? : Json → Option String
  | string value => some (String.ofList value)
  | _ => none

def asService? (value : Json) : Option Service := value.asString?.bind Service.ofName?

def asKind? (value : Json) : Option Kind := value.asString?.bind Kind.ofName?

def asOption? : Json → Option (Option String)
  | null => some none
  | value => value.asString?.map some

def asStrings? : Json → Option (List String)
  | array items => items.mapM asString?
  | _ => none

def asPairs? : Json → Option (List (String × String))
  | object fields => fields.mapM fun (name, value) => value.asString?.map (String.ofList name, ·)
  | _ => none

@[simp]
theorem asString_ofString (s : String) : (ofString s).asString? = some s := by
  simp [ofString, asString?]

theorem asService_name (service : Service) :
    (ofString service.name).asService? = some service := by
  rw [asService?, asString_ofString, Option.bind_some, Service.ofName_name]

theorem asKind_name (kind : Kind) : (ofString kind.name).asKind? = some kind := by
  rw [asKind?, asString_ofString, Option.bind_some, Kind.ofName_name]

@[simp]
theorem asOption_ofOption (s : Option String) : (ofOption s).asOption? = some s := by
  cases s with
  | none => rfl
  | some s => simp [ofOption, ofString, asOption?, asString?]

@[simp]
theorem asStrings_ofStrings (ss : List String) : (ofStrings ss).asStrings? = some ss :=
  Text.mapM_map_eq_some fun s _ => asString_ofString s

theorem mapM_map_option {α : Type} {write : α → Json} {read? : Json → Option α}
    (h : ∀ a, read? (write a) = some a) (value : Option α) :
    (value.map write).mapM read? = some value := by
  cases value <;> simp [h]

end Json

namespace Report

def derivedOfJson? (value : Json) : Option DerivedUrls := do
  let canonical ← (value.field? "canonical_url").bind (·.asOption?)
  let alternates ← (value.field? "alternate_urls").bind (·.asStrings?)
  let feeds ← (value.field? "feed_urls").bind (·.asStrings?)
  let embed ← (value.field? "embed_url").bind (·.asOption?)
  return ⟨canonical, alternates, feeds, embed⟩

/-- Without one of their fields there are no derived URLs. -/
def ofJson? (value : Json) : Option Report := do
  let input ← (value.field? "input").bind (·.asString?)
  let url ← (value.field? "url").bind (·.asString?)
  let handled ← (value.field? "handled").bind (·.asBool?)
  let service ← (value.field? "service").mapM (·.asService?)
  let kind ← (value.field? "kind").mapM (·.asKind?)
  let identifiers ← ((value.field? "identifiers").getD (.object [])).asPairs?
  let channelUrl ← (value.field? "channel_url").mapM (·.asString?)
  return ⟨input, url, handled, service, kind, identifiers, derivedOfJson? value, channelUrl⟩

def ofText? (text : String) : Option Report := (Json.ofChars? text.toList).bind ofJson?

def identifiersJson (identifiers : List (String × String)) : Json :=
  .object (identifiers.map fun (role, id) => field role (.ofString id))

/-- The fields a report may have, each with its value if the report has it. -/
def entries (report : Report) : List (String × Option Json) :=
  [("input", some (.ofString report.input)), ("url", some (.ofString report.url)),
    ("handled", some (.bool report.handled)),
    ("service", report.service.map fun service => .ofString service.name),
    ("kind", report.kind.map fun kind => .ofString kind.name),
    ("identifiers", if report.identifiers.isEmpty then none
      else some (identifiersJson report.identifiers)),
    ("canonical_url", report.derived.map fun derived => .ofOption derived.canonical),
    ("alternate_urls", report.derived.map fun derived => .ofStrings derived.alternates),
    ("feed_urls", report.derived.map fun derived => .ofStrings derived.feeds),
    ("embed_url", report.derived.map fun derived => .ofOption derived.embed),
    ("channel_url", report.channelUrl.map .ofString)]

def present (entry : String × Option Json) : Option (List Char × Json) :=
  entry.2.map (field entry.1)

theorem fields_eq_present (report : Report) : report.fields = report.entries.filterMap present := by
  rcases report with ⟨input, url, handled, service, kind, identifiers, derived, channelUrl⟩
  cases service <;> cases kind <;> cases identifiers <;> cases derived <;> cases channelUrl <;> rfl

theorem nodup_entries (report : Report) : (report.entries.map (·.1)).Nodup := by
  simp [entries]

theorem fst_of_present {entry : String × Option Json} {named : List Char × Json}
    (h : present entry = some named) : named.1 = entry.1.toList := by
  obtain ⟨value, -, rfl⟩ := Option.map_eq_some_iff.mp h
  rfl

theorem nodup_fields (report : Report) : (report.fields.map (·.1)).Nodup := by
  have hentries := report.nodup_entries
  rw [List.Nodup, List.pairwise_map] at hentries
  rw [fields_eq_present, List.Nodup, List.pairwise_map, List.pairwise_filterMap]
  refine hentries.imp fun hne a ha b hb => ?_
  rw [fst_of_present ha, fst_of_present hb]
  exact fun heq => hne (String.toList_injective heq)

theorem lookup_cons_present (name : String) (entry : String × Option Json)
    (entries : List (String × Option Json)) :
    ((entry :: entries).filterMap present).lookup name.toList =
      if name = entry.1 then entry.2.or ((entries.filterMap present).lookup name.toList)
      else (entries.filterMap present).lookup name.toList := by
  rcases entry with ⟨key, _ | value⟩
  · rw [List.filterMap_cons_none rfl]
    simp
  · have hpresent : present (key, some value) = some (field key value) := rfl
    rw [List.filterMap_cons_some hpresent, field, List.lookup_cons]
    by_cases h : name = key
    · simp [h]
    · have hkey : (name.toList == key.toList) = false := by simpa [String.toList_inj] using h
      rw [hkey, if_neg h]

theorem lookup_present_eq_none {name : String} {entries : List (String × Option Json)}
    (h : name ∉ entries.map (·.1)) : (entries.filterMap present).lookup name.toList = none := by
  induction entries with
  | nil => rfl
  | cons entry entries ih =>
    rw [List.map_cons, List.mem_cons, not_or] at h
    rw [lookup_cons_present, if_neg h.1, ih h.2]

theorem lookup_present {name : String} {value : Option Json} {entries : List (String × Option Json)}
    (hnodup : (entries.map (·.1)).Nodup) (h : (name, value) ∈ entries) :
    (entries.filterMap present).lookup name.toList = value := by
  induction entries with
  | nil => cases h
  | cons entry entries ih =>
    rw [List.map_cons, List.nodup_cons] at hnodup
    rw [lookup_cons_present]
    rcases List.mem_cons.mp h with rfl | h
    · rw [if_pos rfl, lookup_present_eq_none hnodup.1, Option.or_none]
    · have hname : name ≠ entry.1 := by
        rintro rfl
        exact hnodup.1 (List.mem_map.mpr ⟨_, h, rfl⟩)
      rw [if_neg hname, ih hnodup.2 h]

theorem field_object (report : Report) : ∀ entry ∈ report.entries,
    (Json.object report.fields).field? entry.1 = entry.2 := by
  intro entry hentry
  rw [Json.field?, fields_eq_present]
  exact lookup_present report.nodup_entries hentry

@[simp]
theorem asPairs_identifiersJson (identifiers : List (String × String)) :
    (identifiersJson identifiers).asPairs? = some identifiers :=
  Text.mapM_map_eq_some fun pair _ => by simp [field]

theorem ofJson_object (report : Report) : ofJson? (.object report.fields) = some report := by
  have hfields := field_object report
  simp only [entries, List.forall_mem_cons] at hfields
  obtain ⟨hinput, hurl, hhandled, hservice, hkind, hidentifiers, hcanonical, halternates, hfeeds,
    hembed, hchannel, -⟩ := hfields
  have hpairs : (((Json.object report.fields).field? "identifiers").getD (.object [])).asPairs? =
      some report.identifiers := by
    rw [hidentifiers]
    cases report.identifiers with
    | nil => rfl
    | cons pair pairs => exact asPairs_identifiersJson (pair :: pairs)
  have hderived : derivedOfJson? (.object report.fields) = report.derived := by
    rw [derivedOfJson?, hcanonical, halternates, hfeeds, hembed]
    cases report.derived <;> simp
  simp [ofJson?, hinput, hurl, hhandled, hservice, hkind, hpairs, hchannel, hderived, Json.asBool?,
    Json.mapM_map_option Json.asService_name, Json.mapM_map_option Json.asKind_name,
    Json.mapM_map_option Json.asString_ofString]

theorem ofText_json (report : Report) : ofText? report.json = some report := by
  rw [ofText?, json, Json.text, String.toList_ofList, (Json.spells_chars _).ofChars,
    Option.bind_some, ofJson_object]

end Report
end Permalink
