import Permalink.Text.Utf8
import Permalink.Unicode.Lowercase

set_option autoImplicit false

namespace Permalink

inductive Format where
  | text | json
deriving DecidableEq, Repr

def Format.name : Format → String
  | text => "text"
  | json => "json"

structure Settings where
  format : Format
  sanitize : Bool
  stripTracking : Bool
deriving DecidableEq, Repr

structure Environment where
  format : Option (List UInt8)
  sanitize : Option (List UInt8)
  stripTracking : Option (List UInt8)
deriving DecidableEq, Repr

inductive SettingsError where
  | unknownFormat (value : String)
  | notBoolean (name : String) (value : String)
deriving DecidableEq, Repr

namespace SettingsError

def message : SettingsError → String
  | unknownFormat value =>
    "invalid value for LINKVIEW_FORMAT: must be 'text' or 'json', got '" ++ value ++ "'"
  | notBoolean name value =>
    "failed to parse " ++ name ++ " as boolean: " ++ value

end SettingsError

def Format.ofText (value : String) : Except SettingsError Format :=
  match Unicode.lowercase value with
  | "text" => .ok .text
  | "json" => .ok .json
  | _ => .error (.unknownFormat value)

namespace Settings

def initial : Settings := ⟨.text, true, false⟩

def formatVariable : String := "LINKVIEW_FORMAT"

def sanitizeVariable : String := "LINKVIEW_SANITIZE"

def stripTrackingVariable : String := "LINKVIEW_STRIP_TRACKING"

def truths : List String := ["true", "1", "yes", "on"]

def falsehoods : List String := ["false", "0", "no", "off"]

def boolOfText (name : String) (value : String) : Except SettingsError Bool :=
  if truths.contains (Unicode.lowercase value) then .ok true
  else if falsehoods.contains (Unicode.lowercase value) then .ok false
  else .error (.notBoolean name value)

def value? (bytes : Option (List UInt8)) : Option String :=
  (bytes.bind Text.Utf8.decode?).bind fun cs =>
    if cs.isEmpty then none else some (String.ofList cs)

def readOr {α : Type} (read : String → Except SettingsError α) (initial : α)
    (bytes : Option (List UInt8)) : Except SettingsError α :=
  match value? bytes with
  | none => .ok initial
  | some value => read value

/-- The first variable that cannot be used, in this order, is the one reported. -/
def ofEnvironment (environment : Environment) : Except SettingsError Settings := do
  let format ← readOr Format.ofText initial.format environment.format
  let sanitize ← readOr (boolOfText sanitizeVariable) initial.sanitize environment.sanitize
  let stripTracking ←
    readOr (boolOfText stripTrackingVariable) initial.stripTracking environment.stripTracking
  return { format, sanitize, stripTracking }

end Settings
end Permalink
