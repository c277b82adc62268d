import Permalink.Report
import Permalink.Settings

set_option autoImplicit false

namespace Permalink.Command
open Text

structure Options where
  links : List String
  format : Option Format
  noSanitize : Bool
  stripTracking : Bool
deriving DecidableEq, Repr

inductive Request where
  | report (options : Options)
  | version
  | help
deriving DecidableEq, Repr

namespace Options

def initial : Options := ⟨[], none, false, false⟩

def addLink (options : Options) (link : List Char) : Options :=
  { options with links := options.links ++ [String.ofList link] }

/-- An option may be given once. -/
def setFormat? (options : Options) (value : List Char) : Option Options :=
  if options.format.isSome then none
  else ([Format.text, Format.json].find? (·.name.toList == value)).map fun format =>
    { options with format := some format }

def setNoSanitize? (options : Options) : Option Options :=
  if options.noSanitize then none else some { options with noSanitize := true }

def setStripTracking? (options : Options) : Option Options :=
  if options.stripTracking then none else some { options with stripTracking := true }

/-- The settings under these options: what the command line says overrides the environment. -/
def override (options : Options) (settings : Settings) : Settings where
  format := options.format.getD settings.format
  sanitize := settings.sanitize && !options.noSanitize
  stripTracking := settings.stripTracking || options.stripTracking

end Options

inductive Argument where
  | link (text : List Char)
  | format
  | formatValue (value : List Char)
  | noSanitize
  | stripTracking
  | version
  | help
  /-- The mark `--`, after which every argument is a link. -/
  | endOfOptions
deriving DecidableEq, Repr

namespace Argument

def ofLong? (cs : List Char) : Option Argument :=
  if cs = "--".toList then some endOfOptions
  else if cs = "--format".toList then some format
  else if cs = "--no-sanitize".toList then some noSanitize
  else if cs = "--strip-tracking".toList then some stripTracking
  else if cs = "--version".toList then some version
  else if cs = "--help".toList then some help
  else if "--format=".toList.isPrefixOf cs then some (formatValue (cs.drop 9))
  else none

/-- A hyphen alone is a link. Of several short options in one argument the first one decides. -/
def ofBytes? : List UInt8 → Option Argument
  | [0x2D] => some (link ['-'])
  | 0x2D :: 0x2D :: rest => (Utf8.decode? (0x2D :: 0x2D :: rest)).bind ofLong?
  | 0x2D :: 0x56 :: _ => some version
  | 0x2D :: 0x68 :: _ => some help
  | 0x2D :: _ => none
  | bytes => (Utf8.decode? bytes).map link

end Argument

def readLinks? (options : Options) : List (List UInt8) → Option Request
  | [] => some (.report options)
  | bytes :: rest => (Utf8.decode? bytes).bind fun link => readLinks? (options.addLink link) rest

/-- Reads the arguments; `awaiting` tells that the next one is the value of `--format`. -/
def readFrom? : Bool → Options → List (List UInt8) → Option Request
  | true, _, [] => none
  | true, options, bytes :: rest =>
    ((Utf8.decode? bytes).bind options.setFormat?).bind fun options =>
      readFrom? false options rest
  | false, options, [] => some (.report options)
  | false, options, bytes :: rest =>
    (Argument.ofBytes? bytes).bind fun argument =>
      match argument with
      | .link text => readFrom? false (options.addLink text) rest
      | .format => readFrom? true options rest
      | .formatValue value =>
        (options.setFormat? value).bind fun options => readFrom? false options rest
      | .noSanitize => options.setNoSanitize?.bind fun options => readFrom? false options rest
      | .stripTracking => options.setStripTracking?.bind fun options => readFrom? false options rest
      | .version => some .version
      | .help => some .help
      | .endOfOptions => readLinks? options rest

def readArguments? (arguments : List (List UInt8)) : Option Request :=
  readFrom? false .initial arguments

inductive Failure where
  | settings (error : SettingsError)
  | notUtf8
deriving DecidableEq, Repr

def Failure.message : Failure → String
  | settings error => "Failed to load configuration: " ++ error.message
  | notUtf8 => "Failed to read links from stdin: stream did not contain valid UTF-8"

structure Outcome where
  code : Nat
  stdout : String
  failure : Option Failure
deriving DecidableEq, Repr

def dropReturn (line : List UInt8) : List UInt8 :=
  if line.getLast? = some 0x0D then line.dropLast else line

/-- The lines of a text; the last one may lack its line feed. -/
def lines (bytes : List UInt8) : List (List UInt8) :=
  let pieces := bytes.splitOn 0x0A
  pieces.dropLast.map dropReturn ++ (pieces.getLast?.filter (!·.isEmpty)).toList

/-- The links of the standard input; a line that is not UTF-8 refuses all of it. -/
def linksOfInput? (stdin : List UInt8) : Option (List String) :=
  ((lines stdin).mapM Utf8.decode?).map fun lines =>
    (lines.filter fun line => !line.all isBlank).map String.ofList

def versionText : String := "linkview 0.1.0\n"

def helpText : String := "Classify links and print their canonical, feed and embed URLs

Usage: linkview [OPTIONS] [URLS]...

Arguments:
  [URLS]...  Links to classify. Read from stdin, one per line, when none are given

Options:
      --format <FORMAT>  Output format (overrides LINKVIEW_FORMAT) [possible values: text, json]
      --no-sanitize      Classify links exactly as given, without unwrapping redirects
      --strip-tracking   Drop tracking query parameters before classifying
  -h, --help             Print help
  -V, --version          Print version
"

def printReports (settings : Settings) (links : List String) : String :=
  String.join (links.map fun link =>
    (Report.ofInput settings link).render settings.format ++ "\n")

/-- A settings error comes before an error in the input. -/
def reportAll (options : Options) (environment : Environment) (stdin : List UInt8) : Outcome :=
  match Settings.ofEnvironment environment with
  | .error error => ⟨1, "", some (.settings error)⟩
  | .ok settings =>
    match if options.links.isEmpty then linksOfInput? stdin else some options.links with
    | none => ⟨1, "", some .notUtf8⟩
    | some links => ⟨0, printReports (options.override settings) links, none⟩

def run (arguments : List (List UInt8)) (environment : Environment) (stdin : List UInt8) :
    Outcome :=
  match readArguments? arguments with
  | none => ⟨2, "", none⟩
  | some .version => ⟨0, versionText, none⟩
  | some .help => ⟨0, helpText, none⟩
  | some (.report options) => reportAll options environment stdin

end Permalink.Command
