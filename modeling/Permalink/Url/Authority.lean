import Permalink.Text.Basic
import Permalink.Url.Host

set_option autoImplicit false

namespace Permalink.Url

inductive Scheme where
  | http | https | ws | wss | ftp | file
  | other (name : List Char)
deriving DecidableEq, Repr

namespace Scheme

def name : Scheme → List Char
  | http => ['h', 't', 't', 'p']
  | https => ['h', 't', 't', 'p', 's']
  | ws => ['w', 's']
  | wss => ['w', 's', 's']
  | ftp => ['f', 't', 'p']
  | file => ['f', 'i', 'l', 'e']
  | other name => name

def ofName (name : List Char) : Scheme :=
  ([http, https, ws, wss, ftp, file].find? (·.name == name)).getD (other name)

def isSpecial : Scheme → Bool
  | other _ => false
  | _ => true

def defaultPort? : Scheme → Option Nat
  | http | ws => some 80
  | https | wss => some 443
  | ftp => some 21
  | file | other _ => none

def isNameChar (c : Char) : Bool :=
  c.isAlphanum || c == '+' || c == '-' || c == '.'

def read? (cs : List Char) : Option (Scheme × List Char) :=
  match cs.takeWhile isNameChar, cs.dropWhile isNameChar with
  | first :: name, ':' :: rest =>
    if first.isAlpha then some (ofName ((first :: name).map Char.toLower), rest) else none
  | _, _ => none

end Scheme

open Text

structure Authority where
  username : List Char
  password : List Char
  host : Option Host
  port : Option Nat
deriving DecidableEq, Repr

namespace Authority

def userinfo (username password : List Char) : List Char :=
  username ++ (if password.isEmpty then [] else ':' :: password) ++
    (if username.isEmpty && password.isEmpty then [] else ['@'])

def text (authority : Authority) : List Char :=
  userinfo authority.username authority.password ++
    ((authority.host.map (·.text)).getD []) ++
    ((authority.port.map fun port => ':' :: Nat.toDigits 10 port).getD [])

/-- Splits off the credentials, up to the last `@`. An `@` with nothing on either side is allowed
only at the end of the whole URL. -/
def cutUserinfo? (followed : Bool) (cs : List Char) : Option (List Char × List Char) :=
  match cutLast? '@' cs with
  | none => some ([], cs)
  | some ([], []) => if followed then none else some ([], [])
  | some cut => some cut

/-- The host, up to the first colon outside brackets, and what follows it. -/
def cutHost : Bool → List Char → List Char × List Char
  | _, [] => ([], [])
  | inside, c :: rest =>
    if c = ':' ∧ inside = false then ([], c :: rest)
    else
      let cut := cutHost (c == '[' || (inside && c != ']')) rest
      (c :: cut.1, cut.2)

/-- Reads what follows the host: a colon and digits, and what is left after them. A port that the
scheme has anyway is dropped. -/
def port? (scheme : Scheme) : List Char → Option (Option Nat × List Char)
  | [] => some (none, [])
  | _ :: cs =>
    let digits := cs.takeWhile Char.isDigit
    let rest := cs.dropWhile Char.isDigit
    let port := (number? 10 digits).getD 0
    if 65535 < port || !rest.head?.all (· == '\\') then none
    else if digits.isEmpty || scheme.defaultPort? == some port then some (none, rest)
    else some (some port, rest)

/-- Reads the host of an authority; only a URL that is not special may lack one, and then it has no
credentials and no port. -/
def host? (scheme : Scheme) (bare : Bool) (host : List Char) : Option (Option Host) :=
  if host.isEmpty then if bare && !scheme.isSpecial then some none else none
  else (if scheme.isSpecial then Host.ofSpecialText? host else Host.ofOtherText? host).map some

/-- Reads an authority, and gives what is left of the text after its port. `followed` tells that the
URL goes on after the text. -/
def ofText? (scheme : Scheme) (followed : Bool) (cs : List Char) :
    Option (Authority × List Char) :=
  (cutUserinfo? followed cs).bind fun (info, rest) =>
    let username := Percent.encode Percent.userinfoSet (before ':' info)
    let password := Percent.encode Percent.userinfoSet ((after? ':' info).getD [])
    let (host, tail) := cutHost false rest
    let bare := username.isEmpty && password.isEmpty && tail.isEmpty
    (host? scheme bare host).bind fun host =>
      (port? scheme tail).map fun (port, left) => (⟨username, password, host, port⟩, left)

end Authority
end Permalink.Url
