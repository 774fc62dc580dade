import Gatehouse.Url.Host
import Gatehouse.Url.Path

/-!
# URLs

A URL is read the way browsers read one: blanks and control characters around it and tabs and line
ends inside it are dropped, the scheme is put in small letters, and for `http` and its like any
number of slashes of either kind may follow it. What may not stand in a part is percent-encoded.
-/

namespace Gatehouse

/-- The path of a URL: segments below its host, or text of its own. -/
inductive Url.Path where
  | segments (l : List String)
  | rootless (s : String)
deriving DecidableEq, Repr

/-- A URL. User name, password, path, query and fragment are percent-encoded. -/
structure Url where
  scheme : String
  username : String
  password : String
  host : Option Host
  portNumber : Option Nat
  path : Url.Path
  query : Option String
  fragment : Option String
deriving DecidableEq, Repr

namespace Url

inductive SchemeKind where
  | special (defaultPort : Nat)
  | file
  | other
deriving DecidableEq, Repr

def schemeKind : String → SchemeKind
  | "http" => .special 80
  | "https" => .special 443
  | "ws" => .special 80
  | "wss" => .special 443
  | "ftp" => .special 21
  | "file" => .file
  | _ => .other

/-- Whether backslashes count as slashes. -/
def SchemeKind.isSpecial : SchemeKind → Bool
  | other => false
  | _ => true

def joinedLines (l : List Char) : List Char :=
  l.filter fun c => c ≠ '\t' && c ≠ '\n' && c ≠ '\r'

/-- A text without blanks and control characters around it and without line ends. -/
def cleaned (l : List Char) : List Char :=
  let low (c : Char) : Bool := c.toNat ≤ 0x20
  joinedLines (Text.dropEnd low (l.dropWhile low))

/-- Whether a character may stand in a scheme after its first letter. -/
def isSchemeChar (c : Char) : Bool :=
  c.isAlphanum || c == '+' || c == '-' || c == '.'

/-- The scheme in small letters and what follows its colon. -/
def scheme? (l : List Char) : Option (String × List Char) :=
  let name := l.takeWhile isSchemeChar
  match name, l.drop name.length with
  | c :: _, ':' :: rest =>
    if c.isAlpha then some (Text.lower (String.ofList name), rest) else none
  | _, _ => none

/-- Whether a character ends the part of a URL that names the host. -/
def endsAuthority (special : Bool) (c : Char) : Bool :=
  c == '/' || c == '?' || c == '#' || (special && c == '\\')

/-- What stands before and after the last `@`. -/
def userInfo? (l : List Char) : Option (List Char × List Char) :=
  (Text.cutChars '@' l.reverse).map fun (after, before) => (before.reverse, after.reverse)

/-- User name and password, encoded. -/
def credentials (l : List Char) : String × String :=
  let encoded (l : List Char) := String.ofList (Percent.encode Percent.inUserInfo l)
  match Text.cutChars ':' l with
  | some (name, password) => (encoded name, encoded password)
  | none => (encoded l, "")

/-- The host at the start of a list, up to a colon outside brackets. -/
def hostChars (inside : Bool) : List Char → List Char
  | [] => []
  | ':' :: rest => if inside then ':' :: hostChars inside rest else []
  | '[' :: rest => '[' :: hostChars true rest
  | ']' :: rest => ']' :: hostChars false rest
  | c :: rest => c :: hostChars inside rest

/-- The number after a colon, none if it is left out or the default. -/
def portNumber? (kind : SchemeKind) : List Char → Except UrlError (Option Nat)
  | [] => .ok none
  | l =>
    match Text.decimal? (l.takeWhile Char.isDigit) with
    | none => .error .badPortNumber
    | some n =>
      if 65535 < n ∨ (l.takeWhile Char.isDigit).length ≠ l.length then .error .badPortNumber
      else if kind = .special n then .ok none
      else .ok (some n)

/-- The path, query and fragment at the end of a URL. -/
structure Tail where
  path : List Char
  query : Option (List Char)
  fragment : Option (List Char)

/-- Cuts the end of a URL at its first `#` and at the first `?` before that. -/
def tail (l : List Char) : Tail :=
  let (l, fragment) := match Text.cutChars '#' l with
    | some (a, b) => (a, some b)
    | none => (l, none)
  match Text.cutChars '?' l with
  | some (a, b) => ⟨a, some b, fragment⟩
  | none => ⟨l, none, fragment⟩

def encodeQuery (special : Bool) (l : List Char) : String :=
  String.ofList (Percent.encode (if special then Percent.inSpecialQuery else Percent.inQuery) l)

def build (scheme : String) (user : String × String) (host : Option Host) (portNumber : Option Nat)
    (l : List Char) (path : List Char → Path) : Url :=
  let t := tail l
  { scheme
    username := user.1
    password := user.2
    host
    portNumber
    path := path t.path
    query := t.query.map (encodeQuery (schemeKind scheme).isSpecial)
    fragment := t.fragment.map fun f => String.ofList (Percent.encode Percent.inFragment f) }

def host? [CharTables] (kind : SchemeKind) (l : List Char) : Except UrlError (Option Host) :=
  match kind with
  | .other => Host.ofOther? l
  | _ => if l = [] then .error .emptyHost else (Host.ofSpecial? l).map some

def hierarchical (kind : SchemeKind) (l : List Char) : Path :=
  if l = [] ∧ kind = .other then .segments [] else .segments (segments kind.isSpecial l)

def withAuthority? [CharTables] (scheme : String) (l : List Char) : Except UrlError Url := do
  let kind := schemeKind scheme
  let authority := l.takeWhile fun c => !endsAuthority kind.isSpecial c
  let rest := l.drop authority.length
  let (info, place) := match userInfo? authority with
    | some (info, place) => (some info, place)
    | none => (none, authority)
  if info = some [] ∧ place = [] ∧ rest ≠ [] then throw .emptyHost
  let user := credentials (info.getD [])
  let hostText := hostChars false place
  let host ← host? kind hostText
  let after := place.drop hostText.length
  if host = none ∧ (after ≠ [] ∨ user ≠ ("", "")) then throw .emptyHost
  let number ← portNumber? kind (after.drop 1)
  return build scheme user host number rest (hierarchical kind)

/-- A URL of a file: a host only after two slashes, and none that is a drive or this machine. -/
def ofFile? [CharTables] (l : List Char) : Except UrlError Url := do
  match slashed (l.take 2), l with
  | ['/', '/'], _ :: _ :: rest =>
    let name := rest.takeWhile fun c => !endsAuthority true c
    if name = [] ∨ isDriveLetter name then
      return build "file" ("", "") none none rest fun p => .segments (segments true p)
    else
      let host ← Host.ofSpecial? name
      let host := if host = .domain "localhost" then none else some host
      return build "file" ("", "") host none (rest.drop name.length)
        fun p => .segments (segments true p)
  | _, _ => return build "file" ("", "") none none l fun p => .segments (segments true p)

def ofText? [CharTables] (s : String) : Except UrlError Url :=
  match scheme? (cleaned s.toList) with
  | none => .error .relative
  | some (scheme, rest) =>
    match schemeKind scheme with
    | .special _ => withAuthority? scheme (rest.dropWhile fun c => c == '/' || c == '\\')
    | .file => ofFile? rest
    | .other =>
      match rest with
      | '/' :: '/' :: rest => withAuthority? scheme rest
      | '/' :: _ =>
        .ok (build scheme ("", "") none none rest fun p => .segments (segments false p))
      | _ =>
        .ok (build scheme ("", "") none none rest fun p =>
          .rootless (String.ofList (Percent.encode Percent.isControl p)))

def Path.text : Path → String
  | segments l => pathText l
  | rootless s => s

def userText (u : Url) : String :=
  if u.username = "" ∧ u.password = "" then ""
  else u.username ++ (if u.password = "" then "" else ":" ++ u.password) ++ "@"

def text (u : Url) : String :=
  u.scheme ++ ":" ++
    (match u.host with
      | some h =>
        "//" ++ u.userText ++ h.text ++
          (match u.portNumber with
            | some n => ":" ++ toString n
            | none => "")
      | none => "") ++
    u.path.text ++
    (match u.query with
      | some q => "?" ++ q
      | none => "") ++
    (match u.fragment with
      | some f => "#" ++ f
      | none => "")

/-- A URL with another path, in which `?` and `#` stand for themselves. -/
def withPath (u : Url) (path : String) : Url :=
  { u with
    path := .segments (segments (schemeKind u.scheme).isSpecial (joinedLines path.toList)) }

/-- A URL with another query, in which `#` stands for itself, or with none. -/
def withQuery (u : Url) (query : Option String) : Url :=
  { u with
    query := query.map fun q =>
      encodeQuery (schemeKind u.scheme).isSpecial (joinedLines q.toList) }

/-- An `http` URL with another host; what follows a colon in the name is left out. -/
def withHost? [CharTables] (u : Url) (name : String) : Except UrlError Url :=
  let l := name.toList
  if l = [] then .error .emptyHost
  else
    let isBracketed := l.head? = some '[' ∧ l.getLast? = some ']'
    let stem := if isBracketed then l else l.takeWhile (· ≠ ':')
    if stem = [] then .error .badHostCharacter
    else (Host.ofSpecial? stem).map fun h => { u with host := some h }

end Url

end Gatehouse
