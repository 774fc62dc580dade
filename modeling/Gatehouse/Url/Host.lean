import Gatehouse.Net.Address
import Gatehouse.Text.Tables
import Gatehouse.Url.Percent

/-!
# Hosts

The host of an `http` URL and its like is a domain or an address. A domain is decoded and put in
small letters of ASCII, by tables where it is not in ASCII already; a domain whose last label is a
number is an address in one of the many spellings of one. Other URLs keep their host as it is
written.
-/

namespace Gatehouse

inductive UrlError where
  | emptyHost
  | badDomain
  | badPortNumber
  | badV4
  | badV6
  | badHostCharacter
  | relative
deriving DecidableEq, Repr

def UrlError.message : UrlError → String
  | emptyHost => "empty host"
  | badDomain => "invalid international domain name"
  | badPortNumber => "invalid port number"
  | badV4 => "invalid IPv4 address"
  | badV6 => "invalid IPv6 address"
  | badHostCharacter => "invalid domain character"
  | relative => "relative URL without a base"

/-- A host. The name of a domain is never empty. -/
inductive Host where
  | domain (name : String)
  | address (a : Address)
deriving DecidableEq, Repr

namespace Host

def text : Host → String
  | domain name => name
  | address (.v4 n) => Address.quadText n
  | address (.v6 n) => "[" ++ Address.groupsText n ++ "]"

/-! ### Addresses in URLs -/

/-- A part of an address of 32 bits: decimal, octal after `0`, hexadecimal after `0x`. -/
def part? (l : List Char) : Option Nat :=
  match l with
  | [] => none
  | '0' :: 'x' :: rest => if rest = [] then some 0 else Text.number? 16 Text.hexDigit? rest
  | '0' :: 'X' :: rest => if rest = [] then some 0 else Text.number? 16 Text.hexDigit? rest
  | '0' :: c :: rest =>
    if (c :: rest).all fun d => '0' ≤ d && d ≤ '7' then Text.number? 8 Text.digit? (c :: rest)
    else none
  | l => Text.decimal? l

/-- The labels of a domain, without the empty one after a final dot. -/
def addressParts (l : List Char) : List (List Char) :=
  let parts := Text.splitChars '.' l
  if parts.getLast? = some [] then parts.dropLast else parts

/-- Whether the last label makes a domain an address. -/
def endsInNumber (l : List Char) : Bool :=
  match (addressParts l).getLast? with
  | none => false
  | some last => (last ≠ [] && last.all Char.isDigit) || (part? last).isSome

/-- The address that parts from the highest to the lowest stand for: one byte each, the last one as
many as are left. -/
def ofParts? (parts : List Nat) : Option Nat :=
  match parts.reverse with
  | [] => none
  | last :: above =>
    let rest := Nat.pow 256 (4 - above.length)
    if 3 < above.length ∨ rest ≤ last ∨ above.any (255 < ·) then none
    else some (above.reverse.foldl (fun acc n => acc * 256 + n) 0 * rest + last)

def v4? (l : List Char) : Except UrlError Host :=
  match (addressParts l).mapM part? with
  | none => .error .badV4
  | some parts =>
    match ofParts? parts with
    | none => .error .badV4
    | some n => .ok (.address (.v4 n))

def v6? (l : List Char) : Except UrlError Host :=
  match Address.groups? true l with
  | some (n, []) => .ok (.address (.v6 n))
  | _ => .error .badV6

/-! ### Domains -/

def isForbidden (c : Char) : Bool :=
  c.toNat ≤ 0x20 || c.toNat == 0x7F || "%#/:<>?@[\\]^|".toList.contains c

/-- Whether a domain can be put in ASCII without tables: it is in ASCII, and none of its labels is in
the form that stands for one that is not. -/
def isPlainName (l : List Char) : Bool :=
  l.all (·.toNat < 0x80) && (Text.splitChars '.' (l.map Char.toLower)).all fun label =>
    (Text.afterChars ['x', 'n', '-', '-'] label).isNone

/-- A domain in ASCII with small letters, if nothing forbidden is in it then. -/
def domain? [CharTables] (l : List Char) : Option (List Char) :=
  (if isPlainName l then some (l.map Char.toLower) else CharTables.domain? l).filter fun name =>
    !name.any isForbidden

/-- The text between brackets, if the list is all of it. -/
def bracketed? (l : List Char) : Except UrlError (List Char) :=
  match l.reverse with
  | ']' :: rest => .ok (rest.reverse.drop 1)
  | _ => .error .badV6

/-- The host of an `http` URL and its like. -/
def ofSpecial? [CharTables] (l : List Char) : Except UrlError Host :=
  if l.head? = some '[' then
    match bracketed? l with
    | .ok inside => v6? inside
    | .error e => .error e
  else
    match (Utf8.decode? (Percent.decode (Utf8.encodeChars l))).bind fun s => domain? s.toList with
    | none => .error .badDomain
    | some name =>
      if name = [] then .error .emptyHost
      else if endsInNumber name then v4? name
      else .ok (.domain (String.ofList name))

def isHostForbidden (c : Char) : Bool :=
  c == '\x00' || "\t\n\r #/:<>?@[\\]^|".toList.contains c

/-- The host of any other URL, none if it is empty. -/
def ofOther? (l : List Char) : Except UrlError (Option Host) :=
  if l.head? = some '[' then
    match bracketed? l with
    | .ok inside => (v6? inside).map some
    | .error e => .error e
  else if l.any isHostForbidden then .error .badHostCharacter
  else if l = [] then .ok none
  else .ok (some (.domain (String.ofList (Percent.encode Percent.isControl l))))

end Host

end Gatehouse
