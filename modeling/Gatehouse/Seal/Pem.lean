import Gatehouse.Seal.Base64Url
import Gatehouse.Text.Split

/-!
# Keys and certificates in text

A file of keys and certificates holds sections, each between a line `-----BEGIN name-----` and a
line `-----END name-----`, with base64 in the lines between. What stands outside the sections is
not looked at.
-/

namespace Gatehouse.Pem

structure Section where
  name : String
  bytes : Bytes
deriving DecidableEq, Repr

def value? (c : Char) : Option Nat :=
  if c = '+' then some 62
  else if c = '/' then some 63
  else if c = '-' ∨ c = '_' then none
  else Base64Url.value? c

def decode? (l : List Char) : Option Bytes :=
  ((Text.dropEnd (· == '=') l).mapM value?).bind Base64Url.ofValues?

/-- A line without the blanks and line ends after it. -/
def bare (l : List Char) : List Char :=
  Text.dropEnd (fun c => c == '\n' || c == '\r' || c == ' ') l

def opened? (rest : List Char) : Option (List Char) :=
  let line := bare rest
  let name := Text.dropEnd (· == '-') line
  if line.length = name.length + 5 then some name else none

/-- What has been read: the name and base64 of the section that is open, and the sections before it,
the last first. -/
structure Progress where
  current : Option (List Char × List Char)
  sections : List Section

def Progress.line? (p : Progress) (line : List Char) : Option Progress :=
  match Text.afterChars "-----BEGIN ".toList line with
  | some rest => (opened? rest).map fun name => ⟨some (name, []), p.sections⟩
  | none =>
    match p.current with
    | none => some p
    | some (name, body) =>
      match Text.afterChars ("-----END ".toList ++ name ++ "-----".toList) line with
      | none => some { p with current := some (name, body ++ bare line) }
      | some _ =>
        (decode? body).map fun bytes => ⟨none, ⟨String.ofList name, bytes⟩ :: p.sections⟩

/-- The sections of a file, unless one is malformed or left open. -/
def sections? (bytes : Bytes) : Option (List Section) := do
  let lines := Text.splitChars '\n' (bytes.map fun b => Char.ofNat b.toNat)
  let p ← lines.foldlM Progress.line? ⟨none, []⟩
  if p.current.isSome then none else some p.sections.reverse

def Section.isCertificate (s : Section) : Bool :=
  s.name == "CERTIFICATE"

def Section.isKey (s : Section) : Bool :=
  s.name == "PRIVATE KEY" || s.name == "RSA PRIVATE KEY" || s.name == "EC PRIVATE KEY"

end Gatehouse.Pem
