import Gatehouse.Http.Header
import Gatehouse.Text.Split
import Gatehouse.Url.Basic

/-!
# Cross-origin requests

A browser names the site a request comes from. The relay answers such a request if the site is its
own, is configured, or if any site may ask; a request from another site is refused without the
fields that would let the browser show the answer. Sites are compared by one text that is rebuilt from
scheme, host and port, never by the text that names them. How these are found in a text is left to a
reader of URLs.
-/

namespace Gatehouse

/-- Where a URL leads: its scheme, the text of its host if it has one, and its port unless that is left
out or the default of the scheme. -/
structure Location where
  scheme : String
  host : Option String
  portNumber : Option Nat
deriving DecidableEq, Repr

abbrev UrlReader := String → Option Location

def Url.location (u : Url) : Location :=
  ⟨u.scheme, u.host.map Host.text, u.portNumber⟩

def Url.reader [CharTables] : UrlReader := fun s =>
  match Url.ofText? s with
  | .ok u => some u.location
  | .error _ => none

/-- Scheme, host and, unless it is the default of the scheme, port of a site. -/
structure Origin where
  scheme : String
  host : String
  portNumber : Option Nat
deriving DecidableEq, Repr

namespace Origin

def ofLocation? (l : Location) : Option Origin :=
  l.host.map fun host => ⟨l.scheme, Text.lower host, l.portNumber⟩

def ofText? (read : UrlReader) (s : String) : Option Origin :=
  (read (Text.trim s)).bind ofLocation?

/-- The text by which sites are compared. -/
def text (o : Origin) : String :=
  match o.portNumber with
  | some n => o.scheme ++ "://" ++ o.host ++ ":" ++ toString n
  | none => o.scheme ++ "://" ++ o.host

def canonical? (read : UrlReader) (s : String) : Option String :=
  (ofText? read s).map text

end Origin

/-- The sites that may ask, each by its text, and the reader that finds them. -/
structure OriginPolicy where
  read : UrlReader
  allowAll : Bool
  origins : List String

/-- What a policy says to a request: it names no site, its site may ask, or it may not. -/
inductive OriginDecision where
  | notApplicable
  | allowed (origin : String)
  | denied
deriving DecidableEq, Repr

namespace OriginPolicy

/-- The policy of configured entries under a reader; `*` stands for every site, and what names no
site is skipped. -/
def of (read : UrlReader) (entries : List String) : OriginPolicy where
  read
  allowAll := entries.any fun e => Text.trim e == "*"
  origins := (entries.filter fun e => Text.trim e != "*").filterMap (Origin.canonical? read)

def ofEntries [CharTables] (entries : List String) : OriginPolicy :=
  .of Url.reader entries

/-- The text of the relay's own site as the client sees it. -/
def own? (p : OriginPolicy) (host : Option String) (scheme : String) : Option String :=
  (host.bind Text.nonBlank?).bind fun h => Origin.canonical? p.read (scheme ++ "://" ++ h)

/-- Decides on a request from a site, made to a host under a scheme. -/
def decide (p : OriginPolicy) (origin host : Option String) (scheme : String) : OriginDecision :=
  match origin.bind Text.nonBlank? with
  | none => .notApplicable
  | some text =>
    match Origin.canonical? p.read text with
    | none => .denied
    | some site =>
      if p.own? host scheme = some site ∨ p.allowAll ∨ site ∈ p.origins then .allowed text
      else .denied

end OriginPolicy

namespace OriginDecision

def fields : List (String × String) :=
  [("access-control-allow-methods", "GET, POST, OPTIONS"),
   ("access-control-allow-headers",
    "Authorization, Content-Type, X-Device-ID, X-Request-ID, Idempotency-Key"),
   ("access-control-expose-headers", "X-Request-ID, Idempotency-Key, X-Idempotency-Replayed"),
   ("access-control-max-age", "600")]

def apply (d : OriginDecision) (h : Headers) : Headers :=
  match d with
  | .allowed origin =>
    match Header.value? origin with
    | none => h
    | some value =>
      fields.foldl (fun h (name, text) => h.set name (Utf8.encode text))
        ((h.add "vary" (Utf8.encode "Origin")).set "access-control-allow-origin" value)
  | _ => h

end OriginDecision

end Gatehouse
