import Gatehouse.Access.Policy
import Gatehouse.Http.Header
import Gatehouse.Json.Writing
import Gatehouse.Net.Address

/-!
# Requests and responses
-/

namespace Gatehouse.Http

/-- A request as it arrives, and whether its connection can be taken over for frames. -/
structure Request where
  method : Method
  path : String
  query : Option String
  headers : Headers
  body : Bytes
  peer : Option Address
  canUpgrade : Bool

/-- A response as it leaves; a broken one ends before its body does. -/
structure Response where
  status : Nat
  headers : Headers
  body : Bytes
  broken : Bool

namespace Response

def empty (status : Nat) : Response :=
  ⟨status, [], [], false⟩

def ofText (status : Nat) (contentType body : String) : Response :=
  ⟨status, [("content-type", Utf8.encode contentType)], Utf8.encode body, false⟩

def plain (status : Nat) (body : String) : Response :=
  ofText status "text/plain; charset=utf-8" body

def json (status : Nat) (body : Json) : Response :=
  ofText status "application/json" body.write

end Response

/-- The path and query of a request target, up to a `#`. -/
def pathAndQuery (l : List Char) : String × Option String :=
  let l := l.takeWhile (· ≠ '#')
  let (path, query) := match Text.cutChars '?' l with
    | some (path, query) => (path, some (String.ofList query))
    | none => (l, none)
  (if path = [] then "/" else String.ofList path, query)

def afterScheme? : List Char → Option (List Char)
  | [] => none
  | c :: rest =>
    match Text.afterChars [':', '/', '/'] (c :: rest) with
    | some l => some l
    | none => afterScheme? rest

/-- The path and query of a request target: a path, `*`, or a URL. A target that only names a host
has an empty path. -/
def target (s : String) : String × Option String :=
  match s.toList with
  | '/' :: rest => pathAndQuery ('/' :: rest)
  | ['*'] => ("*", none)
  | l =>
    match afterScheme? l with
    | some rest => pathAndQuery (rest.dropWhile fun c => c ≠ '/' && c ≠ '?' && c ≠ '#')
    | none => ("", none)

end Gatehouse.Http
