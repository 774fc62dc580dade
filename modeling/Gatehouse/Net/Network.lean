import Gatehouse.Net.Address
import Gatehouse.Text.Integer

/-!
# Networks

A network is an address and the number of leading bits that its members share with it. A bare
address is the network of itself alone.
-/

namespace Gatehouse

/-- A network: the address as given and the number of bits that count. -/
structure Network where
  address : Address
  bits : Nat
deriving DecidableEq, Repr

namespace Network

def host (a : Address) : Network :=
  match a with
  | .v4 _ => ⟨a, 32⟩
  | .v6 _ => ⟨a, 128⟩

/-- An address of 32 bits with a slash and the bits. Leading zeros are allowed in its numbers. -/
def v4? (l : List Char) : Option Network := do
  let (n, rest) ← Address.quad? false l
  let (bits, rest) ← Address.number? 10 Text.digit? 2 33 false (← Address.expect? '/' rest)
  if rest = [] then some ⟨.v4 n, bits⟩ else none

def v6? (l : List Char) : Option Network := do
  let (n, rest) ← Address.groups? false l
  let (bits, rest) ← Address.number? 10 Text.digit? 3 129 false (← Address.expect? '/' rest)
  if rest = [] then some ⟨.v6 n, bits⟩ else none

/-- The network of a text: an address alone, or with a slash and the bits. -/
def ofText? (s : String) : Option Network :=
  match Address.ofText? s with
  | some a => some (host a)
  | none => (v4? s.toList).or (v6? s.toList)

def text (n : Network) : String :=
  n.address.text ++ "/" ++ toString n.bits

/-- Whether an address shares the bits that count. Addresses of different width never do. -/
def contains (n : Network) : Address → Bool
  | .v4 a =>
    match n.address with
    | .v4 b => a / Nat.pow 2 (32 - n.bits) == b / Nat.pow 2 (32 - n.bits)
    | .v6 _ => false
  | .v6 a =>
    match n.address with
    | .v6 b => a / Nat.pow 2 (128 - n.bits) == b / Nat.pow 2 (128 - n.bits)
    | .v4 _ => false

end Network

end Gatehouse
