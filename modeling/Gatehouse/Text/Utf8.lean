/-!
# UTF-8

Request bodies, core replies and frames arrive as bytes. The first byte of a character fixes how
many continuation bytes follow and the range of the first of them, so decoding stops at the longest
part that could still have become a character; such a part stands for one replacement character
where text is read leniently.
-/

namespace Gatehouse

abbrev Bytes := List UInt8

namespace Utf8

def encodeChar (c : Char) : Bytes :=
  let n := c.toNat
  let tail (k : Nat) : UInt8 := UInt8.ofNat (0x80 + n / Nat.pow 64 k % 64)
  if n < 0x80 then [UInt8.ofNat n]
  else if n < 0x800 then [UInt8.ofNat (0xC0 + n / 64), tail 0]
  else if n < 0x10000 then [UInt8.ofNat (0xE0 + n / 0x1000), tail 1, tail 0]
  else [UInt8.ofNat (0xF0 + n / 0x40000), tail 2, tail 1, tail 0]

def encodeChars (l : List Char) : Bytes :=
  l.flatMap encodeChar

def encode (s : String) : Bytes :=
  encodeChars s.toList

/-- What a first byte promises: the number of bytes that follow, the range of the first of them, and
the bits it carries itself. -/
structure Lead where
  follow : Nat
  low : UInt8
  high : UInt8
  bits : Nat

/-- The promise of a byte at the start of a character, if it can stand there. -/
def lead? (b : UInt8) : Option Lead :=
  if b < 0x80 then some ⟨0, 0, 0, b.toNat⟩
  else if 0xC2 ≤ b && b ≤ 0xDF then some ⟨1, 0x80, 0xBF, b.toNat - 0xC0⟩
  else if b == 0xE0 then some ⟨2, 0xA0, 0xBF, 0⟩
  else if b == 0xED then some ⟨2, 0x80, 0x9F, b.toNat - 0xE0⟩
  else if 0xE1 ≤ b && b ≤ 0xEF then some ⟨2, 0x80, 0xBF, b.toNat - 0xE0⟩
  else if b == 0xF0 then some ⟨3, 0x90, 0xBF, 0⟩
  else if 0xF1 ≤ b && b ≤ 0xF3 then some ⟨3, 0x80, 0xBF, b.toNat - 0xF0⟩
  else if b == 0xF4 then some ⟨3, 0x80, 0x8F, b.toNat - 0xF0⟩
  else none

/-- The bytes after a first byte: the code point if all arrive, and what is left to read. -/
def follow : Nat → UInt8 → UInt8 → Nat → Bytes → Option Char × Bytes
  | 0, _, _, bits, rest => (some (Char.ofNat bits), rest)
  | _ + 1, _, _, _, [] => (none, [])
  | n + 1, low, high, bits, b :: rest =>
    if low ≤ b && b ≤ high then follow n 0x80 0xBF (bits * 64 + (b.toNat - 0x80)) rest
    else (none, b :: rest)

theorem follow_length_le (n : Nat) (low high : UInt8) (bits : Nat) (l : Bytes) :
    (follow n low high bits l).2.length ≤ l.length := by
  induction n generalizing low high bits l with
  | zero => simp [follow]
  | succ n ih =>
    cases l with
    | nil => simp [follow]
    | cons b rest =>
      unfold follow
      split
      · exact Nat.le_trans (ih _ _ _ _) (Nat.le_succ _)
      · exact Nat.le_refl _

/-- The characters of a byte sequence, with `none` for each longest part that is no character. -/
def characters : Bytes → List (Option Char)
  | [] => []
  | b :: rest =>
    match lead? b with
    | none => none :: characters rest
    | some l =>
      (follow l.follow l.low l.high l.bits rest).1 ::
        characters (follow l.follow l.low l.high l.bits rest).2
termination_by l => l.length
decreasing_by
  · exact Nat.lt_succ_self _
  · exact Nat.lt_succ_of_le (follow_length_le ..)

/-- The text of a byte sequence, if every part of it is a character. -/
def decode? (bytes : Bytes) : Option String :=
  ((characters bytes).mapM id).map String.ofList

/-- The text of a byte sequence, with U+FFFD for every part that is no character. -/
def decodeLenient (bytes : Bytes) : String :=
  String.ofList ((characters bytes).map (·.getD (Char.ofNat 0xFFFD)))

end Utf8

end Gatehouse
