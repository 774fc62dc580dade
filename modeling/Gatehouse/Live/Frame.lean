import Gatehouse.Text.Utf8

/-!
# Frames

What a client sends over a socket. Text is answered, and so are bytes that are text; a ping comes
back as a pong, a client that closes ends the connection, and every other frame is passed over.
-/

namespace Gatehouse.Live

inductive Frame where
  | text (s : String)
  | binary (b : Bytes)
  | ping (b : Bytes)
  | pong (b : Bytes)
  | close
deriving DecidableEq, Repr

namespace Frame

def message? : Frame → Option String
  | text s => some s
  | binary b => Utf8.decode? b
  | _ => none

/-- The messages of a connection, up to the frame that closes it. -/
def messages (frames : List Frame) : List String :=
  (frames.takeWhile (· ≠ close)).filterMap message?

/-- What comes after the frame that closes a connection is not read. -/
theorem messages_close (before after : List Frame) (h : close ∉ before) :
    messages (before ++ close :: after) = before.filterMap message? := by
  have kept : ∀ f ∈ before, decide (f ≠ close) = true := fun f hf =>
    decide_eq_true fun e => h (e ▸ hf)
  rw [messages, List.takeWhile_append_of_pos kept]
  simp

end Frame

end Gatehouse.Live
