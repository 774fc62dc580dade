import Gatehouse.Live.Pump

/-!
# Serving a connection

A connection greets its client and then does two things at once: it answers frames in their order
and feeds events. Records are sent one at a time; the first one that the client does not take ends
both.
-/

namespace Gatehouse.Live

/-- A connection: the cursor, the records that the client took, the number offered to it, the number
of failed calls, and whether it is open. -/
structure Serving where
  cursor : Int
  taken : List Json
  offered : Nat
  failures : Nat
  isOpen : Bool

namespace Serving

/-- A connection before its greeting, with the cursor at `since`, but not below zero. -/
def start (since : Int) : Serving :=
  ⟨max since 0, [], 0, 0, true⟩

/-- Offers a record to the client; `takes` says of each offer whether it is taken. -/
def send (takes : Nat → Bool) (c : Serving) (message : Json) : Serving :=
  if !c.isOpen then c
  else if takes c.offered then
    { c with taken := c.taken ++ [message], offered := c.offered + 1 }
  else { c with offered := c.offered + 1, isOpen := false }

def greet (s : Session) (takes : Nat → Bool) (c : Serving) : Serving :=
  c.send takes s.hello

/-- Takes note of a handled frame and replies to it. -/
def reply (takes : Nat → Bool) (c : Serving) (h : Handled) : Serving :=
  send takes
    { c with cursor := h.cursor, failures := c.failures + if h.isFailed then 1 else 0 } h.reply

def frame (s : Session) (takes : Nat → Bool) (commandId : String) (c : Serving) (text : String) :
    Exchange Serving :=
  if c.isOpen then (s.handle c.cursor commandId text).map (c.reply takes) else .done c

/-- Passes on what became of a poll made at `since`. -/
def feed (takes : Nat → Bool) (c : Serving) (since : Int) (f : Feed) : Serving :=
  if !c.isOpen then c
  else
    let failed := match f with
      | .failed _ => 1
      | .batch _ _ => 0
    f.envelopes.foldl (send takes)
      { c with cursor := f.advance since c.cursor, failures := c.failures + failed }

def close (c : Serving) : Serving :=
  { c with isOpen := false }

end Serving

end Gatehouse.Live
