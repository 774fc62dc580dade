import Gatehouse.Core.Request

/-!
# Work that waits for the outside

Answering a request or a frame may take actions outside the relay: calls of the core, and writing the
ledger of revoked sessions to its file. An exchange is the work up to the next such action, together
with the work that follows each of its outcomes.
-/

namespace Gatehouse

/-- A file to be put in place of the one that is there. -/
structure FileWrite where
  path : String
  document : String
deriving DecidableEq, Repr

/-- Work that is done, or that goes on after an action outside. The outcome of a write is the text of
what went wrong, or none. -/
inductive Exchange (α : Type) where
  | done (result : α)
  | call (request : Core.Request) (resume : Core.Answer → Exchange α)
  | save (file : FileWrite) (resume : Option String → Exchange α)

namespace Exchange

variable {α β : Type}

def map (f : α → β) : Exchange α → Exchange β
  | done a => done (f a)
  | call r resume => call r fun answer => (resume answer).map f
  | save file resume => save file fun fault => (resume fault).map f

/-- The call with which an exchange begins. -/
def call? : Exchange α → Option Core.Request
  | call r _ => some r
  | _ => none

/-- The calls of an exchange in their order when the outside behaves as given. -/
def calls (core : Core.Request → Core.Answer) (disk : FileWrite → Option String) :
    Exchange α → List Core.Request
  | done _ => []
  | call r resume => r :: (resume (core r)).calls core disk
  | save file resume => (resume (disk file)).calls core disk

/-- The result of an exchange when the outside behaves as given. -/
def result (core : Core.Request → Core.Answer) (disk : FileWrite → Option String) :
    Exchange α → α
  | done a => a
  | call r resume => (resume (core r)).result core disk
  | save file resume => (resume (disk file)).result core disk

/-- Makes a call. What has no URL or may not be sent fails without one. -/
def ask (request : Option Core.Request) (resume : Except Core.Failure Core.Reply → α) :
    Exchange α :=
  match request with
  | none => done (resume (.error .invalidUrl))
  | some r =>
    if r.isSendable then call r fun answer => done (resume (answer.mapError .ofFault))
    else done (resume (.error (.unreachable "builder error")))

@[simp] theorem map_done (f : α → β) (a : α) : (done a).map f = done (f a) := rfl

@[simp] theorem call?_map (f : α → β) (e : Exchange α) : (e.map f).call? = e.call? := by
  cases e <;> rfl

@[simp] theorem result_map (core : Core.Request → Core.Answer) (disk : FileWrite → Option String)
    (f : α → β) (e : Exchange α) : (e.map f).result core disk = f (e.result core disk) := by
  induction e with
  | done a => rfl
  | call r resume ih => exact ih (core r)
  | save file resume ih => exact ih (disk file)

end Exchange

end Gatehouse
