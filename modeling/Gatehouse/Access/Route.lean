import Gatehouse.Text.Ascii
import Gatehouse.Text.Split

/-!
# The routes of the core

The relay forwards a fixed grammar of paths and nothing else. A route is a production of that
grammar; `Route.ofPath?` reads a path, `Route.path` writes one, and `Route.kind` says whether the
answer is decoded as JSON or passed on byte for byte. The resource ids inside a path are free text,
but an id that a URL would take for a step up or down the path is refused, however its dots are
spelt.
-/

namespace Gatehouse

/-- What is forwarded as JSON, and what is passed on as it is. -/
inductive ForwardKind where
  | json
  | raw
deriving DecidableEq, Repr

/-- The routes with a path of their own. -/
inductive Resource where
  | health
  | models
  | openApi
  | dashboardData
  | history
  | run
  | runAsync
  | undo
  | check
  | jobs
  | plans
  | events
  | terminals
deriving DecidableEq, Repr

def Resource.path : Resource → String
  | health => "/health"
  | models => "/models"
  | openApi => "/openapi.json"
  | dashboardData => "/dashboard/data"
  | history => "/history"
  | run => "/run"
  | runAsync => "/run_async"
  | undo => "/undo"
  | check => "/check"
  | jobs => "/jobs"
  | plans => "/plans"
  | events => "/events"
  | terminals => "/terminal/sessions"

def Resource.all : List Resource :=
  [health, models, openApi, dashboardData, history, run, runAsync, undo, check, jobs, plans, events,
    terminals]

inductive BrowserAction where
  | status
  | pages
  | action
  | navigate
  | click
  | fill
  | extractText
  | screenshot
  | waitForSelector
  | evaluateJs
  | close
deriving DecidableEq, Repr

def BrowserAction.name : BrowserAction → String
  | status => "status"
  | pages => "pages"
  | action => "action"
  | navigate => "navigate"
  | click => "click"
  | fill => "fill"
  | extractText => "extract_text"
  | screenshot => "screenshot"
  | waitForSelector => "wait_for_selector"
  | evaluateJs => "evaluate_js"
  | close => "close"

def BrowserAction.all : List BrowserAction :=
  [status, pages, action, navigate, click, fill, extractText, screenshot, waitForSelector,
    evaluateJs, close]

def BrowserAction.ofName? (s : String) : Option BrowserAction :=
  all.find? fun a => a.name = s

inductive TerminalAction where
  | output
  | input
  | close
deriving DecidableEq, Repr

def TerminalAction.name : TerminalAction → String
  | output => "output"
  | input => "input"
  | close => "close"

def TerminalAction.all : List TerminalAction :=
  [output, input, close]

def TerminalAction.ofName? (s : String) : Option TerminalAction :=
  all.find? fun a => a.name = s

inductive PlanAction where
  | approve
  | approveAsync
  | reject
  | undo
  | retryFailed
  | retryFailedAsync
deriving DecidableEq, Repr

def PlanAction.name : PlanAction → String
  | approve => "approve"
  | approveAsync => "approve_async"
  | reject => "reject"
  | undo => "undo"
  | retryFailed => "retry_failed"
  | retryFailedAsync => "retry_failed_async"

def PlanAction.all : List PlanAction :=
  [approve, approveAsync, reject, undo, retryFailed, retryFailedAsync]

def PlanAction.ofName? (s : String) : Option PlanAction :=
  all.find? fun a => a.name = s

/-- An id with every `%2e`, in either case, read as a dot and its letters made small. -/
def foldDots : List Char → List Char
  | '%' :: '2' :: c :: rest =>
    if c.toLower = 'e' then '.' :: foldDots rest else '%' :: '2' :: foldDots (c :: rest)
  | c :: rest => c.toLower :: foldDots rest
  | [] => []

/-- Whether a text can stand for a resource: not blank, no `/` or `?` in it, and not one or two dots
in any spelling. -/
def isResourceId (id : String) : Bool :=
  Text.trim id ≠ "" && !id.toList.contains '?' && !id.toList.contains '/' &&
    foldDots id.toList ≠ ['.'] && foldDots id.toList ≠ ['.', '.']

/-- A production of the grammar. -/
inductive Route where
  | resource (r : Resource)
  | dashboard
  | eventStream
  | browser (a : BrowserAction)
  | terminal (id : String) (a : TerminalAction)
  | job (id : String)
  | jobStream (id : String)
  | jobCancel (id : String)
  | plan (id : String)
  | planStream (id : String)
  | planAction (id : String) (a : PlanAction)
deriving DecidableEq, Repr

namespace Route

/-- Where realtime connections are made. It is answered by the relay and never forwarded. -/
def realtimePath : String := "/ws"

def kind : Route → ForwardKind
  | dashboard => .raw
  | eventStream => .raw
  | jobStream _ => .raw
  | planStream _ => .raw
  | _ => .json

def path : Route → String
  | resource r => r.path
  | dashboard => "/dashboard"
  | eventStream => "/events/stream"
  | browser a => "/browser/" ++ a.name
  | terminal id a => "/terminal/sessions/" ++ id ++ "/" ++ a.name
  | job id => "/jobs/" ++ id
  | jobStream id => "/jobs/" ++ id ++ "/stream"
  | jobCancel id => "/jobs/" ++ id ++ "/cancel"
  | plan id => "/plans/" ++ id
  | planStream id => "/plans/" ++ id ++ "/stream"
  | planAction id a => "/plans/" ++ id ++ "/" ++ a.name

/-- The route of a terminal path after `/terminal/sessions`: an id up to the next slash, then an
action. -/
def ofTerminal? (rest : String) : Option Route := do
  let (id, action) ← Text.cut '/' (← Text.after? "/" rest)
  let a ← TerminalAction.ofName? action
  if isResourceId id then some (terminal id a) else none

/-- The route of a job or a plan from the segments of its path. -/
def ofSegments? : List String → Option Route
  | ["jobs", id] => if isResourceId id then some (job id) else none
  | ["plans", id] => if isResourceId id then some (plan id) else none
  | ["jobs", id, action] =>
    if isResourceId id then
      if action = "stream" then some (jobStream id)
      else if action = "cancel" then some (jobCancel id)
      else none
    else none
  | ["plans", id, action] =>
    if isResourceId id then
      if action = "stream" then some (planStream id)
      else (PlanAction.ofName? action).map (planAction id)
    else none
  | _ => none

def ofPath? (path : String) : Option Route :=
  match Resource.all.find? fun r => r.path = path with
  | some r => some (resource r)
  | none =>
    if path = "/dashboard" then some dashboard
    else if path = "/events/stream" then some eventStream
    else
      match Text.after? "/browser/" path with
      | some action => (BrowserAction.ofName? action).map browser
      | none =>
        match Text.after? "/terminal/sessions" path with
        | some rest => ofTerminal? rest
        | none => (Text.after? "/" path).bind fun rest => ofSegments? (Text.split '/' rest)

def classify (path : String) : Option ForwardKind :=
  (ofPath? path).map kind

end Route

end Gatehouse
