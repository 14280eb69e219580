import ServiceKit.Config.Document
import ServiceKit.Http.CustomHeaders
import ServiceKit.Http.Forwarded

namespace ServiceKit

namespace CustomHeaders

/-- Puts the headers for the final status into every response. -/
def layer (table : CustomHeaders) : Layer := fun inner request =>
  (inner request).map fun r => { r with headers := r.headers.setAll (table.forStatus r.status) }

end CustomHeaders

namespace Router

/-- The header that some listeners ask for. -/
def requiredHeader : String := "x-keel-request"

def requireHeader : Layer := fun inner request =>
  if request.headers.contains requiredHeader then inner request
  else .ok (.text 412 ("missing '" ++ requiredHeader ++ "' header"))

/-- The length that a request announces for its body, if it can be read. -/
def contentLength? (headers : Headers) : Option Nat :=
  ((headers.get? "content-length").bind Headers.text?).bind
    fun t => (Integer.readU64 t).toOption

def limitBody (limit : Nat) : Layer := fun inner request =>
  match contentLength? request.headers with
  | some n => if limit < n then .ok (.text 413 "length limit exceeded") else inner request
  | none => inner request

/-- What the pages show: the name of the cluster, the configuration for anyone's eyes, and the time. -/
structure State where
  clusterName : Option String
  sanitized : Json
  now : Int

def State.ofConfig (config : SharedConfig) (now : Int) : State :=
  ⟨config.clusterName, config.sanitized, now⟩

def health (state : State) : Response :=
  .json (Json.ofFields [
    ("initialized", .bool true),
    ("cluster_name", Json.ofOption Json.str state.clusterName),
    ("server_time_utc", Json.ofInt state.now)]).render

def page? (state : State) : String → Option Response
  | "/v1/sys/health" => some (health state)
  | "/v1/sys/config/state/sanitized" => some (.json state.sanitized.render)
  | _ => none

/-- The part of a request's target before the query. -/
def pathOf (target : String) : String :=
  String.ofList (target.toList.takeWhile (· ≠ '?'))

def isRead (method : String) : Bool :=
  method == "GET" || method == "HEAD"

/-- The pages by path; they can only be read. -/
def routes (state : State) : Handler := fun request =>
  match page? state (pathOf request.path) with
  | none => .ok (.empty 404)
  | some response => if isRead request.method then .ok response else .ok (.empty 405)

/-- The last touch on a response: one to an attempt to change a page tells how it can be used, and one
to a request for headers alone loses its body. -/
def finish (state : State) (inner : Handler) : Handler := fun request =>
  (inner request).map fun r =>
    let known := (page? state (pathOf request.path)).isSome
    let r :=
      if known && !isRead request.method && !r.headers.contains "allow" then
        { r with headers := r.headers ++ [("allow", Bytes.ofString "GET,HEAD")] }
      else r
    if request.method = "HEAD" then { r with body := "" } else r

def applyIf (layer? : Option Layer) (inner : Handler) : Handler :=
  match layer? with
  | some layer => layer inner
  | none => inner

/-- All that stands before the pages of a listener. From the outside: headers for every response, the
client that a proxy reports, the required header, and the limit on bodies. -/
def layers (l : Listener) (table : CustomHeaders) (inner : Handler) : Handler :=
  let inner := applyIf (l.effectiveMaxRequestSize.map limitBody) inner
  let inner := if l.requireRequestHeader then requireHeader inner else inner
  let inner := applyIf ((ForwardedSettings.ofListener? l).map ForwardedSettings.layer) inner
  if table.isEmpty then inner else table.layer inner

/-- How long a request may take: the listener's own limit, or else the one for all, or the default. -/
def timeLimit (l : Listener) (default : Option Duration) : Duration :=
  match l.maxRequestDuration.filter (· ≠ .zero) with
  | some d => d
  | none => (default.filter (· ≠ .zero)).getD l.effectiveMaxRequestDuration

def ofListener (state : State) (l : Listener) : Except SettingError Handler :=
  (CustomHeaders.ofTable l.customHeaders).map fun table =>
    finish state (layers l table (routes state))

end Router

end ServiceKit
