import ServiceKit.Config.Listener
import ServiceKit.Http.Message

namespace ServiceKit

/-- A refusal by the checks on forwarded requests. -/
inductive Rejection where
  | notPresent
  | notAuthorized
  | shortChain (hopSkips length : Nat)
deriving DecidableEq, Repr

namespace Rejection

def status : Rejection → Nat
  | notPresent => 403
  | notAuthorized => 403
  | shortChain .. => 400

def message : Rejection → String
  | notPresent => "missing x-forwarded-for header and configured to reject when not present"
  | notAuthorized =>
    "client address not authorized for x-forwarded-for and configured to reject connection"
  | shortChain hopSkips length =>
    "malformed x-forwarded-for configuration or request, hops to skip (" ++ toString hopSkips ++
      ") would skip before earliest chain link (chain length " ++ toString length ++ ")"

def response (r : Rejection) : Response :=
  .text r.status r.message

end Rejection

namespace ForwardedSettings

def header : String := "x-forwarded-for"

/-- Forwarded addresses matter only to a listener that trusts some proxy. -/
def ofListener? (l : Listener) : Option ForwardedSettings :=
  if l.forwarded.authorized.isEmpty then none else some l.forwarded

def isAuthorized (config : ForwardedSettings) (ip : Ip) : Bool :=
  config.authorized.any (·.contains ip)

/-- The links of all header lines in order. Lines with other than visible characters do not count. -/
def chain (lines : List String) : List String :=
  (lines.flatMap (Text.split ',')).map Text.trim

/-- The client that a trusted proxy vouches for: the link with as many links behind it as are to be
passed over. -/
def trustedClient (config : ForwardedSettings) (headers : Headers) (remote : SocketAddress) :
    Except (Stop Rejection) (Option ClientAddress) :=
  let lines := (headers.getAll header).filterMap Headers.text?
  if lines.isEmpty then
    if config.rejectNotPresent then .error (.error .notPresent) else .ok none
  else if !config.isAuthorized remote.ip then
    if config.rejectNotAuthorized then .error (.error .notAuthorized) else .ok none
  else
    let links := chain lines
    let passed := 1 + config.hopSkips
    if Integer.u64Max < passed then .error (.crash .additionOverflow)
    else if links.length < passed then .error (.error (.shortChain config.hopSkips links.length))
    else match links[links.length - passed]? with
      | some host => .ok (some ⟨host, remote.port⟩)
      | none => .error (.crash (.indexOutOfBounds links.length (links.length - passed)))

/-- What the handler sees of a request whose client is known. -/
def withClient (request : Request) (client : ClientAddress) : Request :=
  { request with
    client := some client
    peer := client.socketAddress?.or request.peer }

/-- Puts the client that a proxy reports in the place of the peer, or refuses the request. -/
def layer (config : ForwardedSettings) : Layer := fun inner request =>
  match request.peer with
  | none =>
    if config.rejectNotAuthorized then .ok Rejection.notAuthorized.response else inner request
  | some remote =>
    match config.trustedClient request.headers remote with
    | .ok (some client) => inner (withClient request client)
    | .ok none => inner request
    | .error (.error rejection) => .ok rejection.response
    | .error (.crash crash) => .error crash

end ForwardedSettings

end ServiceKit
