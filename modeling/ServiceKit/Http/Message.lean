import ServiceKit.Http.Header
import ServiceKit.Net.Ip
import ServiceKit.System.Fault

namespace ServiceKit

/-- The address that a trusted proxy reports: a host as the proxy wrote it, and the port of the
connection that delivered the request. -/
structure ClientAddress where
  host : String
  port : Nat
deriving DecidableEq, Repr

namespace ClientAddress

def dropOpening (cs : List Char) : List Char :=
  cs.dropWhile (· == '[')

def dropClosing (cs : List Char) : List Char :=
  (cs.reverse.dropWhile (· == ']')).reverse

/-- The address as one to connect to, if its host is one. -/
def socketAddress? (c : ClientAddress) : Option SocketAddress :=
  (Ip.parse? (String.ofList (dropClosing (dropOpening c.host.toList)))).map
    fun ip => .ofIp ip c.port

def render (c : ClientAddress) : String :=
  let cs := c.host.toList
  if cs.contains ':' && cs.head? != some '[' then "[" ++ c.host ++ "]:" ++ toString c.port
  else c.host ++ ":" ++ toString c.port

end ClientAddress

/-- What is looked at of a request. No page reads a body, and its size is taken from the headers. -/
structure Request where
  method : String
  path : String
  headers : Headers
  peer : Option SocketAddress
  client : Option ClientAddress
deriving Repr

structure Response where
  status : Nat
  headers : Headers
  body : String
deriving DecidableEq, Repr

namespace Response

def empty (status : Nat) : Response :=
  ⟨status, [], ""⟩

def text (status : Nat) (body : String) : Response :=
  ⟨status, [("content-type", Bytes.ofString "text/plain; charset=utf-8")], body⟩

def json (body : String) : Response :=
  ⟨200, [("content-type", Bytes.ofString "application/json")], body⟩

end Response

/-- What answers requests. -/
abbrev Handler := Request → Except Crash Response

/-- A layer around what answers requests. -/
abbrev Layer := Handler → Handler

end ServiceKit
