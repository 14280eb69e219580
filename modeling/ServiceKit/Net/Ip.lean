import ServiceKit.Number.Integer
import ServiceKit.Number.Power

namespace ServiceKit

inductive Ip where
  | v4 (a : BitVec 32)
  | v6 (a : BitVec 128)
deriving DecidableEq, Repr

namespace Ip

def width : Ip → Nat
  | v4 _ => 32
  | v6 _ => 128

def bits : Ip → Nat
  | v4 a => a.toNat
  | v6 a => a.toNat

def isV4 : Ip → Bool
  | v4 _ => true
  | v6 _ => false

/-- Digits of a base at the start of a text, at most `most` of them. A leading zero may stand alone,
or before other digits where `padded` says so. -/
def readGroup (base most : Nat) (padded : Bool) (s : List Char) : Option (Nat × List Char) :=
  let isDigit c := (Integer.digitValue? base c).isSome
  let digits := s.takeWhile isDigit
  if digits.isEmpty || most < digits.length then none
  else if !padded && digits.head? == some '0' && 1 < digits.length then none
  else
    let value := digits.foldl (fun n c => base * n + (Integer.digitValue? base c).getD 0) 0
    some (value, s.dropWhile isDigit)

/-- One of the four decimal parts, after a point unless it is the first. -/
def readOctet (padded first : Bool) (s : List Char) : Option (Nat × List Char) := do
  let s ← if first then some s else match s with
    | '.' :: s => some s
    | _ => none
  let (n, s) ← readGroup 10 3 padded s
  if n < 256 then some (n, s) else none

def readOctets (padded : Bool) (s : List Char) : Option (Nat × List Char) := do
  let (a, s) ← readOctet padded true s
  let (b, s) ← readOctet padded false s
  let (c, s) ← readOctet padded false s
  let (d, s) ← readOctet padded false s
  some (((a * 256 + b) * 256 + c) * 256 + d, s)

/-- Up to `limit` sixteen-bit groups with colons between them. The last two may be written as four
decimal parts; the flag tells whether they were. -/
def readGroups (padded : Bool) : Nat → Bool → List Char → List Nat × Bool × List Char
  | 0, _, s => ([], false, s)
  | limit + 1, first, s =>
    let body := if first then some s else match s with
      | ':' :: r => some r
      | _ => none
    match body with
    | none => ([], false, s)
    | some r =>
      match if 1 ≤ limit then readOctets padded r else none with
      | some (n, r) => ([n / 65536, n % 65536], true, r)
      | none =>
        match readGroup 16 4 true r with
        | none => ([], false, s)
        | some (g, r) =>
          let (gs, dotted, r) := readGroups padded limit false r
          (g :: gs, dotted, r)

def ofGroups (gs : List Nat) : BitVec 128 :=
  BitVec.ofNat 128 (gs.foldl (fun n g => 65536 * n + g) 0)

/-- An address of eight groups; a double colon stands for at least `gap` groups of zeros. -/
def readV6 (padded : Bool) (gap : Nat) (s : List Char) : Option (BitVec 128 × List Char) :=
  let (head, dotted, r) := readGroups padded 8 true s
  if head.length = 8 then some (ofGroups head, r)
  else if dotted then none
  else match r with
    | ':' :: ':' :: r =>
      let (tail, _, r) := readGroups padded (8 - gap - head.length) true r
      some (ofGroups (head ++ List.replicate (8 - head.length - tail.length) 0 ++ tail), r)
    | _ => none

def readV4 (padded : Bool) (s : List Char) : Option (BitVec 32 × List Char) :=
  (readOctets padded s).map fun (n, r) => (BitVec.ofNat 32 n, r)

/-- Reads an address that stands alone. -/
def parse? (s : String) : Option Ip :=
  match readV4 false s.toList with
  | some (a, []) => some (v4 a)
  | _ =>
    match readV6 false 1 s.toList with
    | some (a, []) => some (v6 a)
    | _ => none

def renderV4 (n : Nat) : String :=
  ".".intercalate ([n / 0x1000000, n / 0x10000 % 0x100, n / 0x100 % 0x100, n % 0x100].map toString)

def groups (n : Nat) : List Nat :=
  (List.range 8).map fun i => n / pow2 (16 * (7 - i)) % 0x10000

/-- Where the longest run of zero groups starts, and its length; the first of several. -/
def longestZeros : Nat → Nat × Nat → Nat × Nat → List Nat → Nat × Nat
  | _, _, best, [] => best
  | i, (start, len), best, g :: gs =>
    if g = 0 then
      let run := if len = 0 then (i, 1) else (start, len + 1)
      longestZeros (i + 1) run (if best.2 < run.2 then run else best) gs
    else longestZeros (i + 1) (0, 0) best gs

def renderGroups (gs : List Nat) : String :=
  ":".intercalate (gs.map fun g => String.ofList (Nat.toDigits 16 g))

/-- The shortest text: the longest run of at least two zero groups becomes a double colon, and an
address that embeds one of four octets shows it so. -/
def renderV6 (n : Nat) : String :=
  if n / 0x100000000 = 0xffff then "::ffff:" ++ renderV4 (n % 0x100000000)
  else
    let gs := groups n
    let (start, len) := longestZeros 0 (0, 0) (0, 0) gs
    if 1 < len then renderGroups (gs.take start) ++ "::" ++ renderGroups (gs.drop (start + len))
    else renderGroups gs

def render : Ip → String
  | v4 a => renderV4 a.toNat
  | v6 a => renderV6 a.toNat

end Ip

/-- A transport address. Only an address of the longer kind has a zone. -/
structure SocketAddress where
  ip : Ip
  port : Nat
  zone : Nat
deriving DecidableEq, Repr

namespace SocketAddress

def ofIp (ip : Ip) (port : Nat) : SocketAddress :=
  ⟨ip, port, 0⟩

def readPort (s : List Char) : Option Nat :=
  match s with
  | ':' :: digits =>
    match Ip.readGroup 10 digits.length true digits with
    | some (n, []) => if n < 65536 then some n else none
    | _ => none
  | _ => none

def readZone (s : List Char) : Option (Nat × List Char) :=
  match s with
  | '%' :: r =>
    match Ip.readGroup 10 r.length true r with
    | some (n, r) => if n ≤ Integer.u32Max then some (n, r) else none
    | none => none
  | s => some (0, s)

/-- Reads four octets and a port, or eight groups in brackets and a port. -/
def parse? (s : String) : Option SocketAddress :=
  match s.toList with
  | '[' :: r => do
    let (a, r) ← Ip.readV6 false 1 r
    let (zone, r) ← readZone r
    match r with
    | ']' :: r => (readPort r).map fun port => ⟨.v6 a, port, zone⟩
    | _ => none
  | s => do
    let (a, r) ← Ip.readV4 false s
    (readPort r).map fun port => ofIp (.v4 a) port

def render (a : SocketAddress) : String :=
  match a.ip with
  | .v4 _ => a.ip.render ++ ":" ++ toString a.port
  | .v6 _ =>
    let zone := if a.zone = 0 then "" else "%" ++ toString a.zone
    "[" ++ a.ip.render ++ zone ++ "]:" ++ toString a.port

end SocketAddress

end ServiceKit
