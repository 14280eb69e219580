import ServiceKit.Json.Basic
import ServiceKit.Text.Bytes

namespace ServiceKit.Json

def isSpace (c : Char) : Bool :=
  c == ' ' || c == '\t' || c == '\n' || c == '\r'

def skipSpace (s : List Char) : List Char :=
  s.dropWhile isSpace

def hex4? (a b c d : Char) : Option Nat := do
  let a ← Bytes.hexValue? a
  let b ← Bytes.hexValue? b
  let c ← Bytes.hexValue? c
  let d ← Bytes.hexValue? d
  pure (((16 * a + b) * 16 + c) * 16 + d)

def simpleEscape? : Char → Option Char
  | '"' => some '"'
  | '\\' => some '\\'
  | '/' => some '/'
  | 'b' => some '\x08'
  | 'f' => some '\x0c'
  | 'n' => some '\n'
  | 'r' => some '\r'
  | 't' => some '\t'
  | _ => none

/-- Reads the rest of a string after its opening quote. The characters read stand reversed in
`done`. A character above the basic plane may be escaped as a pair of surrogates; a surrogate alone
is refused. -/
def readChars (done : List Char) : List Char → Option (String × List Char)
  | [] => none
  | '"' :: rest => some (String.ofList done.reverse, rest)
  | '\\' :: 'u' :: a :: b :: c :: d :: rest =>
    match hex4? a b c d with
    | none => none
    | some n =>
      if 0xd800 ≤ n ∧ n < 0xdc00 then
        match rest with
        | '\\' :: 'u' :: a' :: b' :: c' :: d' :: rest' =>
          match hex4? a' b' c' d' with
          | none => none
          | some m =>
            if 0xdc00 ≤ m ∧ m < 0xe000 then
              readChars (Char.ofNat (0x10000 + (n - 0xd800) * 0x400 + (m - 0xdc00)) :: done) rest'
            else none
        | _ => none
      else if 0xdc00 ≤ n ∧ n < 0xe000 then none
      else readChars (Char.ofNat n :: done) rest
  | '\\' :: c :: rest =>
    match simpleEscape? c with
    | some e => readChars (e :: done) rest
    | none => none
  | c :: rest => if c.toNat < 0x20 then none else readChars (c :: done) rest

/-- The digits behind a point, of which there is one at least. -/
def readFraction? (s : List Char) : Option (Option (List Char) × List Char) :=
  match s with
  | '.' :: r =>
    let ds := r.takeWhile Char.isDigit
    if ds.isEmpty then none else some (some ds, r.dropWhile Char.isDigit)
  | r => some (none, r)

/-- The power of ten in an exponent. -/
def readPower? (s : List Char) : Option (Option Int × List Char) :=
  match s with
  | e :: r =>
    if e = 'e' ∨ e = 'E' then
      let (down, r) := match r with
        | '-' :: r => (true, r)
        | '+' :: r => (false, r)
        | r => (false, r)
      let ds := r.takeWhile Char.isDigit
      if ds.isEmpty then none
      else
        let n : Int := Integer.ofDigits ds
        some (some (if down then -n else n), r.dropWhile Char.isDigit)
    else some (none, s)
  | [] => some (none, [])

/-- The value of a number's parts. A whole number that no integer type holds is a decimal one. -/
def numberOf? (neg : Bool) (whole : List Char) (frac : Option (List Char)) (exponent : Option Int) :
    Option Number :=
  let n := Integer.ofDigits whole
  let isWhole := frac.isNone && exponent.isNone
  if isWhole && !neg && n ≤ Integer.u64Max then some (.int n)
  else if isWhole && neg && 0 < n && n ≤ Integer.i64Low then some (.int (-n))
  else
    let frac := frac.getD []
    let e := exponent.getD 0 - frac.length
    (Binary64.ofDecimal? neg (Integer.ofDigits (whole ++ frac)) e).map .float

def readMinus (s : List Char) : Bool × List Char :=
  match s with
  | '-' :: rest => (true, rest)
  | s => (false, s)

/-- Reads a number by the grammar of documents: no leading zeros, digits on both sides of the point. -/
def readNumber (s : List Char) : Option (Number × List Char) := do
  let (neg, body) := readMinus s
  match body.takeWhile Char.isDigit with
  | [] => none
  | '0' :: _ :: _ => none
  | whole =>
    let (frac, r) ← readFraction? (body.dropWhile Char.isDigit)
    let (exponent, r) ← readPower? r
    let n ← numberOf? neg whole frac exponent
    pure (n, r)

def keyword? (word : String) (s : List Char) : Option (List Char) :=
  let w := word.toList
  if w.isPrefixOf s then some (s.drop w.length) else none

mutual

/-- Reads one value. Each call has a step less, so that a text of `n` characters is read within
`2 * n + 2` steps. -/
def readValue : Nat → List Char → Option (Json × List Char)
  | 0, _ => none
  | fuel + 1, s =>
    match skipSpace s with
    | '"' :: rest => (readChars [] rest).map fun (t, r) => (.str t, r)
    | '[' :: rest =>
      match skipSpace rest with
      | ']' :: r => some (.arr [], r)
      | _ => (readItems fuel rest).map fun (xs, r) => (.arr xs, r)
    | '{' :: rest =>
      match skipSpace rest with
      | '}' :: r => some (.obj [], r)
      | _ => (readFields fuel rest).map fun (fs, r) => (ofFields fs, r)
    | 't' :: _ => (keyword? "true" (skipSpace s)).map (Json.bool true, ·)
    | 'f' :: _ => (keyword? "false" (skipSpace s)).map (Json.bool false, ·)
    | 'n' :: _ => (keyword? "null" (skipSpace s)).map (Json.null, ·)
    | s => (readNumber s).map fun (n, r) => (.num n, r)

def readItems : Nat → List Char → Option (List Json × List Char)
  | 0, _ => none
  | fuel + 1, s =>
    match readValue fuel s with
    | none => none
    | some (v, r) =>
      match skipSpace r with
      | ',' :: r => (readItems fuel r).map fun (vs, r) => (v :: vs, r)
      | ']' :: r => some ([v], r)
      | _ => none

def readFields : Nat → List Char → Option (List (String × Json) × List Char)
  | 0, _ => none
  | fuel + 1, s =>
    match skipSpace s with
    | '"' :: r =>
      match readChars [] r with
      | none => none
      | some (name, r) =>
        match skipSpace r with
        | ':' :: r =>
          match readValue fuel r with
          | none => none
          | some (v, r) =>
            match skipSpace r with
            | ',' :: r => (readFields fuel r).map fun (fs, r) => ((name, v) :: fs, r)
            | '}' :: r => some ([(name, v)], r)
            | _ => none
        | _ => none
    | _ => none

end

/-- Reads a whole document. -/
def parse? (text : String) : Option Json :=
  let s := text.toList
  match readValue (2 * s.length + 2) s with
  | some (v, r) => if (skipSpace r).isEmpty then some v else none
  | none => none

end ServiceKit.Json
