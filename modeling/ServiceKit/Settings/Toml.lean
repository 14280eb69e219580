import ServiceKit.Json.Reader
import ServiceKit.Settings.Value

namespace ServiceKit

/-- A table is implied by a longer name, opened by its own header, made by a dotted key, or written
between braces. -/
inductive Toml.Origin where
  | implied
  | header
  | dotted
  | inline
deriving DecidableEq

/-- A value of a settings document with how it came about, because that decides which later lines may
still add to it. -/
inductive Toml where
  | leaf (value : SettingValue)
  | list (items : List Toml)
  | table (origin : Toml.Origin) (fields : List (String × Toml))
  | tables (latest : List (String × Toml)) (earlier : List (List (String × Toml)))

namespace Toml

abbrev Table := List (String × Toml)

/-! ### Adding to a document -/

/-- Applies a change to the table that a header's names lead to; of an array of tables the latest is
meant. -/
def within? (change : Table → Option Table) : List String → Table → Option Table
  | [], t => change t
  | key :: rest, t =>
    match Json.lookup key t with
    | none => (within? change rest []).map fun u => Json.insert key (.table .implied u) t
    | some (.table .inline _) => none
    | some (.table origin u) => (within? change rest u).map fun u => Json.insert key (.table origin u) t
    | some (.tables latest earlier) =>
      (within? change rest latest).map fun u => Json.insert key (.tables u earlier) t
    | some _ => none

def openTable? (key : String) (t : Table) : Option Table :=
  match Json.lookup key t with
  | none => some (Json.insert key (.table .header []) t)
  | some (.table .implied u) => some (Json.insert key (.table .header u) t)
  | some _ => none

def openItem? (key : String) (t : Table) : Option Table :=
  match Json.lookup key t with
  | none => some (Json.insert key (.tables [] []) t)
  | some (.tables latest earlier) => some (Json.insert key (.tables [] (earlier ++ [latest])) t)
  | some _ => none

/-- Sets a value under a dotted key. A name is set once. -/
def assign? (value : Toml) : List String → Table → Option Table
  | [], _ => none
  | [key], t =>
    match Json.lookup key t with
    | none => some (Json.insert key value t)
    | some _ => none
  | key :: rest, t =>
    match Json.lookup key t with
    | none => (assign? value rest []).map fun u => Json.insert key (.table .dotted u) t
    | some (.table .dotted u) =>
      (assign? value rest u).map fun u => Json.insert key (.table .dotted u) t
    | some (.table .implied u) =>
      (assign? value rest u).map fun u => Json.insert key (.table .implied u) t
    | some _ => none

/-! ### Reading -/

def skipSpaces (s : List Char) : List Char :=
  s.dropWhile fun c => c == ' ' || c == '\t'

/-- A comment holds no control characters but tabs. -/
def skipComment? (s : List Char) : Option (List Char) :=
  match skipSpaces s with
  | '#' :: rest =>
    let body := (rest.takeWhile (· != '\n'))
    let body := if body.getLast? = some '\r' then body.dropLast else body
    if body.all (fun c => (c.toNat ≥ 0x20 && c.toNat ≠ 0x7f) || c == '\t') then
      some (rest.dropWhile (· != '\n'))
    else none
  | s => some s

/-- Skips spaces, comments and line ends. -/
def skipLines? : Nat → List Char → Option (List Char)
  | 0, _ => none
  | fuel + 1, s =>
    match skipComment? s with
    | some ('\n' :: rest) => skipLines? fuel rest
    | some ('\r' :: '\n' :: rest) => skipLines? fuel rest
    | other => other

/-- The rest after a line's end. -/
def endLine? (s : List Char) : Option (List Char) :=
  match skipComment? s with
  | some [] => some []
  | some ('\n' :: rest) => some rest
  | some ('\r' :: '\n' :: rest) => some rest
  | _ => none

def isPlain (c : Char) : Bool :=
  (c.toNat ≥ 0x20 && c.toNat ≠ 0x7f) || c == '\t'

def hexChar? (ds : List Char) : Option Char :=
  match ds.mapM Bytes.hexValue? with
  | none => none
  | some vs =>
    let n := vs.foldl (fun n v => 16 * n + v) 0
    if n < 0xd800 ∨ (0xe000 ≤ n ∧ n < 0x110000) then some (Char.ofNat n) else none

def simpleEscape? : Char → Option Char
  | 'b' => some '\x08'
  | 't' => some '\t'
  | 'n' => some '\n'
  | 'f' => some '\x0c'
  | 'r' => some '\r'
  | '"' => some '"'
  | '\\' => some '\\'
  | _ => none

/-- Reads the rest of a string in double quotes, over several lines or one. The characters read stand
reversed in `done`. Over several lines a backslash at a line's end joins the next text to it, and up
to two quotes may stand before the closing three. -/
def readBasic (many : Bool) : Nat → List Char → List Char → Option (String × List Char)
  | 0, _, _ => none
  | fuel + 1, done, s =>
    let close (extra : List Char) (rest : List Char) :=
      some (String.ofList (extra ++ done).reverse, rest)
    match s with
    | [] => none
    | '"' :: rest =>
      if !many then close [] rest
      else match rest with
        | '"' :: '"' :: '"' :: '"' :: rest => close ['"', '"'] rest
        | '"' :: '"' :: '"' :: rest => close ['"'] rest
        | '"' :: '"' :: rest => close [] rest
        | rest => readBasic many fuel ('"' :: done) rest
    | '\\' :: 'u' :: a :: b :: c :: d :: rest =>
      match hexChar? [a, b, c, d] with
      | some x => readBasic many fuel (x :: done) rest
      | none => none
    | '\\' :: 'U' :: a :: b :: c :: d :: e :: f :: g :: h :: rest =>
      match hexChar? [a, b, c, d, e, f, g, h] with
      | some x => readBasic many fuel (x :: done) rest
      | none => none
    | '\\' :: c :: rest =>
      match simpleEscape? c with
      | some x => readBasic many fuel (x :: done) rest
      | none =>
        let blank (c : Char) := c == ' ' || c == '\t' || c == '\r' || c == '\n'
        let gap := (c :: rest).takeWhile blank
        if many && gap.contains '\n' && (skipSpaces (c :: rest)).head? ∈ [some '\n', some '\r'] then
          readBasic many fuel done ((c :: rest).dropWhile blank)
        else none
    | '\r' :: '\n' :: rest => if many then readBasic many fuel ('\n' :: done) rest else none
    | c :: rest =>
      if isPlain c || (many && c == '\n') then readBasic many fuel (c :: done) rest else none

/-- Reads the rest of a string in single quotes, which has no escapes. -/
def readLiteral (many : Bool) : List Char → List Char → Option (String × List Char)
  | _, [] => none
  | done, '\'' :: rest =>
    if !many then some (String.ofList done.reverse, rest)
    else match rest with
      | '\'' :: '\'' :: '\'' :: '\'' :: rest => some (String.ofList ('\'' :: '\'' :: done).reverse, rest)
      | '\'' :: '\'' :: '\'' :: rest => some (String.ofList ('\'' :: done).reverse, rest)
      | '\'' :: '\'' :: rest => some (String.ofList done.reverse, rest)
      | rest => readLiteral many ('\'' :: done) rest
  | done, '\r' :: '\n' :: rest => if many then readLiteral many ('\n' :: done) rest else none
  | done, c :: rest =>
    if isPlain c || (many && c == '\n') then readLiteral many (c :: done) rest else none

def dropLineEnd : List Char → List Char
  | '\n' :: rest => rest
  | '\r' :: '\n' :: rest => rest
  | s => s

def readString? (s : List Char) : Option (String × List Char) :=
  match s with
  | '"' :: '"' :: '"' :: rest => readBasic true (rest.length + 1) [] (dropLineEnd rest)
  | '"' :: rest => readBasic false (rest.length + 1) [] rest
  | '\'' :: '\'' :: '\'' :: rest => readLiteral true [] (dropLineEnd rest)
  | '\'' :: rest => readLiteral false [] rest
  | _ => none

def isBare (c : Char) : Bool :=
  c.isAlphanum || c == '_' || c == '-'

def readName? (s : List Char) : Option (String × List Char) :=
  match s with
  | '"' :: rest => readBasic false (rest.length + 1) [] rest
  | '\'' :: rest => readLiteral false [] rest
  | s =>
    let bare := s.takeWhile isBare
    if bare.isEmpty then none else some (String.ofList bare, s.dropWhile isBare)

/-- Reads names joined by points. -/
def readKey? : Nat → List Char → Option (List String × List Char)
  | 0, _ => none
  | fuel + 1, s =>
    match readName? (skipSpaces s) with
    | none => none
    | some (name, rest) =>
      match skipSpaces rest with
      | '.' :: rest => (readKey? fuel rest).map fun (names, r) => (name :: names, r)
      | rest => some ([name], rest)

/-- Digits with single underscores between them. -/
def digits? (isDigit : Char → Bool) (s : List Char) : Option (List Char) :=
  let groups := Text.splitChars '_' s
  if groups.all (fun g => !g.isEmpty && g.all isDigit) then some groups.flatten else none

def natOf (base : Nat) (ds : List Char) : Nat :=
  ds.foldl (fun n c => base * n + ((Bytes.hexValue? c).getD 0)) 0

def readBased? (base : Nat) (s : List Char) : Option SettingValue :=
  match digits? (fun c => (Bytes.hexValue? c).any (· < base)) s with
  | none => none
  | some ds =>
    let n := natOf base ds
    if n ≤ Integer.i64Max then some (.int n) else none

def noLeadingZero : List Char → Bool
  | '0' :: _ :: _ => false
  | _ => true

/-- Reads a decimal integer or a number with a fraction or an exponent. -/
def readDecimal? (s : List Char) : Option SettingValue :=
  let (neg, body) := match s with
    | '-' :: rest => (true, rest)
    | '+' :: rest => (false, rest)
    | rest => (false, rest)
  match String.ofList body with
  | "inf" => some (.real (.infinite neg))
  | "nan" => some (.real .undefined)
  | _ =>
    let whole := body.takeWhile fun c => c.isDigit || c == '_'
    let rest := body.dropWhile fun c => c.isDigit || c == '_'
    match digits? Char.isDigit whole with
    | none => none
    | some ds =>
      if !noLeadingZero ds then none
      else if rest.isEmpty then
        let n := natOf 10 ds
        if neg then (if n ≤ Integer.i64Low then some (.int (-n)) else none)
        else if n ≤ Integer.i64Max then some (.int n) else none
      else
        let frac := match rest with
          | '.' :: r =>
            let f := r.takeWhile fun c => c.isDigit || c == '_'
            (digits? Char.isDigit f).map fun f' => ('.' :: f', r.drop f.length)
          | r => some ([], r)
        let power (r : List Char) : Option (List Char) := match r with
          | [] => some []
          | e :: r =>
            if e = 'e' ∨ e = 'E' then
              let (sign, r) := match r with
                | '-' :: r => (['-'], r)
                | '+' :: r => ([], r)
                | r => ([], r)
              (digits? Char.isDigit r).map fun ds => 'e' :: sign ++ ds
            else none
        match frac with
        | none => none
        | some (f, r) =>
          match power r with
          | none => none
          | some p =>
            match Binary64.readDecimal? ((if neg then ['-'] else []) ++ ds ++ f ++ p) with
            | some (some x) => some (.real (.finite x))
            | _ => none

def isDate : List Char → Bool
  | [a, b, c, d, '-', e, f, '-', g, h] => [a, b, c, d, e, f, g, h].all Char.isDigit
  | _ => false

/-- A time of day, with an optional fraction, and an offset where `zoned`. -/
def isTime (zoned : Bool) : List Char → Bool
  | a :: b :: ':' :: c :: d :: ':' :: e :: f :: rest =>
    let rest := match rest with
      | '.' :: r => if (r.head?.any Char.isDigit) then r.dropWhile Char.isDigit else '.' :: r
      | r => r
    [a, b, c, d, e, f].all Char.isDigit && (rest.isEmpty || (zoned && (match rest with
      | ['Z'] => true
      | ['z'] => true
      | [s, h, i, ':', m, n] => (s == '+' || s == '-') && [h, i, m, n].all Char.isDigit
      | _ => false)))
  | _ => false

def isMoment (s : List Char) : Bool :=
  isDate s || isTime false s ||
    (isDate (s.take 10) && (s.drop 10).head?.any (· ∈ ['T', 't', ' ']) && isTime true (s.drop 11))

/-- The value of a word that stands for itself. Moments are kept as text. -/
def readWord? (s : List Char) : Option SettingValue :=
  match s with
  | ['t', 'r', 'u', 'e'] => some (.bool true)
  | ['f', 'a', 'l', 's', 'e'] => some (.bool false)
  | '0' :: 'x' :: rest => readBased? 16 rest
  | '0' :: 'o' :: rest => readBased? 8 rest
  | '0' :: 'b' :: rest => readBased? 2 rest
  | s => if isMoment s then some (.text (String.ofList s)) else readDecimal? s

def isWord (c : Char) : Bool :=
  c.isAlphanum || c ∈ ['_', '-', '+', '.', ':']

/-- The characters of a word. A blank may stand between a day and a time. -/
def takeWord (s : List Char) : List Char × List Char :=
  let word := s.takeWhile isWord
  match s.dropWhile isWord with
  | ' ' :: r =>
    if isDate word && r.head?.any Char.isDigit then (word ++ ' ' :: r.takeWhile isWord, r.dropWhile isWord)
    else (word, ' ' :: r)
  | rest => (word, rest)

mutual

/-- Reads one value. Each call has a step less, so that a text of `n` characters is read within
`2 * n + 2` steps. -/
def readValue : Nat → List Char → Option (Toml × List Char)
  | 0, _ => none
  | fuel + 1, s =>
    match s with
    | '[' :: rest => (readItems fuel [] rest).map fun (items, r) => (.list items, r)
    | '{' :: rest =>
      match skipSpaces rest with
      | '}' :: r => some (.table .inline [], r)
      | _ => (readEntries fuel [] rest).map fun (t, r) => (.table .inline t, r)
    | '"' :: _ => (readString? s).map fun (t, r) => (.leaf (.text t), r)
    | '\'' :: _ => (readString? s).map fun (t, r) => (.leaf (.text t), r)
    | s =>
      let (word, rest) := takeWord s
      (readWord? word).map fun v => (.leaf v, rest)

def readItems : Nat → List Toml → List Char → Option (List Toml × List Char)
  | 0, _, _ => none
  | fuel + 1, done, s =>
    match skipLines? (s.length + 1) s with
    | some (']' :: rest) => some (done.reverse, rest)
    | some s =>
      match readValue fuel s with
      | none => none
      | some (v, r) =>
        match skipLines? (r.length + 1) r with
        | some (',' :: r) => readItems fuel (v :: done) r
        | some (']' :: r) => some ((v :: done).reverse, r)
        | _ => none
    | none => none

def readEntries : Nat → Table → List Char → Option (Table × List Char)
  | 0, _, _ => none
  | fuel + 1, t, s =>
    match readKey? (s.length + 1) s with
    | some (names, '=' :: r) =>
      match readValue fuel (skipSpaces r) with
      | none => none
      | some (v, r) =>
        match assign? v names t with
        | none => none
        | some t =>
          match skipSpaces r with
          | ',' :: r => readEntries fuel t r
          | '}' :: r => some (t, r)
          | _ => none
    | _ => none

end

/-- Reads the lines of a document, with the names of the header that they stand under. -/
def readLines : Nat → List String → Table → List Char → Option Table
  | 0, _, _, _ => none
  | fuel + 1, header, t, s =>
    match skipLines? (s.length + 1) s with
    | none => none
    | some [] => some t
    | some ('[' :: '[' :: rest) =>
      match readKey? (rest.length + 1) rest with
      | some (names, ']' :: ']' :: r) =>
        match endLine? r, within? (openItem? (names.getLast?.getD "")) names.dropLast t with
        | some r, some t => readLines fuel names t r
        | _, _ => none
      | _ => none
    | some ('[' :: rest) =>
      match readKey? (rest.length + 1) rest with
      | some (names, ']' :: r) =>
        match endLine? r, within? (openTable? (names.getLast?.getD "")) names.dropLast t with
        | some r, some t => readLines fuel names t r
        | _, _ => none
      | _ => none
    | some s =>
      match readKey? (s.length + 1) s with
      | some (names, '=' :: r) =>
        match readValue (2 * r.length + 2) (skipSpaces r) with
        | none => none
        | some (v, r) =>
          match endLine? r, within? (assign? v names) header t with
          | some r, some t => readLines fuel header t r
          | _, _ => none
      | _ => none

mutual

def toValue : Toml → SettingValue
  | leaf v => v
  | list items => .list (itemValues items)
  | table _ fields => .table (fieldValues fields)
  | tables latest earlier => .list (tableValues earlier ++ [.table (fieldValues latest)])

def itemValues : List Toml → List SettingValue
  | [] => []
  | t :: rest => toValue t :: itemValues rest

def fieldValues : List (String × Toml) → SettingValue.Fields
  | [] => []
  | (name, t) :: rest => (name, toValue t) :: fieldValues rest

def tableValues : List (List (String × Toml)) → List SettingValue
  | [] => []
  | t :: rest => .table (fieldValues t) :: tableValues rest

end

def parse? (text : String) : Option SettingValue.Fields :=
  let s := text.toList
  (readLines (s.length + 1) [] [] s).map fieldValues

end Toml

end ServiceKit
