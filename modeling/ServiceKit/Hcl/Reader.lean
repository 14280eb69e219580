import ServiceKit.Hcl.Printer
import ServiceKit.Text.Blank
import ServiceKit.Text.Letters

namespace ServiceKit.Hcl

def isIdentStart (c : Char) : Bool :=
  Text.isNameStart c || c == '_'

def isIdentRest (c : Char) : Bool :=
  Text.isNameChar c || c == '-'

def readIdent (s : List Char) : Option (String × List Char) :=
  match s with
  | c :: _ =>
    if isIdentStart c then
      some (String.ofList (s.takeWhile isIdentRest), s.dropWhile isIdentRest)
    else none
  | [] => none

/-- Where a gap stands: between words, in a comment up to the line's end, or in one with an end mark
of its own. -/
inductive Gap where
  | blank
  | line
  | block

/-- Skips spaces and closed comments, and, if lines may end here, line ends and the comments before
them. A comment that is not closed is refused. -/
def skip (lines : Bool) : Gap → List Char → Option (List Char)
  | .blank, ' ' :: r => skip lines .blank r
  | .blank, '\t' :: r => skip lines .blank r
  | .blank, '/' :: '*' :: r => skip lines .block r
  | .blank, '\n' :: r => if lines then skip lines .blank r else some ('\n' :: r)
  | .blank, '\r' :: '\n' :: r => if lines then skip lines .blank r else some ('\r' :: '\n' :: r)
  | .blank, '#' :: r => if lines then skip lines .line r else some ('#' :: r)
  | .blank, '/' :: '/' :: r => if lines then skip lines .line r else some ('/' :: '/' :: r)
  | .blank, r => some r
  | .line, '\n' :: r => skip lines .blank r
  | .line, _ :: r => skip lines .line r
  | .line, [] => some []
  | .block, '*' :: '/' :: r => skip lines .blank r
  | .block, _ :: r => skip lines .block r
  | .block, [] => none

def gap (lines : Bool) (s : List Char) : Option (List Char) :=
  skip lines .blank s

/-- Leaves out a comment that the line's end closes. -/
def dropComment (s : List Char) : List Char :=
  match s with
  | '#' :: _ => s.dropWhile (· ≠ '\n')
  | '/' :: '/' :: _ => s.dropWhile (· ≠ '\n')
  | s => s

/-- Reads the end of a line, with a comment before it; the end of the text counts as one. -/
def endLine (s : List Char) : Option (List Char) := do
  let s ← gap false s
  match dropComment s with
  | [] => some []
  | '\n' :: r => some r
  | '\r' :: '\n' :: r => some r
  | _ => none

/-- The digits after a point, if there are any. -/
def readFraction (s : List Char) : List Char × List Char :=
  match s with
  | '.' :: r =>
    let ds := r.takeWhile Char.isDigit
    if ds.isEmpty then ([], s) else (ds, r.dropWhile Char.isDigit)
  | s => ([], s)

/-- The power of ten in an exponent, if there is one. -/
def readPower (s : List Char) : Option Int × List Char :=
  match s with
  | e :: r =>
    if e = 'e' ∨ e = 'E' then
      let (down, r) := match r with
        | '-' :: r => (true, r)
        | '+' :: r => (false, r)
        | r => (false, r)
      let ds := r.takeWhile Char.isDigit
      if ds.isEmpty then (none, s)
      else
        let n : Int := Integer.ofDigits ds
        (some (if down then -n else n), r.dropWhile Char.isDigit)
    else (none, s)
  | [] => (none, [])

/-- Reads a number. Whole numbers have at most 64 bits; a number with a fraction or an exponent must
be finite. -/
def readNumber (s : List Char) : Option (Number × List Char) :=
  let whole := s.takeWhile Char.isDigit
  if whole.isEmpty then none
  else
    let (frac, r) := readFraction (s.dropWhile Char.isDigit)
    let (power, r) := readPower r
    if frac.isEmpty && power.isNone then
      let n := Integer.ofDigits whole
      if n ≤ Integer.u64Max then some (.int n, r) else none
    else
      (Binary64.ofDecimal? false (Integer.ofDigits (whole ++ frac)) (power.getD 0 - frac.length)).map
        fun x => (numberOfDecimal x, r)

def operators : List String :=
  ["==", "!=", "<=", ">=", "&&", "||", "<", ">", "+", "-", "*", "/", "%"]

/-- A comment is no division. -/
def readOperator (s : List Char) : Option (String × List Char) :=
  match s with
  | '/' :: '/' :: _ => none
  | s =>
    operators.findSome? fun op =>
      let cs := op.toList
      if cs.isPrefixOf s then some (op, s.drop cs.length) else none

def readHex (n : Nat) (s : List Char) : Option (Char × List Char) :=
  let ds := s.take n
  if ds.length = n ∧ ds.all fun c => (Integer.digitValue? 16 c).isSome then
    let v := ds.foldl (fun v c => 16 * v + (Integer.digitValue? 16 c).getD 0) 0
    if v.isValidChar then some (Char.ofNat v, s.drop n) else none
  else none

def readEscape (s : List Char) : Option (Char × List Char) :=
  match s with
  | 'n' :: r => some ('\n', r)
  | 'r' :: r => some ('\r', r)
  | 't' :: r => some ('\t', r)
  | '\\' :: r => some ('\\', r)
  | '"' :: r => some ('"', r)
  | '/' :: r => some ('/', r)
  | 'b' :: r => some ('\x08', r)
  | 'f' :: r => some ('\x0c', r)
  | 'u' :: r => readHex 4 r
  | 'U' :: r => readHex 8 r
  | _ => none

/-- A part of a quoted text: characters, or an interpolation or a directive as it is written. -/
inductive Piece where
  | text (cs : List Char)
  | markup (source : List Char)

/-- Text without markup is a string; with markup it stays as it is written. -/
def exprOfPieces (pieces : List Piece) : Expr :=
  if pieces.all fun | .text _ => true | .markup _ => false then
    .str (String.ofList (pieces.flatMap fun | .text cs => cs | .markup _ => []))
  else
    .template (String.ofList (pieces.flatMap fun | .text cs => escapeText cs | .markup m => m))

def addChar (c : Char) : List Piece → List Piece
  | .text cs :: ps => .text (c :: cs) :: ps
  | ps => .text [c] :: ps

/-- The characters between a place in a text and a later one. -/
def between (s later : List Char) : List Char :=
  s.take (s.length - later.length)

def isMargin (c : Char) : Bool :=
  c == ' ' || c == '\t'

/-- Removes the spaces that all lines start with. -/
def dedent (lines : List (List Char)) : List (List Char) :=
  let width (l : List Char) : Nat := (l.takeWhile isMargin).length
  match (lines.map width).min? with
  | some n => lines.map (List.drop n)
  | none => lines

/-- Reads lines up to the one that holds the marker alone. -/
def readHeredocLines (marker : List Char) : List (List Char) → Option (List (List Char) × List (List Char))
  | [] => none
  | l :: ls =>
    let bare := (l.dropWhile isMargin).filter (· ≠ '\r')
    if bare = marker then some ([], ls)
    else (readHeredocLines marker ls).map fun (body, rest) => (l :: body, rest)

def joinLines (ls : List (List Char)) : List Char :=
  ['\n'].intercalate ls

def readNewline : List Char → Option (List Char)
  | '\n' :: r => some r
  | '\r' :: '\n' :: r => some r
  | _ => none

/-- A sign that may stand in front, and whether it does. -/
def readSign (sign s : List Char) : Bool × List Char :=
  match Text.dropLead? sign s with
  | some r => (true, r)
  | none => (false, s)

/-- The text of a heredoc and what follows its end marker. -/
def readHeredoc (s : List Char) : Option (List Char × List Char) := do
  let (indented, s) := readSign ['-'] s
  let (marker, s) ← readIdent s
  let s ← readNewline s
  let (body, rest) ← readHeredocLines marker.toList (Text.splitChars '\n' s)
  let body := if indented then dedent body else body
  let text := body.flatMap (· ++ ['\n'])
  some (text, if rest.isEmpty then [] else '\n' :: joinLines rest)

/-- The mark between the key and the value of an object's item. -/
def readAssign : List Char → Option (List Char)
  | '=' :: r => some r
  | ':' :: r => some r
  | _ => none

/-- What stands between two items of an object, a comma or the end of the line; after the last one
nothing needs to. -/
def readItemEnd (s : List Char) : Option (List Char) := do
  match ← gap false s with
  | ',' :: r => gap true r
  | '}' :: r => some ('}' :: r)
  | s => (endLine s).bind (gap true)

/-- The second name of a comprehension, if a comma is there to announce it. -/
def readSecondName (s : List Char) : Option (Option String × List Char) :=
  match s with
  | ',' :: r => do
    let (name, r) ← readIdent (← gap true r)
    some (some name, r)
  | s => some (none, s)

/-- The names that a comprehension gives to keys and values, or to values alone, and the word that
follows them. -/
def readForNames (s : List Char) : Option (Option String × String × List Char) := do
  let (first, r) ← readIdent (← gap true s)
  let (second, r) ← readSecondName (← gap true r)
  let (word, r) ← readIdent (← gap true r)
  if word ≠ "in" then none else some (second.map fun _ => first, second.getD first, r)

/-- The brace that ends an interpolation or a directive. -/
def readMarkupEnd (s : List Char) : Option (List Char) := do
  let r ← gap true s
  match (readSign ['~'] r).2 with
  | '}' :: r => some r
  | _ => none

mutual

/-- Reads an expression; `lines` tells whether lines may end between its parts. Each call has a step
less. -/
def readExpr (lines : Bool) : Nat → List Char → Option (Expr × List Char)
  | 0, _ => none
  | fuel + 1, s => do
    let (e, r) ← readOperand lines fuel s
    let (e, r) ← readChain lines fuel e r
    match ← gap lines r with
    | '?' :: r =>
      let (yes, r) ← readExpr lines fuel (← gap lines r)
      match ← gap lines r with
      | ':' :: r =>
        let (no, r) ← readExpr lines fuel (← gap lines r)
        some (.conditional e yes no, r)
      | _ => none
    | _ => some (e, r)

/-- Reads operators and operands after the first. -/
def readChain (lines : Bool) : Nat → Expr → List Char → Option (Expr × List Char)
  | 0, _, _ => none
  | fuel + 1, e, s => do
    match readOperator (← gap lines s) with
    | none => some (e, s)
    | some (op, r) =>
      let (right, r) ← readOperand lines fuel (← gap lines r)
      readChain lines fuel (.binary e op right) r

def readOperand (lines : Bool) : Nat → List Char → Option (Expr × List Char)
  | 0, _ => none
  | fuel + 1, s =>
    match s with
    | '!' :: r => do
      let (e, r) ← readOperand lines fuel (← gap lines r)
      some (.unary .not e, r)
    | '-' :: r => do
      let (e, r) ← readOperand lines fuel (← gap lines r)
      match e with
      | .num n => some (.num (negate n), r)
      | e => some (.unary .minus e, r)
    | s => do
      let (e, r) ← readTerm lines fuel s
      readAccess lines fuel e r

/-- Reads what follows a term: attributes, indices and splats. -/
def readAccess (lines : Bool) : Nat → Expr → List Char → Option (Expr × List Char)
  | 0, _, _ => none
  | fuel + 1, e, s => do
    match ← gap lines s with
    | '.' :: '*' :: r => readAccess lines fuel (.attrSplat e) r
    | '.' :: '.' :: _ => some (e, s)
    | '.' :: r =>
      let digits := r.takeWhile Char.isDigit
      if digits.isEmpty then
        let (name, r) ← readIdent r
        readAccess lines fuel (.attr e name) r
      else readAccess lines fuel (.legacyIndex e (Integer.ofDigits digits)) (r.dropWhile Char.isDigit)
    | '[' :: r =>
      match ← gap true r with
      | '*' :: r =>
        match ← gap true r with
        | ']' :: r => readAccess lines fuel (.fullSplat e) r
        | _ => none
      | r =>
        let (key, r) ← readExpr true fuel r
        match ← gap true r with
        | ']' :: r => readAccess lines fuel (.index e key) r
        | _ => none
    | _ => some (e, s)

def readTerm (lines : Bool) : Nat → List Char → Option (Expr × List Char)
  | 0, _ => none
  | fuel + 1, s =>
    match s with
    | '"' :: r => do
      let (pieces, r) ← readPieces true fuel r
      some (exprOfPieces pieces, r)
    | '<' :: '<' :: r => do
      let (text, rest) ← readHeredoc r
      let (pieces, _) ← readPieces false fuel text
      if pieces.all fun | .text _ => true | .markup _ => false then
        some (.str (String.ofList text), rest)
      else some (.template (String.ofList text), rest)
    | '(' :: r => do
      let (e, r) ← readExpr true fuel (← gap true r)
      match ← gap true r with
      | ')' :: r => some (.paren e, r)
      | _ => none
    | '[' :: r => do
      let r ← gap true r
      match readForHead fuel r with
      | some (key, value, items, r) =>
        let (body, r) ← readExpr true fuel (← gap true r)
        let (test, r) ← readForTest fuel (← gap true r)
        match ← gap true r with
        | ']' :: r => some (.forList key value items body test, r)
        | _ => none
      | none =>
        let (items, _, r) ← readSequence ']' fuel r
        some (.array items, r)
    | '{' :: r => do
      let r ← gap true r
      match readForHead fuel r with
      | some (key, value, items, r) =>
        let (name, r) ← readExpr true fuel (← gap true r)
        match ← gap true r with
        | '=' :: '>' :: r =>
          let (body, r) ← readExpr true fuel (← gap true r)
          let (group, r) := readSign ['.', '.', '.'] (← gap true r)
          let (test, r) ← readForTest fuel (← gap true r)
          match ← gap true r with
          | '}' :: r => some (.forObject key value items name body group test, r)
          | _ => none
        | _ => none
      | none =>
        let (items, r) ← readObject fuel r
        some (.object items, r)
    | c :: _ =>
      if c.isDigit then (readNumber s).map fun (n, r) => (.num n, r)
      else do
        let (name, r) ← readIdent s
        let (name, r) ← readNamespaced fuel name r
        match ← gap lines r with
        | '(' :: r' =>
          let (args, expand, r') ← readSequence ')' fuel (← gap true r')
          some (.call name args expand, r')
        | _ =>
          match name with
          | "true" => some (.bool true, r)
          | "false" => some (.bool false, r)
          | "null" => some (.null, r)
          | name => some (.variable name, r)
    | [] => none

/-- Reads the further parts of a function's name. -/
def readNamespaced : Nat → String → List Char → Option (String × List Char)
  | 0, _, _ => none
  | fuel + 1, name, s =>
    match s with
    | ':' :: ':' :: r => do
      let (part, r) ← readIdent r
      readNamespaced fuel (name ++ "::" ++ part) r
    | s => some (name, s)

/-- Reads expressions with commas between them, and the closing mark. After the last one there may
be a comma, or three points in a call. -/
def readSequence (close : Char) : Nat → List Char → Option (List Expr × Bool × List Char)
  | 0, _ => none
  | fuel + 1, s =>
    match s with
    | c :: r =>
      if c = close then some ([], false, r)
      else do
        let (e, r) ← readExpr true fuel s
        match ← gap true r with
        | ',' :: r =>
          let (es, expand, r) ← readSequence close fuel (← gap true r)
          some (e :: es, expand, r)
        | '.' :: '.' :: '.' :: r =>
          match ← gap true r with
          | d :: r => if d = close ∧ close = ')' then some ([e], true, r) else none
          | [] => none
        | d :: r => if d = close then some ([e], false, r) else none
        | [] => none
    | [] => none

/-- Reads the items of an object: a key, an equals sign or a colon, and a value. A comma or the end
of the line stands between two items. -/
def readObject : Nat → List Char → Option (List (Expr × Expr) × List Char)
  | 0, _ => none
  | fuel + 1, s =>
    match s with
    | '}' :: r => some ([], r)
    | s => do
      let (key, r) ← readExpr false fuel s
      let r ← readAssign (← gap true r)
      let (value, r) ← readExpr false fuel (← gap true r)
      let r ← readItemEnd r
      let (items, r) ← readObject fuel r
      some ((key, value) :: items, r)

/-- Reads the names and the collection that a comprehension runs over, up to the colon. -/
def readForHead : Nat → List Char → Option (Option String × String × Expr × List Char)
  | 0, _ => none
  | fuel + 1, s => do
    let (word, r) ← readIdent s
    if word ≠ "for" then none
    else
      let (key, value, r) ← readForNames r
      let (items, r) ← readExpr true fuel (← gap true r)
      match ← gap true r with
      | ':' :: r => some (key, value, items, r)
      | _ => none

def readForTest : Nat → List Char → Option (Option Expr × List Char)
  | 0, _ => none
  | fuel + 1, s =>
    match readIdent s with
    | some ("if", r) => do
      let (e, r) ← readExpr true fuel (← gap true r)
      some (some e, r)
    | _ => some (none, s)

/-- Reads the pieces of a quoted text up to its closing quote, or of a text without quotes and
escapes up to its end. -/
def readPieces (quoted : Bool) : Nat → List Char → Option (List Piece × List Char)
  | 0, _ => none
  | fuel + 1, s =>
    match s with
    | [] => if quoted then none else some ([], [])
    | '$' :: '$' :: '{' :: r => do
      let (ps, r) ← readPieces quoted fuel r
      some (addChar '$' (addChar '{' ps), r)
    | '%' :: '%' :: '{' :: r => do
      let (ps, r) ← readPieces quoted fuel r
      some (addChar '%' (addChar '{' ps), r)
    | '$' :: '{' :: r => do
      let r ← readInterpolation fuel r
      let (ps, r') ← readPieces quoted fuel r
      some (.markup (between s r) :: ps, r')
    | '%' :: '{' :: r => do
      let r ← readDirective fuel r
      let (ps, r') ← readPieces quoted fuel r
      some (.markup (between s r) :: ps, r')
    | c :: r =>
      if quoted && c == '"' then some ([], r)
      else if quoted && c == '\\' then do
        let (e, r) ← readEscape r
        let (ps, r) ← readPieces quoted fuel r
        some (addChar e ps, r)
      else do
        let (ps, r) ← readPieces quoted fuel r
        some (addChar c ps, r)

/-- Skips an expression and the brace that ends an interpolation; a tilde may stand inside either
brace. -/
def readInterpolation : Nat → List Char → Option (List Char)
  | 0, _ => none
  | fuel + 1, s => do
    let (_, r) ← readExpr true fuel (← gap true (readSign ['~'] s).2)
    readMarkupEnd r

/-- Skips the word of a directive and what belongs to it. -/
def readDirective : Nat → List Char → Option (List Char)
  | 0, _ => none
  | fuel + 1, s => do
    let (word, r) ← readIdent (← gap true (readSign ['~'] s).2)
    match word with
    | "if" =>
      let (_, r) ← readExpr true fuel (← gap true r)
      readMarkupEnd r
    | "for" =>
      let (_, _, r) ← readForNames r
      let (_, r) ← readExpr true fuel (← gap true r)
      readMarkupEnd r
    | "else" => readMarkupEnd r
    | "endif" => readMarkupEnd r
    | "endfor" => readMarkupEnd r
    | _ => none

end

/-- A quoted label stands as it is written if it has markup. -/
def labelOf? : Expr → Option String
  | .str s => some s
  | .template s => some s
  | _ => none

/-- Reads the labels of a block: words and quoted texts. -/
def readLabels : Nat → List Char → Option (List String × List Char)
  | 0, _ => none
  | fuel + 1, s => do
    match ← gap false s with
    | '"' :: r =>
      let (pieces, r) ← readPieces true fuel r
      let label ← labelOf? (exprOfPieces pieces)
      let (labels, r) ← readLabels fuel r
      some (label :: labels, r)
    | s =>
      match readIdent s with
      | some (label, r) =>
        let (labels, r) ← readLabels fuel r
        some (label :: labels, r)
      | none => some ([], s)

/-- The names of attributes that a body has already. -/
abbrev Seen := List String

mutual

/-- Reads attributes and blocks, each ended by the end of its line, up to the text's end or, inside a
block, its closing brace. The same attribute twice is refused. -/
def readItems (inner : Bool) : Nat → Seen → List Char → Option (Body × List Char)
  | 0, _, _ => none
  | fuel + 1, seen, s => do
    let s ← gap true s
    match s with
    | [] => if inner then none else some ([], [])
    | '}' :: r => if inner then some ([], r) else none
    | s =>
      let (item, r) ← readItem fuel s
      let r ← endLine r
      match item with
      | .attr name _ =>
        if seen.contains name then none
        else
          let (items, r) ← readItems inner fuel (name :: seen) r
          some (item :: items, r)
      | .block .. =>
        let (items, r) ← readItems inner fuel seen r
        some (item :: items, r)

def readItem : Nat → List Char → Option (Item × List Char)
  | 0, _ => none
  | fuel + 1, s => do
    let (name, r) ← readIdent s
    match ← gap false r with
    | '=' :: r =>
      let (value, r) ← readExpr false fuel (← gap false r)
      some (.attr name value, r)
    | r =>
      let (labels, r) ← readLabels fuel r
      match ← gap false r with
      | '{' :: r =>
        let (body, r) ← readBlockBody fuel r
        some (.block name labels body, r)
      | _ => none

/-- After its opening brace a block is empty, holds one attribute on the same line, or goes on in the
lines that follow. -/
def readBlockBody : Nat → List Char → Option (Body × List Char)
  | 0, _ => none
  | fuel + 1, s => do
    match ← gap false s with
    | '}' :: r => some ([], r)
    | s =>
      match endLine s with
      | some r => if s.isEmpty then none else readItems true fuel [] r
      | none =>
        let (name, r) ← readIdent s
        match ← gap false r with
        | '=' :: r =>
          let (value, r) ← readExpr false fuel (← gap false r)
          match ← gap false r with
          | '}' :: r => some ([.attr name value], r)
          | _ => none
        | _ => none

end

/-- Reads a document. -/
def parse? (text : String) : Option Body :=
  let s := text.toList
  (readItems false (16 * s.length + 16) [] s).map Prod.fst

end ServiceKit.Hcl
