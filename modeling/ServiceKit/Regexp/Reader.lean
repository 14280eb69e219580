import ServiceKit.Number.Integer
import ServiceKit.Regexp.Property
import ServiceKit.Text.Bytes

namespace ServiceKit.Regexp

/-- How the characters of a pattern are taken: without regard to case, with lines as texts of their
own, with a point that also stands for a line's end, with lines that may end in a carriage return, with
blanks left out. -/
structure Flags where
  anyCase : Bool := false
  lines : Bool := false
  dotAll : Bool := false
  returns : Bool := false
  spaced : Bool := false
deriving Repr

/-- What is known while a pattern is read: the flags, and the names given to groups. -/
structure Reading where
  flags : Flags := {}
  names : List String := []

def Reading.literal (st : Reading) (s : CharSet) : CharSet :=
  if st.flags.anyCase then s.anyCase else s

/-- Leaves out blanks and comments where the flags say so. -/
def skip (st : Reading) : Nat → List Char → List Char
  | 0, s => s
  | fuel + 1, s =>
    if !st.flags.spaced then s
    else match s with
      | '#' :: rest => skip st fuel (rest.dropWhile (· != '\n'))
      | c :: rest => if Text.isBlank c then skip st fuel rest else s
      | [] => []

def charOf? (n : Nat) : Option Char :=
  if n < 0xd800 ∨ (0xe000 ≤ n ∧ n < 0x110000) then some (Char.ofNat n) else none

def hexValue? (ds : List Char) : Option Char :=
  if ds.isEmpty then none
  else (ds.mapM Bytes.hexValue?).bind fun vs => charOf? (vs.foldl (fun n v => 16 * n + v) 0)

/-- A character by its number: in braces, or with the given count of digits. -/
def readHex? (count : Nat) (s : List Char) : Option (Char × List Char) :=
  match s with
  | '{' :: rest =>
    match rest.dropWhile (· != '}') with
    | _ :: after => (hexValue? (rest.takeWhile (· != '}'))).map (·, after)
    | [] => none
  | s => if s.length < count then none else (hexValue? (s.take count)).map (·, s.drop count)

/-- A backslash before an ASCII character that is neither letter nor digit nor angle bracket stands
for the character. -/
def isEscapable (c : Char) : Bool :=
  c.toNat < 0x80 && !c.isAlphanum && c != '<' && c != '>'

/-- The single character that an escape stands for. -/
def readEscapedChar? (s : List Char) : Option (Char × List Char) :=
  match s with
  | 'a' :: rest => some ('\x07', rest)
  | 'f' :: rest => some ('\x0c', rest)
  | 't' :: rest => some ('\t', rest)
  | 'n' :: rest => some ('\n', rest)
  | 'r' :: rest => some ('\r', rest)
  | 'v' :: rest => some ('\x0b', rest)
  | 'x' :: rest => readHex? 2 rest
  | 'u' :: rest => readHex? 4 rest
  | 'U' :: rest => readHex? 8 rest
  | c :: rest => if isEscapable c then some (c, rest) else none
  | [] => none

/-- The class that a letter stands for after a backslash. -/
def letterClass? : Char → Option CharSet
  | 'd' => some .digit
  | 'D' => some (.not .digit)
  | 's' => some .blank
  | 'S' => some (.not .blank)
  | 'w' => some .word
  | 'W' => some (.not .word)
  | _ => none

/-- The named classes hold ASCII characters. -/
def namedClass? (name : String) : Option CharSet :=
  let r := CharSet.range
  match name with
  | "alnum" => some (.either (r '0' '9') (.either (r 'A' 'Z') (r 'a' 'z')))
  | "alpha" => some (.either (r 'A' 'Z') (r 'a' 'z'))
  | "ascii" => some (r '\x00' '\x7f')
  | "blank" => some (.either (.one ' ') (.one '\t'))
  | "cntrl" => some (.either (r '\x00' '\x1f') (.one '\x7f'))
  | "digit" => some (r '0' '9')
  | "graph" => some (r '!' '~')
  | "lower" => some (r 'a' 'z')
  | "print" => some (r ' ' '~')
  | "punct" => some (.either (r '!' '/') (.either (r ':' '@') (.either (r '[' (Char.ofNat 96)) (r '\x7b' '~'))))
  | "space" => some (.either (r '\t' '\r') (.one ' '))
  | "upper" => some (r 'A' 'Z')
  | "word" => some (.either (r '0' '9') (.either (r 'A' 'Z') (.either (r 'a' 'z') (.one '_'))))
  | "xdigit" => some (.either (r '0' '9') (.either (r 'A' 'F') (r 'a' 'f')))
  | _ => none

/-- One member of a class: a character or a set. -/
inductive ClassItem where
  | char (c : Char)
  | set (s : CharSet)

def ClassItem.toSet : ClassItem → CharSet
  | char c => .one c
  | set s => s

def readNegation (s : List Char) : Bool × List Char :=
  match s with
  | '^' :: rest => (true, rest)
  | s => (false, s)

/-- Reads a named class after its opening bracket. -/
def readNamed? (s : List Char) : Option (CharSet × List Char) :=
  match s with
  | ':' :: s =>
    let (neg, s) := readNegation s
    let name := s.takeWhile Char.isAlpha
    match s.dropWhile Char.isAlpha with
    | ':' :: ']' :: rest =>
      (namedClass? (String.ofList name)).map fun set => (if neg then .not set else set, rest)
    | _ => none
  | _ => none

/-- Reads a property after its letter: in braces, or a single letter. -/
def readProperty? (st : Reading) (s : List Char) : Option (CharSet × List Char) :=
  match skip st s.length s with
  | '{' :: rest =>
    match rest.dropWhile (· != '}') with
    | _ :: after => (property? (rest.takeWhile (· != '}'))).map (·, after)
    | [] => none
  | c :: rest => if c = '\\' then none else (category? (looseName [c])).map (·, rest)
  | [] => none

/-- The class that follows a backslash, if one does. -/
def readEscapedSet? (st : Reading) (s : List Char) : Option (CharSet × List Char) :=
  match s with
  | 'p' :: rest => (readProperty? st rest).map fun (set, rest) => (st.literal set, rest)
  | 'P' :: rest => (readProperty? st rest).map fun (set, rest) => (.not (st.literal set), rest)
  | c :: rest => (letterClass? c).map (·, rest)
  | [] => none

def readClassItem? (st : Reading) (s : List Char) : Option (ClassItem × List Char) :=
  match s with
  | '\\' :: rest =>
    match readEscapedSet? st rest with
    | some (set, rest) => some (.set set, rest)
    | none => (readEscapedChar? rest).map fun (c, r) => (.char c, r)
  | c :: rest => some (.char c, rest)
  | [] => none

/-- How two parts of a class are combined. -/
inductive SetOp where
  | meet
  | minus
  | differ

def SetOp.apply (op : Option SetOp) (s t : CharSet) : CharSet :=
  match op with
  | none => t
  | some .meet => .both s t
  | some .minus => .both s (.not t)
  | some .differ => .either (.both s (.not t)) (.both t (.not s))

/-- Hyphens at the start of a class stand for themselves. -/
def readHyphens (st : Reading) : Nat → CharSet → List Char → CharSet × List Char
  | 0, set, s => (set, s)
  | fuel + 1, set, s =>
    match skip st s.length s with
    | '-' :: rest => readHyphens st fuel (.either set (.one '-')) rest
    | s => (set, s)

/-- A closing bracket that nothing stands before stands for itself. -/
def readFirst (st : Reading) (set : CharSet) (s : List Char) : CharSet × List Char :=
  match set, skip st s.length s with
  | .none, ']' :: rest => (.one ']', rest)
  | set, s => (set, s)

mutual

/-- Reads a class after its opening bracket. -/
def readClass : Nat → Reading → List Char → Option (CharSet × List Char)
  | 0, _, _ => none
  | fuel + 1, st, s =>
    let (neg, s) := readNegation (skip st s.length s)
    let (start, s) := readHyphens st s.length .none (skip st s.length s)
    let (start, s) := readFirst st start s
    (readMembers fuel st none .none start s).map fun (set, rest) =>
      (if neg then .not set else set, rest)

/-- Reads members up to the closing bracket. The parts before the last operator stand in `done`. -/
def readMembers : Nat → Reading → Option SetOp → CharSet → CharSet → List Char →
    Option (CharSet × List Char)
  | 0, _, _, _, _, _ => none
  | fuel + 1, st, op, done, here, s =>
    let joined := SetOp.apply op done (st.literal here)
    match skip st s.length s with
    | [] => none
    | ']' :: rest => some (joined, rest)
    | '&' :: '&' :: rest => readMembers fuel st (some .meet) joined .none rest
    | '-' :: '-' :: rest => readMembers fuel st (some .minus) joined .none rest
    | '~' :: '~' :: rest => readMembers fuel st (some .differ) joined .none rest
    | '[' :: rest =>
      match readNamed? rest with
      | some (set, rest) => readMembers fuel st op done (.either here set) rest
      | none =>
        match readClass fuel st rest with
        | some (set, rest) => readMembers fuel st op done (.either here set) rest
        | none => none
    | s =>
      match readClassItem? st s with
      | none => none
      | some (item, rest) =>
        match skip st rest.length rest with
        | '-' :: after =>
          match skip st after.length after with
          | ']' :: _ => readMembers fuel st op done (.either here item.toSet) ('-' :: after)
          | '-' :: _ => readMembers fuel st op done (.either here item.toSet) ('-' :: after)
          | after =>
            match item, readClassItem? st after with
            | .char low, some (.char high, rest) =>
              if low ≤ high then readMembers fuel st op done (.either here (.range low high)) rest
              else none
            | _, _ => none
        | rest => readMembers fuel st op done (.either here item.toSet) rest

end

def digitsValue? (ds : List Char) : Option Nat :=
  if ds.isEmpty || !ds.all Char.isDigit then none
  else
    let n := Integer.ofDigits ds
    if n ≤ Integer.u32Max then some n else none

/-- The bounds of a repetition, of which the least must be given; none above means that there is no
limit. -/
def readBounds? (s : List Char) : Option (Nat × Option Nat × List Char) :=
  let body := s.takeWhile (· != '}')
  match s.dropWhile (· != '}') with
  | [] => none
  | _ :: rest =>
    let trim := Text.trimChars
    match Text.splitChars ',' body with
    | [n] => (digitsValue? (trim n)).map fun n => (n, some n, rest)
    | [n, m] =>
      match digitsValue? (trim n) with
      | none => none
      | some least =>
        if (trim m).isEmpty then some (least, none, rest)
        else match digitsValue? (trim m) with
          | some most => if least ≤ most then some (least, some most, rest) else none
          | none => none
    | _ => none

def endsFlags (c : Char) : Bool :=
  c == ')' || c == ':'

/-- Reads flags up to a colon or the closing parenthesis. A hyphen turns those behind it off, of which
there must be one. Which of two repetitions is tried first makes no difference to a match. -/
def readFlags? (on : Bool) (seen : List Char) (f : Flags) : List Char → Option (Flags × List Char)
  | [] => none
  | '-' :: rest => if on && !rest.head?.any endsFlags then readFlags? false seen f rest else none
  | c :: rest =>
    if endsFlags c then some (f, c :: rest)
    else if seen.contains c then none
    else match c with
      | 'i' => readFlags? on (c :: seen) { f with anyCase := on } rest
      | 'm' => readFlags? on (c :: seen) { f with lines := on } rest
      | 's' => readFlags? on (c :: seen) { f with dotAll := on } rest
      | 'x' => readFlags? on (c :: seen) { f with spaced := on } rest
      | 'U' => readFlags? on (c :: seen) f rest
      | 'u' => if on then readFlags? on (c :: seen) f rest else none
      | 'R' => readFlags? on (c :: seen) { f with returns := on } rest
      | _ => none

/-- A group's name starts with a letter or an underscore. -/
def readGroupName? (s : List Char) : Option (String × List Char) :=
  let name := s.takeWhile (· != '>')
  match s.dropWhile (· != '>') with
  | [] => none
  | _ :: rest =>
    match name with
    | [] => none
    | c :: cs =>
      if (c == '_' || Text.isNameStart c) &&
          cs.all (fun c => Text.isNameChar c || c ∈ ['.', '[', ']', '_']) then
        some (String.ofList name, rest)
      else none

def edgeEscape? : Char → Option Edge
  | 'A' => some .textStart
  | 'z' => some .textEnd
  | 'B' => some .noWordEdge
  | '<' => some .wordStart
  | '>' => some .wordEnd
  | _ => none

def isEdgeLetter (c : Char) : Bool :=
  c.isAlpha || c == '-'

def readEdgeName (st : Reading) : Nat → List Char → List Char × List Char
  | 0, s => ([], s)
  | fuel + 1, s =>
    match s with
    | c :: rest =>
      if isEdgeLetter c then
        let (name, rest) := readEdgeName st fuel (skip st rest.length rest)
        (c :: name, rest)
      else ([], s)
    | [] => ([], [])

def namedEdge? (name : String) : Option Edge :=
  match name with
  | "start" => some .wordStart
  | "end" => some .wordEnd
  | "start-half" => some .wordStartHalf
  | "end-half" => some .wordEndHalf
  | _ => none

/-- The edge of a word, with a name in braces that may follow its escape. Braces that do not start with
a letter are a repetition. -/
def readWordEdge? (st : Reading) (s : List Char) : Option (Edge × List Char) :=
  match s with
  | '{' :: rest =>
    let body := skip st rest.length rest
    match body.head?.map isEdgeLetter with
    | none => none
    | some false => some (.wordEdge, s)
    | some true =>
      match readEdgeName st body.length body with
      | (name, '}' :: after) => (namedEdge? (String.ofList name)).map (·, after)
      | _ => none
  | s => some (.wordEdge, s)

/-- The set that a point stands for. -/
def Flags.dot (f : Flags) : CharSet :=
  if f.dotAll then .any
  else if f.returns then .not (.either (.one '\n') (.one '\r'))
  else .not (.one '\n')

def Flags.lineStart (f : Flags) : Edge :=
  if !f.lines then .textStart else if f.returns then .returnStart else .lineStart

def Flags.lineEnd (f : Flags) : Edge :=
  if !f.lines then .textEnd else if f.returns then .returnEnd else .lineEnd

/-- Applies the repetitions that follow an expression. -/
def readRepeats : Nat → Reading → Regexp → List Char → Option (Regexp × List Char)
  | 0, _, r, s => some (r, s)
  | fuel + 1, st, r, s =>
    let lazy (s : List Char) : List Char := match s with
      | '?' :: rest => rest
      | s => s
    match skip st s.length s with
    | '*' :: rest => readRepeats fuel st (.star r) (lazy rest)
    | '+' :: rest => readRepeats fuel st (.seq r (.star r)) (lazy rest)
    | '?' :: rest => readRepeats fuel st (.times r 0 1) (lazy rest)
    | '{' :: rest =>
      match readBounds? rest with
      | none => none
      | some (least, some most, rest) =>
        readRepeats fuel st (.times r least most) (lazy (skip st rest.length rest))
      | some (least, none, rest) =>
        readRepeats fuel st (.seq (.times r least least) (.star r)) (lazy (skip st rest.length rest))
    | s => some (r, s)

/-- A group before its closing parenthesis. -/
def closed? : Regexp × Reading × List Char → Option (Regexp × Reading × List Char)
  | (r, st, ')' :: rest) => some (r, st, rest)
  | _ => none

/-- The escapes of edges, which repetitions may follow, and those of sets and characters. -/
def readEscape? (st : Reading) (s : List Char) : Option (Regexp × List Char) :=
  match s with
  | 'b' :: rest => (readWordEdge? st rest).map fun (e, rest) => (.edge e, rest)
  | c :: rest =>
    match edgeEscape? c, readEscapedSet? st (c :: rest) with
    | some e, _ => some (.edge e, rest)
    | none, some (set, rest) => some (.chars set, rest)
    | none, none =>
      (readEscapedChar? (c :: rest)).map fun (c, rest) => (.chars (st.literal (.one c)), rest)
  | [] => none

def isRepeat (c : Char) : Bool :=
  c ∈ ['*', '+', '?', '{']

section
variable (inside : Reading → List Char → Option (Regexp × Reading × List Char))
  (more : Reading → Regexp → List Char → Option (Regexp × Reading × List Char))

/-- Puts an expression, with the repetitions that follow it, behind the sequence read so far. -/
def addItem (st : Reading) (here r : Regexp) (rest : List Char) : Option (Regexp × Reading × List Char) :=
  (readRepeats rest.length st r rest).bind fun x => more st (.seq here x.1) x.2

/-- Reads a group under flags of its own. Of what holds inside, its names hold behind it. -/
def readGroup (st inner : Reading) (here : Regexp) (rest : List Char) : Option (Regexp × Reading × List Char) :=
  ((inside inner rest).bind closed?).bind fun x =>
    addItem more { st with names := x.2.1.names } here x.1 x.2.2

def readNamedGroup (st : Reading) (here : Regexp) (rest : List Char) : Option (Regexp × Reading × List Char) :=
  (readGroupName? rest).bind fun x =>
    if st.names.contains x.1 then none
    else readGroup inside more st { st with names := x.1 :: st.names } here x.2

end

/-- Reads alternatives up to a closing parenthesis or the end; `done` and `here` are the alternatives
and the sequence read so far. Flags set on the way hold up to that point. -/
def readAlternatives : Nat → Reading → Option Regexp → Regexp → List Char →
    Option (Regexp × Reading × List Char)
  | 0, _, _, _, _ => none
  | fuel + 1, st, done, here, s =>
    let joined : Regexp := match done with
      | some d => .alt d here
      | none => here
    let inside (inner : Reading) := readAlternatives fuel inner none .empty
    let more (st : Reading) := readAlternatives fuel st done
    match skip st s.length s with
    | [] => some (joined, st, [])
    | ')' :: rest => some (joined, st, ')' :: rest)
    | '|' :: rest => readAlternatives fuel st (some joined) .empty rest
    | '(' :: rest =>
      match skip st rest.length rest with
      | '?' :: 'P' :: '<' :: rest => readNamedGroup inside more st here rest
      | '?' :: '<' :: rest => readNamedGroup inside more st here rest
      | '?' :: ')' :: _ => none
      | '?' :: rest =>
        match readFlags? true [] st.flags rest with
        | some (flags, ':' :: rest) => readGroup inside more st { st with flags } here rest
        | some (flags, _ :: rest) =>
          if (skip { st with flags } rest.length rest).head?.any isRepeat then none
          else more { st with flags } here rest
        | _ => none
      | rest => readGroup inside more st st here rest
    | '[' :: rest =>
      (readClass (2 * rest.length + 2) st rest).bind fun x => addItem more st here (.chars x.1) x.2
    | '.' :: rest => addItem more st here (.chars st.flags.dot) rest
    | '^' :: rest => addItem more st here (.edge st.flags.lineStart) rest
    | '$' :: rest => addItem more st here (.edge st.flags.lineEnd) rest
    | '\\' :: rest => (readEscape? st rest).bind fun x => addItem more st here x.1 x.2
    | c :: rest =>
      if isRepeat c then none else addItem more st here (.chars (st.literal (.one c))) rest

/-- Reads a pattern as a whole; one that is not of the form has no expression. -/
def parse? (pattern : String) : Option Regexp :=
  let s := pattern.toList
  match readAlternatives (2 * s.length + 2) {} none .empty s with
  | some (r, _, []) => some r
  | _ => none

end ServiceKit.Regexp
