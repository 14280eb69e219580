import ServiceKit.Text.Blank
import ServiceKit.Text.Letters

namespace ServiceKit.ErrorEnum

mutual

/-- A type as far as its shape matters: a path of segments, with what follows the last one, or something
else. The type that a path may be qualified with does not matter. -/
inductive TypeExpr where
  | path (segments : List String) (args : PathArgs)
  | other

/-- Nothing, arguments in angle brackets, or those of a function in parentheses. -/
inductive PathArgs where
  | none
  | angled (args : List TypeArg)
  | parenthesized

inductive TypeArg where
  | lifetime (name : String)
  | type (t : TypeExpr)
  | other

end

namespace TypeExpr

/-! ### Shape -/

/-- The arguments of a path that ends in a name. -/
def argsOf? (name : String) : TypeExpr → Option (List TypeArg)
  | path segments (.angled args) => if segments.getLast? = some name then some args else none
  | _ => none

/-- Whether a type is a path that ends in a name. -/
def endsIn (name : String) : TypeExpr → Bool
  | path segments _ => segments.getLast? == some name
  | other => false

/-- Whether a type is shared or owned text that lives as long as the program. -/
def isStaticText (t : TypeExpr) : Bool :=
  match t.argsOf? "Cow" with
  | some (.lifetime l :: .type s :: _) => l == "static" && s.endsIn "str"
  | _ => false

/-- Whether a type is an optional one of these; only the last segments of paths count. -/
def isOptionalStaticText (t : TypeExpr) : Bool :=
  match t.argsOf? "Option" with
  | some (.type inner :: _) => inner.isStaticText
  | _ => false

/-! ### Reading -/

def isNameChar (c : Char) : Bool :=
  Text.isNameChar c || c == '#'

def isNameStart (c : Char) : Bool :=
  Text.isNameStart c || c == '_'

/-- The rest from the comma or bracket on that ends an argument. -/
def skipOther : Nat → List Char → List Char
  | _, [] => []
  | depth, '-' :: '>' :: rest => skipOther depth rest
  | depth, c :: rest =>
    if c ∈ ['(', '[', '{', '<'] then skipOther (depth + 1) rest
    else if c ∈ [')', ']', '}', '>'] then
      match depth with
      | 0 => c :: rest
      | depth + 1 => skipOther depth rest
    else if c = ',' ∧ depth = 0 then c :: rest
    else skipOther depth rest

/-- The rest behind the bracket that closes. -/
def afterClosing? : Nat → List Char → Option (List Char)
  | _, [] => none
  | depth, '-' :: '>' :: rest => afterClosing? depth rest
  | depth, c :: rest =>
    if c ∈ ['(', '[', '{', '<'] then afterClosing? (depth + 1) rest
    else if c ∈ [')', ']', '}', '>'] then
      match depth with
      | 0 => some rest
      | depth + 1 => afterClosing? depth rest
    else afterClosing? depth rest

/-- Where the segments of a path begin: behind `<T as Trait>::` or `::`, or at once. -/
def segmentsFrom? : List Char → Option (List Char)
  | '<' :: rest =>
    match (afterClosing? 0 rest).map Text.dropBlank with
    | some (':' :: ':' :: rest) => some (Text.dropBlank rest)
    | _ => none
  | ':' :: ':' :: rest => some (Text.dropBlank rest)
  | s => some s

/-- Words that open a type that is no path. -/
def isOpener (word : String) : Bool :=
  word ∈ ["dyn", "impl", "fn", "for", "unsafe", "extern"]

def plain (s : List Char) : Bool :=
  match Text.dropBlank s with
  | [] => true
  | c :: _ => c == ',' || c == '>' || c == ')'

/-- What a path is behind arguments: it goes on behind two colons, and ends otherwise. -/
def endOrMore (more : List Char → Option (TypeExpr × List Char)) (segments : List String) (args : PathArgs)
    (rest : List Char) : Option (TypeExpr × List Char) :=
  match Text.dropBlank rest with
  | ':' :: ':' :: rest => more (Text.dropBlank rest)
  | rest => some (.path segments args, rest)

/-- The arguments of a function, whose result ends the path. -/
def readParenthesized (more : List Char → Option (TypeExpr × List Char)) (segments : List String)
    (rest : List Char) : Option (TypeExpr × List Char) :=
  match (afterClosing? 0 rest).map Text.dropBlank with
  | none => none
  | some ('-' :: '>' :: rest) => some (.path segments .parenthesized, skipOther 0 rest)
  | some rest => endOrMore more segments .parenthesized rest

/-- An argument before a comma or the closing bracket. -/
def nextArg (more : List Char → Option (List TypeArg × List Char)) (arg : TypeArg) (rest : List Char) :
    Option (List TypeArg × List Char) :=
  match Text.dropBlank rest with
  | ',' :: rest => (more rest).map fun (args, r) => (arg :: args, r)
  | '>' :: rest => some ([arg], rest)
  | _ => none

mutual

/-- Reads one type. Each call has a step less, so that a text of `n` characters is read within
`2 * n + 2` steps. -/
def readType : Nat → List Char → TypeExpr × List Char
  | 0, s => (.other, skipOther 0 s)
  | fuel + 1, s =>
    let s := Text.dropBlank s
    match (segmentsFrom? s).bind (readPath fuel []) with
    | some (t, rest) => if plain rest then (t, rest) else (.other, skipOther 0 s)
    | none => (.other, skipOther 0 s)

/-- Reads the segments of a path; those before stand reversed in `done`. -/
def readPath : Nat → List String → List Char → Option (TypeExpr × List Char)
  | 0, _, _ => none
  | fuel + 1, done, s =>
    match s with
    | [] => none
    | c :: _ =>
      let word := String.ofList (s.takeWhile isNameChar)
      let rest := Text.dropBlank (s.dropWhile isNameChar)
      if !isNameStart c || isOpener word then none
      else
        let segments := (word :: done).reverse
        let more := readPath fuel (word :: done)
        let angled (rest : List Char) :=
          (readArgs fuel rest).bind fun x => endOrMore more segments (.angled x.1) x.2
        match rest with
        | '<' :: rest => angled rest
        | '(' :: rest => readParenthesized more segments rest
        | ':' :: ':' :: rest =>
          match Text.dropBlank rest with
          | '<' :: rest => angled rest
          | '(' :: rest => readParenthesized more segments rest
          | rest => more rest
        | rest => some (.path segments .none, rest)

/-- Reads arguments up to the closing bracket. -/
def readArgs : Nat → List Char → Option (List TypeArg × List Char)
  | 0, _ => none
  | fuel + 1, s =>
    let next := nextArg (readArgs fuel)
    match Text.dropBlank s with
    | '>' :: rest => some ([], rest)
    | '\'' :: rest =>
      match Text.dropBlank (rest.dropWhile isNameChar) with
      | '+' :: rest => next (.type .other) (skipOther 0 rest)
      | after => next (.lifetime (String.ofList (rest.takeWhile isNameChar))) after
    | s =>
      match readType fuel s with
      | (.other, rest) =>
        if s.head?.any (fun c => c.isDigit || c ∈ ['"', '{', '-', '=']) then next .other rest
        else next (.type .other) rest
      | (t, rest) => next (.type t) rest

end

def ofText (text : String) : TypeExpr :=
  let s := text.toList
  match readType (2 * s.length + 2) s with
  | (t, rest) => if (Text.dropBlank rest).isEmpty then t else .other

end TypeExpr

end ServiceKit.ErrorEnum
