import ServiceKit.Hcl.Syntax
import ServiceKit.Json.Printer

namespace ServiceKit.Hcl

/-- Expressions write an exponent without a plus. -/
def numberLayout : Binary64.Layout := ⟨-4, 16, true, false⟩

def renderNumber : Number → String
  | .int n => toString n
  | .float x => x.render numberLayout

/-- The characters of a quoted text. The opening of an interpolation is doubled. -/
def escapeText : List Char → List Char
  | [] => []
  | '$' :: '{' :: r => '$' :: '$' :: '{' :: escapeText r
  | '%' :: '{' :: r => '%' :: '%' :: '{' :: escapeText r
  | c :: r =>
    (match c with
    | '"' => ['\\', '"']
    | '\\' => ['\\', '\\']
    | '\n' => ['\\', 'n']
    | '\r' => ['\\', 'r']
    | '\t' => ['\\', 't']
    | c => if c.toNat < 0x20 ∨ c.toNat = 0x7f then '\\' :: 'u' :: Json.padHex c.toNat else [c])
      ++ escapeText r

def quote (s : String) : String :=
  String.ofList ('"' :: escapeText s.toList ++ ['"'])

def forHead (key : Option String) (value : String) : String :=
  match key with
  | some k => "for " ++ k ++ ", " ++ value ++ " in "
  | none => "for " ++ value ++ " in "

mutual

/-- The text of an expression on one line. -/
def render : Expr → String
  | .null => "null"
  | .bool b => if b then "true" else "false"
  | .num n => renderNumber n
  | .str s => quote s
  | .template source => "\"" ++ source ++ "\""
  | .array items => "[" ++ ", ".intercalate (renderAll items) ++ "]"
  | .object [] => "\x7b\x7d"
  | .object items => "\x7b " ++ ", ".intercalate (renderItems items) ++ " \x7d"
  | .variable name => name
  | .call name args expand =>
    name ++ "(" ++ ", ".intercalate (renderAll args) ++ (if expand then "...)" else ")")
  | .attr e name => render e ++ "." ++ name
  | .index e key => render e ++ "[" ++ render key ++ "]"
  | .legacyIndex e i => render e ++ "." ++ toString i
  | .attrSplat e => render e ++ ".*"
  | .fullSplat e => render e ++ "[*]"
  | .paren e => "(" ++ render e ++ ")"
  | .unary op e => op.symbol ++ render e
  | .binary a op b => render a ++ " " ++ op ++ " " ++ render b
  | .conditional t a b => render t ++ " ? " ++ render a ++ " : " ++ render b
  | .forList key value items body test =>
    "[" ++ forHead key value ++ render items ++ " : " ++ render body ++ renderTest test ++ "]"
  | .forObject key value items name body group test =>
    "\x7b" ++ forHead key value ++ render items ++ " : " ++ render name ++ " => " ++ render body ++
      (if group then "..." else "") ++ renderTest test ++ "\x7d"

def renderTest : Option Expr → String
  | none => ""
  | some e => " if " ++ render e

def renderAll : List Expr → List String
  | [] => []
  | e :: es => render e :: renderAll es

def renderItems : List (Expr × Expr) → List String
  | [] => []
  | (k, v) :: items => (render k ++ " = " ++ render v) :: renderItems items

end

end ServiceKit.Hcl
