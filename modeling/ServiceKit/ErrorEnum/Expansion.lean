import ServiceKit.ErrorEnum.Item

namespace ServiceKit.ErrorEnum

/-- Why an item is not expanded. -/
inductive ItemFault where
  | notEnum
  | unnamedFields
  | contextType
  | sourceWithoutContext
deriving DecidableEq, Repr

namespace ItemFault

def message : ItemFault → String
  | notEnum => "keel_error can only be applied to enums"
  | unnamedFields => "keel_error variants must use named fields (`source`, `message`, `context`)"
  | contextType => "context field must be Option<Cow<'static, str>>"
  | sourceWithoutContext => "keel_error requires `context: Option<Cow<'static, str>>` on " ++
      "variants with a source"

end ItemFault

/-- Something wrong with an item, and the name or the type in it that is pointed at. -/
structure Diagnostic where
  fault : ItemFault
  spot : String
deriving DecidableEq, Repr

namespace Diagnostic

def message (d : Diagnostic) : String :=
  d.fault.message

end Diagnostic

/-- A variant that was looked at. -/
structure Inspected where
  name : String
  fields : List Field
  source : Option Field
  hasContext : Bool
  cfg : List Attr
deriving DecidableEq, Repr

/-- The field for the context, if there is one. It has to have the type for that. -/
def contextField (fields : List Field) : Except Diagnostic (Option Field) :=
  match fields.find? (·.name == "context") with
  | none => .ok none
  | some f =>
    if (TypeExpr.ofText f.type).isOptionalStaticText then .ok (some f) else .error ⟨.contextType, f.type⟩

/-- Whether a field holds the cause: by its name or by a mark. -/
def Field.isSource (f : Field) : Bool :=
  f.name == "source" || f.attrs.any fun a => a.isNamed "source" || a.isNamed "from"

def sourceField? (fields : List Field) : Option Field :=
  fields.find? (·.isSource)

def inspect (v : Variant) : Except Diagnostic Inspected :=
  match v.shape with
  | .named fields =>
    match contextField fields with
    | .error d => .error d
    | .ok context =>
      let source := sourceField? fields
      if source.isSome && context.isNone then .error ⟨.sourceWithoutContext, v.name⟩
      else .ok ⟨v.name, fields, source, context.isSome, v.attrs.filter (·.isNamed "cfg")⟩
  | _ => .error ⟨.unnamedFields, v.name⟩

/-- What a look at variants has come to: those that are as they have to be, and what is wrong with the
others. -/
structure Inspection where
  variants : List Inspected := []
  diagnostics : List Diagnostic := []
deriving DecidableEq, Repr

/-- Looks at one more variant. -/
def Inspection.add (i : Inspection) (v : Variant) : Inspection :=
  match inspect v with
  | .ok seen => { i with variants := i.variants ++ [seen] }
  | .error d => { i with diagnostics := i.diagnostics ++ [d] }

def inspectAll (vs : List Variant) : Inspection :=
  vs.foldl .add {}

/-- A value of a variant as generated code writes it: each named field is given. -/
structure Literal where
  variant : Inspected
  fields : List String
deriving DecidableEq, Repr

/-- A piece of generated code. The types of sources are in their written form. -/
inductive Impl where
  /-- Attaches a context to a result with this error. -/
  | attach (arms : List String)
  | fromSource (type : String) (cfg : List Attr) (value : Literal)
  /-- Attaches a context to a result with the source as its error. -/
  | attachSource (type : String) (cfg : List Attr) (value : Literal)
  | fromText (type : String) (cfg : List Attr) (value : Literal)
  /-- Tells the context. -/
  | tell (arms : List String)
deriving DecidableEq, Repr

structure Expansion where
  name : String
  derives : List String
  impls : List Impl
deriving DecidableEq, Repr

namespace Impl

def cfg : Impl → List Attr
  | fromSource _ cfg _ => cfg
  | attachSource _ cfg _ => cfg
  | fromText _ cfg _ => cfg
  | _ => []

/-- The variants whose context the code looks at. -/
def arms : Impl → List String
  | attach arms => arms
  | tell arms => arms
  | _ => []

def literal? : Impl → Option Literal
  | fromSource _ _ value => some value
  | attachSource _ _ value => some value
  | fromText _ _ value => some value
  | _ => none

/-- The type that the error is made from. -/
def origin? : Impl → Option String
  | fromSource type _ _ => some type
  | fromText type _ _ => some type
  | _ => none

/-- The trait that is implemented for an error of a name; none for its own functions. -/
def traitText (name : String) : Impl → Option String
  | attach _ => some (name ++ "Ext<T>")
  | attachSource .. => some (name ++ "Ext<T>")
  | fromSource type _ _ => some ("From<" ++ compact type ++ ">")
  | fromText type _ _ => some ("From<" ++ compact type ++ ">")
  | tell _ => none

def selfText (name : String) : Impl → String
  | attach _ => "Result<T," ++ name ++ ">"
  | attachSource type _ _ => "std::result::Result<T," ++ compact type ++ ">"
  | _ => name

end Impl

def internalName : String := "Internal"

/-- The names of the variants with a context. -/
def contextNames (vs : List Inspected) : List String :=
  (vs.filter (·.hasContext)).map (·.name)

/-- What comes of a variant with a source. The internal variant is made from text instead. -/
def sourceImpls (v : Inspected) : List Impl :=
  match v.source with
  | none => []
  | some f =>
    if v.name = internalName then []
    else
      let value : Literal := ⟨v, [f.name, "context"]⟩
      [.fromSource f.type v.cfg value, .attachSource f.type v.cfg value]

def internalImpls (vs : List Inspected) : List Impl :=
  match vs.find? (·.name == internalName) with
  | none => []
  | some v =>
    let value : Literal := ⟨v, ["message", "context"]⟩
    [.fromText "&'static str" v.cfg value, .fromText "String" v.cfg value]

/-- The derives that an item lacks, and those that it has. -/
def derives (item : Item) : List String :=
  let own := item.attrs.filter (·.isNamed "derive")
  let present := own.flatMap Attr.listed
  let wanted := (if present.contains "Debug" then [] else ["Debug"]) ++
    if present.contains "Error" then [] else ["::thiserror::Error"]
  (if wanted.isEmpty then [] else ["derive(" ++ ",".intercalate wanted ++ ")"]) ++
    own.map fun a => compact a.text

/-- The code that is generated from the variants of an item. -/
def generate (item : Item) (vs : List Inspected) : Expansion :=
  let arms := contextNames vs
  ⟨item.name, derives item, .attach arms :: vs.flatMap sourceImpls ++ internalImpls vs ++ [.tell arms]⟩

/-- Expands an item: all that is wrong with it, or the generated code. -/
def expand (item : Item) : Except (List Diagnostic) Expansion :=
  match item.kind with
  | .enum =>
    let seen := inspectAll item.variants
    if seen.diagnostics.isEmpty then .ok (generate item seen.variants) else .error seen.diagnostics
  | _ => .error [⟨.notEnum, item.name⟩]

namespace Expansion

def traitName (e : Expansion) : String :=
  e.name ++ "Ext"

/-- The generated function that writes a context into messages. -/
def functionName : String := "format_context"

end Expansion

end ServiceKit.ErrorEnum
