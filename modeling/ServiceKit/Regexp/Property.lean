import ServiceKit.Regexp.Syntax

namespace ServiceKit.Regexp

open Text (Category)

/-- The names of the categories, and of the groups that several of them form. -/
def categoryNames : List (List String × List Category) :=
  let cased : List Category := [.uppercaseLetter, .lowercaseLetter, .titlecaseLetter]
  [(["l", "letter"], cased ++ [.modifierLetter, .otherLetter]),
    (["lc", "casedletter"], cased),
    (["lu", "uppercaseletter"], [.uppercaseLetter]),
    (["ll", "lowercaseletter"], [.lowercaseLetter]),
    (["lt", "titlecaseletter"], [.titlecaseLetter]),
    (["lm", "modifierletter"], [.modifierLetter]),
    (["lo", "otherletter"], [.otherLetter]),
    (["m", "mark", "combiningmark"], [.nonspacingMark, .spacingMark, .enclosingMark]),
    (["mn", "nonspacingmark"], [.nonspacingMark]),
    (["mc", "spacingmark"], [.spacingMark]),
    (["me", "enclosingmark"], [.enclosingMark]),
    (["n", "number"], [.decimalNumber, .letterNumber, .otherNumber]),
    (["nd", "decimalnumber", "digit"], [.decimalNumber]),
    (["nl", "letternumber"], [.letterNumber]),
    (["no", "othernumber"], [.otherNumber]),
    (["p", "punctuation", "punct"],
      [.connectorPunctuation, .dashPunctuation, .openPunctuation, .closePunctuation,
        .initialPunctuation, .finalPunctuation, .otherPunctuation]),
    (["pc", "connectorpunctuation"], [.connectorPunctuation]),
    (["pd", "dashpunctuation"], [.dashPunctuation]),
    (["ps", "openpunctuation"], [.openPunctuation]),
    (["pe", "closepunctuation"], [.closePunctuation]),
    (["pi", "initialpunctuation"], [.initialPunctuation]),
    (["pf", "finalpunctuation"], [.finalPunctuation]),
    (["po", "otherpunctuation"], [.otherPunctuation]),
    (["s", "symbol"], [.mathSymbol, .currencySymbol, .modifierSymbol, .otherSymbol]),
    (["sm", "mathsymbol"], [.mathSymbol]),
    (["sc", "currencysymbol"], [.currencySymbol]),
    (["sk", "modifiersymbol"], [.modifierSymbol]),
    (["so", "othersymbol"], [.otherSymbol]),
    (["z", "separator"], [.spaceSeparator, .lineSeparator, .paragraphSeparator]),
    (["zs", "spaceseparator"], [.spaceSeparator]),
    (["zl", "lineseparator"], [.lineSeparator]),
    (["zp", "paragraphseparator"], [.paragraphSeparator]),
    (["cc", "control", "cntrl"], [.control]),
    (["cf", "format"], [.format]),
    (["co", "privateuse"], [.privateUse])]

def ofCategories (cs : List Category) : CharSet :=
  cs.foldr (fun c s => .either (.table c.table) s) .none

/-- Every character that has a category. -/
def assigned : CharSet :=
  ofCategories (categoryNames.flatMap fun entry => if entry.2.length = 1 then entry.2 else [])

/-- The characters that are neither letter, mark, number, punctuation, symbol nor separator. -/
def otherCharacters : CharSet :=
  let named := categoryNames.filter fun entry =>
    entry.1.any (["l", "m", "n", "p", "s", "z"].contains ·)
  .not (ofCategories (named.flatMap Prod.snd))

/-- A property's name as it is compared: in small letters, without blanks, hyphens, underscores and
a leading "is". -/
def looseName (s : List Char) : String :=
  let bare := s.filter (fun c => c.toNat < 0x80 && !(c ∈ [' ', '-', '_']))
  let lower := bare.map Char.toLower
  match s.take 2 |>.map Char.toLower with
  | ['i', 's'] => if lower.drop 2 = ['c'] then "isc" else String.ofList (lower.drop 2)
  | _ => String.ofList lower

def category? (name : String) : Option CharSet :=
  match name with
  | "any" => some .any
  | "ascii" => some (.range '\x00' '\x7f')
  | "assigned" => some assigned
  | "c" => some otherCharacters
  | "other" => some otherCharacters
  | "cn" => some (.not assigned)
  | "unassigned" => some (.not assigned)
  | name => (categoryNames.find? fun entry => entry.1.contains name).map fun e => ofCategories e.2

/-- The properties that do not sort the characters but hold of some of them. -/
def binaryProperty? (name : String) : Option CharSet :=
  if ["alphabetic", "alpha"].contains name then
    some (.either (.table Text.alphabeticMarks) (ofCategories [.uppercaseLetter, .lowercaseLetter,
      .titlecaseLetter, .modifierLetter, .otherLetter, .letterNumber]))
  else if ["lowercase", "lower"].contains name then
    some (.either (.table Text.lowerMarks) (ofCategories [.lowercaseLetter]))
  else if ["uppercase", "upper"].contains name then
    some (.either (.table Text.upperMarks) (ofCategories [.uppercaseLetter]))
  else if ["whitespace", "wspace", "space"].contains name then some .blank
  else none

/-- The text before the first occurrence of `sep`, and the text behind it. -/
def splitAt? (sep : List Char) : List Char → Option (List Char × List Char)
  | [] => none
  | c :: s =>
    match Text.dropLead? sep (c :: s) with
    | some after => some ([], after)
    | none => (splitAt? sep s).map fun (before, after) => (c :: before, after)

/-- The set that a property in braces stands for. A value may be given for the category by name. -/
def property? (s : List Char) : Option CharSet :=
  let valued (name value : List Char) : Option CharSet :=
    if ["generalcategory", "gc"].contains (looseName name) then category? (looseName value) else none
  match splitAt? ['!', '='] s, splitAt? [':'] s, splitAt? ['='] s with
  | some (name, value), _, _ => (valued name value).map .not
  | none, some (name, value), _ => valued name value
  | none, none, some (name, value) => valued name value
  | none, none, none => (binaryProperty? (looseName s)).or (category? (looseName s))

end ServiceKit.Regexp
