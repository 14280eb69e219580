import ServiceKit.Hcl.Syntax

namespace ServiceKit.Hcl

/-- A block whose attributes are all texts. -/
structure PlainBlock where
  name : String
  labels : List String
  texts : List (String × String)
deriving DecidableEq

namespace PlainBlock

def textItem (text : String × String) : Item :=
  .attr text.1 (.str text.2)

def item (b : PlainBlock) : Item :=
  .block b.name b.labels (b.texts.map textItem)

def texts? : Body → Option (List (String × String))
  | [] => some []
  | .attr name (.str text) :: rest => (texts? rest).map ((name, text) :: ·)
  | _ => none

def ofItem? : Item → Option PlainBlock
  | .block name labels body => (texts? body).map (⟨name, labels, ·⟩)
  | .attr .. => none

theorem eq_of_texts? {body : Body} {texts : List (String × String)} (found : texts? body = some texts) :
    body = texts.map textItem := by
  induction body using texts?.induct generalizing texts with
  | case1 =>
    cases found
    rfl
  | case2 name text rest ih =>
    obtain ⟨later, atRest, rfl⟩ := Option.map_eq_some_iff.mp found
    exact congrArg (Item.attr name (.str text) :: ·) (ih atRest)
  | case3 body notNil notText =>
    rw [texts?] at found
    · cases found
    · exact notNil
    · exact notText

theorem eq_of_ofItem? {i : Item} {b : PlainBlock} (found : ofItem? i = some b) : i = b.item := by
  cases i with
  | attr => cases found
  | block name labels body =>
    obtain ⟨texts, inside, rfl⟩ := Option.map_eq_some_iff.mp found
    exact congrArg (Item.block name labels) (eq_of_texts? inside)

/-- A document in which nothing but plain blocks is found is made of them. -/
theorem eq_of_mapM {body : Body} {blocks : List PlainBlock} (found : body.mapM ofItem? = some blocks) :
    body = blocks.map item := by
  induction body generalizing blocks with
  | nil =>
    cases found
    rfl
  | cons i body ih =>
    rw [List.mapM_cons] at found
    obtain ⟨b, first, found⟩ := Option.bind_eq_some_iff.mp found
    obtain ⟨later, rest, found⟩ := Option.bind_eq_some_iff.mp found
    cases found
    rw [List.map_cons, eq_of_ofItem? first, ih rest]

end PlainBlock

end ServiceKit.Hcl
