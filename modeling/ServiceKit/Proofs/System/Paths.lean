import ServiceKit.Proofs.Text.Splitting
import ServiceKit.System.Path

namespace ServiceKit

namespace Path
variable {path dir name first : String} {rest : List String}

/-- What an entry of a directory may be called: a text without slashes that is none of those that stand for
directories themselves. -/
structure IsName (name : String) : Prop where
  nonempty : name ≠ ""
  notHere : name ≠ "."
  notUp : name ≠ ".."
  plain : '/' ∉ name.toList

theorem IsName.ofParts (named : IsName name) : ofParts [name] = [.name name] := by
  simp [Path.ofParts, named.nonempty, named.notHere, Component.ofPart, named.notUp]

theorem ofParts_append (parts more : List String) : ofParts (parts ++ more) = ofParts parts ++ ofParts more := by
  simp [ofParts]

theorem mem_ofParts {parts : List String} (member : .name name ∈ ofParts parts) :
    name ∈ parts ∧ name ≠ "" ∧ name ≠ "." ∧ name ≠ ".." := by
  obtain ⟨part, kept, named⟩ := List.mem_map.mp member
  obtain ⟨inParts, proper⟩ := List.mem_filter.mp kept
  unfold Component.ofPart at named
  split_ifs at named with up
  obtain rfl := Component.name.inj named
  simp only [decide_eq_true_eq] at proper
  exact ⟨inParts, proper.1, proper.2, up⟩

/-- The steps that the part in front of the first slash makes. -/
def lead (first : String) : List Component :=
  if first = "" then [.root] else if first = "." then [.here] else ofParts [first]

/-- The steps of a path that is not empty, from the parts between its slashes. -/
def stepsOf : List String → List Component
  | [] => []
  | first :: rest => lead first ++ ofParts rest

theorem components_eq (nonempty : path ≠ "") : components path = stepsOf (Text.split '/' path) := by
  unfold components
  cases Text.split '/' path with
  | nil => rfl
  | cons first rest =>
    simp only [stepsOf, lead, nonempty, if_false]
    split_ifs with atRoot here
    · subst atRoot
      rfl
    · subst here
      rfl
    · rw [← ofParts_append, List.singleton_append]
      split <;> simp_all

theorem stepsOf_append {parts : List String} (nonempty : parts ≠ []) (more : List String) :
    stepsOf (parts ++ more) = stepsOf parts ++ ofParts more := by
  obtain ⟨first, rest, rfl⟩ := List.exists_cons_of_ne_nil nonempty
  rw [List.cons_append, stepsOf, stepsOf, ofParts_append, List.append_assoc]

theorem components_slash (dir more : String) :
    components (dir ++ "/" ++ more) = stepsOf (Text.split '/' dir) ++ ofParts (Text.split '/' more) := by
  have parts : Text.split '/' (dir ++ "/" ++ more) = Text.split '/' dir ++ Text.split '/' more :=
    Text.split_append '/' dir more
  rw [components_eq (by simp), parts, stepsOf_append (Text.split_ne_nil '/' dir)]

/-- Only names have no other meaning as a step. -/
theorem isName_of_mem (member : .name name ∈ components path) : IsName name := by
  by_cases nonempty : path = ""
  · subst nonempty
    cases member
  rw [components_eq nonempty] at member
  have inParts : name ∈ Text.split '/' path ∧ name ≠ "" ∧ name ≠ "." ∧ name ≠ ".." := by
    cases parts : Text.split '/' path with
    | nil =>
      rw [parts] at member
      cases member
    | cons first rest =>
      rw [parts, stepsOf, lead] at member
      split_ifs at member with atRoot here
      · have later : .name name ∈ ofParts rest := by simpa using member
        exact (mem_ofParts later).imp_left (List.mem_cons_of_mem first)
      · have later : .name name ∈ ofParts rest := by simpa using member
        exact (mem_ofParts later).imp_left (List.mem_cons_of_mem first)
      · rw [← ofParts_append] at member
        exact mem_ofParts member
  exact ⟨inParts.2.1, inParts.2.2.1, inParts.2.2.2, Text.notMem_of_mem_split inParts.1⟩

theorem exists_eq_slash (slash : path.toList.getLast? = some '/') : ∃ front, path = front ++ "/" ++ "" := by
  obtain ⟨front, chars⟩ := List.getLast?_eq_some_iff.mp slash
  refine ⟨String.ofList front, ?_⟩
  rw [← String.toList_inj, chars]
  simp

theorem components_name (named : IsName name) : components name = [.name name] := by
  rw [components_eq named.nonempty, Text.split_of_notMem named.plain, stepsOf, lead, if_neg named.nonempty,
    if_neg named.notHere, named.ofParts]
  rfl

/-- A name in a directory is one step more, whether or not the directory's path ends with a slash. -/
theorem components_join (dir : String) (named : IsName name) :
    components (join dir name) = components dir ++ [.name name] := by
  have lastStep : ofParts (Text.split '/' name) = [.name name] := by
    rw [Text.split_of_notMem named.plain, named.ofParts]
  unfold join
  split_ifs with closed
  · rcases closed with rfl | slash
    · rw [String.empty_append, components_name named]
      rfl
    · obtain ⟨front, rfl⟩ := exists_eq_slash slash
      -- Behind the last slash stands the empty part, which is no step.
      have emptyPart : ofParts (Text.split '/' "") = [] := rfl
      rw [components_slash _ "", emptyPart, List.append_nil, String.append_empty, components_slash, lastStep]
  · rw [components_slash, lastStep, components_eq (not_or.mp closed).1]

/-- A path is a directory's and a name in it exactly if the name is its last step. -/
theorem parent?_fileName?_iff {steps : List Component} :
    parent? path = some steps ∧ fileName? path = some name ↔ components path = steps ++ [.name name] := by
  unfold parent? fileName?
  constructor
  · rintro ⟨above, last⟩
    obtain ⟨step, atEnd, named⟩ := Option.bind_eq_some_iff.mp last
    cases step <;> cases named
    rw [atEnd] at above
    obtain rfl := Option.some.inj above
    exact (List.dropLast_append_getLast? _ atEnd).symm
  · intro whole
    simp [whole, Component.toName?]

end Path

end ServiceKit
