namespace ServiceKit.Text

/-- White space as the Unicode property of that name has it. Zero-width spaces are not in it. -/
def isBlank (c : Char) : Bool :=
  let n := c.toNat
  (0x9 ≤ n && n ≤ 0xd) || n == 0x20 || n == 0x85 || n == 0xa0 || n == 0x1680 ||
    (0x2000 ≤ n && n ≤ 0x200a) || n == 0x2028 || n == 0x2029 || n == 0x202f || n == 0x205f ||
    n == 0x3000

def dropBlank (s : List Char) : List Char :=
  s.dropWhile isBlank

def dropBlankEnd (s : List Char) : List Char :=
  (s.reverse.dropWhile isBlank).reverse

/-- The text between the first and the last character that is not white space. -/
def trimChars (s : List Char) : List Char :=
  dropBlankEnd (dropBlank s)

def trim (s : String) : String :=
  String.ofList (trimChars s.toList)

def toLower (s : String) : String :=
  String.ofList (s.toList.map Char.toLower)

/-- The pieces between the separators, one more than there are separators. -/
def splitChars (sep : Char) : List Char → List (List Char)
  | [] => [[]]
  | c :: rest =>
    if c = sep then [] :: splitChars sep rest
    else match splitChars sep rest with
      | [] => [[c]]
      | piece :: pieces => (c :: piece) :: pieces

def split (sep : Char) (s : String) : List String :=
  (splitChars sep s.toList).map String.ofList

/-- What follows `lead`, if the text starts with it. -/
def dropLead? : List Char → List Char → Option (List Char)
  | [], s => some s
  | _ :: _, [] => none
  | l :: lead, c :: s => if l = c then dropLead? lead s else none

def stripLead? (lead s : String) : Option String :=
  (dropLead? lead.toList s.toList).map String.ofList

theorem splitChars_ne_nil (sep : Char) (s : List Char) : splitChars sep s ≠ [] := by
  induction s with
  | nil => simp [splitChars]
  | cons c rest ih =>
    simp only [splitChars]
    split
    · simp
    · split <;> simp

theorem dropLead?_eq_some_iff {lead s rest : List Char} : dropLead? lead s = some rest ↔ s = lead ++ rest := by
  induction lead generalizing s with
  | nil => simp [dropLead?]
  | cons l lead ih =>
    cases s with
    | nil => simp [dropLead?]
    | cons c s =>
      by_cases same : l = c
      · simp [dropLead?, same, ih]
      · simp [dropLead?, same, Ne.symm same]

theorem stripLead?_eq_some_iff {lead s rest : String} : stripLead? lead s = some rest ↔ s = lead ++ rest := by
  rw [stripLead?, Option.map_eq_some_iff, ← String.toList_inj, String.toList_append]
  constructor
  · rintro ⟨chars, found, rfl⟩
    rw [String.toList_ofList]
    exact dropLead?_eq_some_iff.mp found
  · intro whole
    exact ⟨rest.toList, dropLead?_eq_some_iff.mpr whole, String.ofList_toList⟩

theorem stripLead?_eq_none_iff {lead s : String} : stripLead? lead s = none ↔ ¬ lead.toList <+: s.toList := by
  rw [stripLead?, Option.map_eq_none_iff, Option.eq_none_iff_forall_not_mem]
  constructor
  · rintro none ⟨rest, whole⟩
    exact none rest (dropLead?_eq_some_iff.mpr whole.symm)
  · intro other rest found
    exact other ⟨rest, (dropLead?_eq_some_iff.mp found).symm⟩

end ServiceKit.Text
