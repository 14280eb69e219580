import ServiceKit.Proofs.Outcome
import ServiceKit.Proofs.System.Paths
import ServiceKit.System.Files

namespace ServiceKit.FileSystem

open ServiceKit.Path (IsName)

instance (name : String) : Decidable (IsName name) :=
  decidable_of_iff (name ≠ "" ∧ name ≠ "." ∧ name ≠ ".." ∧ '/' ∉ name.toList)
    ⟨fun ⟨a, b, c, d⟩ => ⟨a, b, c, d⟩, fun ⟨a, b, c, d⟩ => ⟨a, b, c, d⟩⟩

/-- What holds of the files of every system: no location is listed twice, and all steps are names that an
entry of a directory can have. -/
structure Sound (fs : FileSystem) : Prop where
  once : (fs.nodes.map Prod.fst).Nodup
  named : ∀ node ∈ fs.nodes, ∀ name ∈ node.1, IsName name ∧ '\x00' ∉ name.toList

variable {fs other : FileSystem} {loc place at_ : Location} {node : Node} {name dir : String}

/-! ### Nodes and entries -/

theorem mem_of_find {nodes : List (Location × Node)} (found : find loc nodes = some node) :
    (loc, node) ∈ nodes := by
  induction nodes with
  | nil => cases found
  | cons first rest ih =>
    unfold find at found
    split_ifs at found with here
    · cases found
      exact here ▸ List.mem_cons_self
    · exact List.mem_cons_of_mem first (ih found)

theorem find_of_mem {nodes : List (Location × Node)} (once : (nodes.map Prod.fst).Nodup)
    (member : (loc, node) ∈ nodes) : find loc nodes = some node := by
  induction nodes with
  | nil => cases member
  | cons first rest ih =>
    obtain ⟨fresh, later⟩ := List.nodup_cons.mp once
    unfold find
    rcases List.mem_cons.mp member with rfl | member
    · exact if_pos rfl
    · have elsewhere : first.1 ≠ loc := fun here => fresh (List.mem_map.mpr ⟨_, member, here.symm⟩)
      rw [if_neg elsewhere]
      exact ih later member

/-- Below the root there is what is listed, and nothing else. -/
theorem Sound.get?_eq_some_iff (sound : fs.Sound) (below : loc ≠ []) :
    fs.get? loc = some node ↔ (loc, node) ∈ fs.nodes := by
  rw [get?, if_neg below]
  exact ⟨mem_of_find, find_of_mem sound.once⟩

/-- The entries of a directory are the nodes one step below it. -/
theorem entry_eq_some_iff {place : Location} :
    (if place.length = loc.length + 1 ∧ place.take loc.length = loc then place.getLast? else none) = some name ↔
      place = loc ++ [name] := by
  constructor
  · intro found
    split_ifs at found with inside
    obtain ⟨length, above⟩ := inside
    have whole := List.dropLast_append_getLast? name found
    rw [List.dropLast_eq_take, length, Nat.add_sub_cancel, above] at whole
    exact whole.symm
  · rintro rfl
    simp

theorem mem_entries : name ∈ fs.entries loc ↔ ∃ node, (loc ++ [name], node) ∈ fs.nodes := by
  simp only [entries, List.mem_filterMap, entry_eq_some_iff, Prod.exists]
  constructor
  · rintro ⟨place, node, member, rfl⟩
    exact ⟨node, member⟩
  · rintro ⟨node, member⟩
    exact ⟨_, node, member, rfl⟩

theorem Sound.nodup_entries (sound : fs.Sound) (loc : Location) : (fs.entries loc).Nodup := by
  unfold entries
  simp only [List.Nodup, List.pairwise_filterMap, entry_eq_some_iff]
  refine (List.pairwise_map.mp sound.once).imp fun apart first atFirst other atOther same => apart ?_
  rw [atFirst, atOther, same]

/-! ### Changes -/

theorem find_filter (keep : Location → Bool) (nodes : List (Location × Node)) :
    find place (nodes.filter fun n => keep n.1) = if keep place then find place nodes else none := by
  induction nodes with
  | nil => simp [find]
  | cons first rest ih =>
    rw [List.filter_cons]
    by_cases here : first.1 = place
    · subst here
      split_ifs with kept
      · simp [find]
      · rw [ih, if_neg kept]
    · split_ifs with kept there <;> simp_all [find]

theorem get?_erase : (fs.erase loc).get? place = if place = loc ∧ place ≠ [] then none else fs.get? place := by
  unfold get? erase
  rw [find_filter (· ≠ loc)]
  by_cases root : place = [] <;> by_cases here : place = loc <;> simp_all

theorem get?_put : (fs.put loc node).get? place = if place = loc ∧ place ≠ [] then some node else fs.get? place := by
  by_cases here : place = loc
  · subst here
    by_cases root : place = [] <;> simp [get?, put, find, root]
  · have there : loc ≠ place := fun same => here same.symm
    have erased : (fs.erase loc).get? place = fs.get? place := by rw [get?_erase, if_neg fun both => here both.1]
    rw [if_neg fun both => here both.1, ← erased]
    unfold get?
    rw [put, find, if_neg there]

theorem get?_root : fs.get? [] = some .dir :=
  if_pos rfl

theorem ne_root (other : fs.get? loc ≠ some .dir) : loc ≠ [] := by
  rintro rfl
  exact other get?_root

/-! ### Paths into a directory -/

theorem walk_empty (fs : FileSystem) (names : List String) : fs.walk [] ("" :: names) = fs.walk [] names :=
  rfl

theorem locate_ok_iff {path : String} : fs.locate path = .ok loc ↔
    '\x00' ∉ path.toList ∧ path.toList.head? = some '/' ∧ fs.walk [] (Text.split '/' path) = .ok loc := by
  unfold locate Text.split
  by_cases hidden : '\x00' ∈ path.toList
  · simp [hidden]
  · cases chars : path.toList with
    | nil => simp
    | cons c rest =>
      rw [chars] at hidden
      by_cases slash : c = '/'
      · subst slash
        simp [hidden, Text.splitChars, walk_empty]
      · simp [hidden, slash]

theorem walk_cons (at_ : Location) (name : String) (rest : List String) :
    fs.walk at_ (name :: rest) =
      match fs.get? at_ with
      | some .dir =>
        if name = "" ∨ name = "." then fs.walk at_ rest
        else if name = ".." then fs.walk at_.dropLast rest
        else fs.walk (at_ ++ [name]) rest
      | some _ => .error .notDirectory
      | none => .error .notFound :=
  rfl

theorem walk_append (at_ : Location) (names more : List String) :
    fs.walk at_ (names ++ more) = fs.walk at_ names >>= fun loc => fs.walk loc more := by
  induction names generalizing at_ with
  | nil => rfl
  | cons name rest ih =>
    rw [List.cons_append, walk_cons, walk_cons]
    cases fs.get? at_ with
    | none => rfl
    | some node =>
      cases node with
      | dir =>
        dsimp only
        split_ifs <;> exact ih _
      | file content => rfl
      | socket mode uid gid endpoint => rfl

/-- A way that leads through directories leads to the same place where these are directories, too. -/
theorem walk_of_dirs (dirs : ∀ place, fs.get? place = some .dir → other.get? place = some .dir)
    {names : List String} (walked : fs.walk at_ names = .ok loc) : other.walk at_ names = .ok loc := by
  induction names generalizing at_ with
  | nil => exact walked
  | cons name rest ih =>
    rw [walk_cons] at walked ⊢
    cases here : fs.get? at_ with
    | none =>
      rw [here] at walked
      cases walked
    | some node =>
      rw [here] at walked
      cases node with
      | dir =>
        rw [dirs at_ here]
        dsimp only at walked ⊢
        split_ifs at walked ⊢
        all_goals exact ih walked
      | file content => cases walked
      | socket mode uid gid endpoint => cases walked

theorem walk_name (isDir : fs.get? loc = some .dir) (named : IsName name) :
    fs.walk loc [name] = .ok (loc ++ [name]) := by
  have proper : ¬(name = "" ∨ name = ".") := not_or.mpr ⟨named.nonempty, named.notHere⟩
  rw [walk_cons, isDir]
  dsimp only
  rw [if_neg proper, if_neg named.notUp]
  rfl

/-- The empty part behind a slash at the end leads nowhere else. -/
theorem walk_slash (walked : fs.walk at_ [""] = .ok loc) : at_ = loc := by
  rw [walk_cons] at walked
  split at walked
  · exact Except.ok.inj walked
  · cases walked
  · cases walked

/-- A name in a directory that a path leads to is one step further. -/
theorem locate_join (located : fs.locate dir = .ok loc) (isDir : fs.get? loc = some .dir) (named : IsName name)
    (shown : '\x00' ∉ name.toList) : fs.locate (Path.join dir name) = .ok (loc ++ [name]) := by
  obtain ⟨hidden, head, walked⟩ := locate_ok_iff.mp located
  obtain ⟨rest, chars⟩ := List.head?_eq_some_iff.mp head
  have last : ∀ front, Text.split '/' (front ++ "/" ++ name) = Text.split '/' front ++ [name] := by
    intro front
    rw [← Text.split_of_notMem named.plain]
    exact Text.split_append '/' front name
  refine locate_ok_iff.mpr ⟨?_, ?_, ?_⟩
  · unfold Path.join
    split_ifs <;> simp [hidden, shown]
  · unfold Path.join
    split_ifs <;> simp [chars]
  · unfold Path.join
    split_ifs with closed
    · have nonempty : dir ≠ "" := by
        rintro rfl
        cases chars
      obtain ⟨front, rfl⟩ := Path.exists_eq_slash (closed.resolve_left nonempty)
      have parts : Text.split '/' (front ++ "/" ++ "") = Text.split '/' front ++ [""] := Text.split_append '/' front ""
      rw [parts, walk_append] at walked
      obtain ⟨before, walked, atEnd⟩ := Outcome.bind_ok walked
      rw [String.append_empty, last, walk_append, walked, walk_slash atEnd]
      exact walk_name isDir named
    · rw [last, walk_append, walked]
      exact walk_name isDir named

/-- What a path that ends with an entry's name leads to. -/
theorem node_join (located : fs.locate dir = .ok loc) (isDir : fs.get? loc = some .dir) (named : IsName name)
    (shown : '\x00' ∉ name.toList) (found : fs.get? (loc ++ [name]) = some node) :
    fs.node (Path.join dir name) = .ok node := by
  have nonempty : name.toList ≠ [] := fun none => named.nonempty (String.toList_inj.mp none)
  have noSlash : (Path.join dir name).toList.getLast? ≠ some '/' := by
    have atEnd := List.getLast?_eq_some_getLast nonempty
    have last : (Path.join dir name).toList.getLast? = some (name.toList.getLast nonempty) := by
      unfold Path.join
      split_ifs <;> rw [String.toList_append, List.getLast?_append_of_ne_nil _ nonempty, atEnd]
    rw [last]
    intro slash
    exact named.plain (Option.some.inj slash ▸ List.getLast_mem nonempty)
  unfold FileSystem.node
  rw [locate_join located isDir named shown]
  dsimp only
  rw [found]
  simp [noSlash]

end ServiceKit.FileSystem
