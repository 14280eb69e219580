import Mathlib.Data.List.Sort
import ServiceKit.Proofs.Config.Merging
import ServiceKit.Proofs.Config.Overruns
import ServiceKit.Proofs.System.Directories

namespace ServiceKit.SharedConfig

/-! ### Configuration files of a directory -/

/-- A name with the ending of configuration files and something in front of it. -/
def IsConfigName (name : String) : Prop :=
  ∃ stem, stem ≠ "" ∧ name = stem ++ ".hcl"

theorem ending_eq (stem : String) : stem ++ ".hcl" = stem ++ '.'.toString ++ "hcl" := by
  rw [String.append_assoc]
  rfl

theorem extension?_of_isConfigName {name : String} (isConfig : IsConfigName name) :
    extension? name = some "hcl" := by
  obtain ⟨stem, nonempty, rfl⟩ := isConfig
  obtain ⟨first, more, inStem⟩ := List.exists_cons_of_ne_nil (Text.split_ne_nil '.' stem)
  have parts : Text.split '.' (stem ++ ".hcl") = first :: (more ++ ["hcl"]) := by
    rw [ending_eq, Text.split_append, inStem]
    rfl
  have inFront : ¬(first = "" ∧ (more ++ ["hcl"]).length = 1) := by
    rintro ⟨rfl, alone⟩
    obtain rfl : more = [] := by simpa using alone
    exact nonempty (Text.eq_of_split_singleton inStem)
  have notUp : stem ++ ".hcl" ≠ ".." := by
    intro up
    have last := congrArg (fun s => s.toList.getLast?) up
    simp at last
  unfold extension?
  rw [parts]
  split
  · next none => cases none
  · next alone => simp at alone
  · next first' rest _ whole =>
    obtain ⟨rfl, rfl⟩ := List.cons.inj whole
    rw [if_neg inFront, if_neg notUp, List.getLast?_concat]

theorem isConfigName_of_extension? {name : String} (found : extension? name = some "hcl") :
    IsConfigName name := by
  unfold extension? at found
  split at found
  · cases found
  · cases found
  · next first rest _ parts =>
    split_ifs at found with inFront
    obtain ⟨front, rfl⟩ := List.getLast?_eq_some_iff.mp found
    rw [← List.cons_append] at parts
    obtain ⟨stem, rfl⟩ := Text.eq_append_of_split parts (List.cons_ne_nil first front)
    refine ⟨stem, ?_, (ending_eq stem).symm⟩
    rintro rfl
    have bare : [""] ++ ["hcl"] = (first :: front) ++ ["hcl"] := by
      rw [← parts, Text.split_append]
      rfl
    obtain ⟨rfl, rfl⟩ := List.cons.inj (List.append_cancel_right bare)
    exact inFront ⟨rfl, rfl⟩

theorem extension?_eq_some_iff {name : String} : extension? name = some "hcl" ↔ IsConfigName name :=
  ⟨isConfigName_of_extension?, extension?_of_isConfigName⟩

instance (name : String) : Decidable (IsConfigName name) :=
  decidable_of_iff _ extension?_eq_some_iff

/-- The names of a directory's configuration files, in ascending order: regular files with the ending. -/
structure Listing (fs : FileSystem) (loc : Location) (names : List String) : Prop where
  ascending : names.Pairwise (· < ·)
  mem_iff : ∀ name, name ∈ names ↔ IsConfigName name ∧ ∃ content, fs.get? (loc ++ [name]) = some (.file content)

variable {fs other : FileSystem} {loc : Location} {names : List String} {dir : String}

theorem Listing.unique {more : List String} (listing : Listing fs loc names) (listing' : Listing fs loc more) :
    names = more :=
  listing.ascending.eq_of_mem_iff listing'.ascending fun name => by rw [listing.mem_iff, listing'.mem_iff]

theorem listing_configFiles (sound : fs.Sound) (loc : Location) : Listing fs loc (configFiles fs loc) := by
  have sorted : (configFiles fs loc).Pairwise (· ≤ ·) := List.pairwise_mergeSort' _ _
  have once : (configFiles fs loc).Nodup :=
    (List.mergeSort_perm _ _).nodup_iff.mpr ((sound.nodup_entries loc).filter _)
  refine ⟨(sorted.and once).imp fun ⟨le, ne⟩ => lt_of_le_of_ne le ne, fun name => ?_⟩
  simp only [configFiles, List.mem_mergeSort, List.mem_filter, Bool.and_eq_true, beq_iff_eq,
    extension?_eq_some_iff, FileSystem.mem_entries]
  constructor
  · rintro ⟨-, isConfig, found⟩
    split at found
    · next content here => exact ⟨isConfig, content, here⟩
    · cases found
  · rintro ⟨isConfig, content, found⟩
    refine ⟨⟨_, (sound.get?_eq_some_iff (by simp)).mp found⟩, isConfig, ?_⟩
    rw [found]

/-! ### Loading files one after the other -/

theorem loadAll_ok_iff {start c : SharedConfig} {paths : List String} :
    (loadAll fs start paths).result = .ok c ↔
      ∃ configs, List.Forall₂ (fun path d => (loadFile fs path).result = .ok d) paths configs ∧
        c = configs.foldl merge start := by
  induction paths generalizing start with
  | nil =>
    constructor
    · intro ran
      cases ran
      exact ⟨[], .nil, rfl⟩
    · rintro ⟨configs, loaded, rfl⟩
      cases loaded
      rfl
  | cons path rest ih =>
    constructor
    · intro ran
      obtain ⟨next, atFile, ran⟩ := Checked.bind_ok ran
      obtain ⟨configs, loaded, whole⟩ := ih.mp ran
      exact ⟨next :: configs, .cons atFile loaded, whole⟩
    · rintro ⟨configs, loaded, rfl⟩
      obtain ⟨next, more, atFile, later, rfl⟩ := List.forall₂_cons_left_iff.mp loaded
      exact Checked.bind_of_ok atFile (ih.mpr ⟨more, later, rfl⟩)

theorem loadAll_congr {paths : List String} (same : ∀ path ∈ paths, loadFile other path = loadFile fs path)
    (start : SharedConfig) : loadAll other start paths = loadAll fs start paths := by
  induction paths generalizing start with
  | nil => rfl
  | cons path rest ih =>
    obtain ⟨first, later⟩ := List.forall_mem_cons.mp same
    unfold loadAll
    rw [first]
    exact congrArg _ (funext fun next => ih later _)

/-! ### Loading a directory -/

theorem loadDir_eq (located : fs.locate dir = .ok loc) (isDir : fs.get? loc = some .dir) :
    loadDir fs dir = loadAll fs {} ((configFiles fs loc).map (joinPath dir)) := by
  unfold loadDir
  rw [located]
  dsimp only
  rw [isDir]

/-- A regular file is loaded alike wherever the directory holds the same under its name. -/
theorem loadFile_of_file {name : String} {content : Bytes} (located : fs.locate dir = .ok loc)
    (isDir : fs.get? loc = some .dir) (located' : other.locate dir = .ok loc)
    (isDir' : other.get? loc = some .dir) (named : Path.IsName name) (shown : '\x00' ∉ name.toList)
    (found : fs.get? (loc ++ [name]) = some (.file content))
    (found' : other.get? (loc ++ [name]) = some (.file content)) :
    loadFile other (joinPath dir name) = loadFile fs (joinPath dir name) := by
  have text : fs.readText (joinPath dir name) = other.readText (joinPath dir name) := by
    have atName : fs.node (joinPath dir name) = _ := FileSystem.node_join located isDir named shown found
    have atName' : other.node (joinPath dir name) = _ := FileSystem.node_join located' isDir' named shown found'
    unfold FileSystem.readText FileSystem.readBytes
    rw [atName, atName']
  unfold loadFile
  rw [text]

/-- A file system that holds more, in any order: nothing of what is added is a configuration file of the
directory. -/
structure Widens (loc : Location) (fs other : FileSystem) : Prop where
  sound : other.Sound
  nodes : ∃ more, other.nodes.Perm (more ++ fs.nodes) ∧
    ∀ name content, (loc ++ [name], .file content) ∈ more → ¬IsConfigName name

namespace Widens

theorem get? (widens : Widens loc fs other) {place : Location} {node : Node}
    (found : fs.get? place = some node) : other.get? place = some node := by
  by_cases root : place = []
  · subst root
    exact found
  · rw [FileSystem.get?, if_neg root] at found
    obtain ⟨more, nodes, -⟩ := widens.nodes
    refine (widens.sound.get?_eq_some_iff root).mpr (nodes.mem_iff.mpr ?_)
    exact List.mem_append_right _ (FileSystem.mem_of_find found)

theorem locate (widens : Widens loc fs other) {place : Location} (located : fs.locate dir = .ok place) :
    other.locate dir = .ok place := by
  obtain ⟨shown, head, walked⟩ := FileSystem.locate_ok_iff.mp located
  exact FileSystem.locate_ok_iff.mpr ⟨shown, head, FileSystem.walk_of_dirs (fun _ => widens.get?) walked⟩

theorem listing (widens : Widens loc fs other) (sound : fs.Sound) (listing : Listing fs loc names) :
    Listing other loc names := by
  refine ⟨listing.ascending, fun name => ?_⟩
  rw [listing.mem_iff]
  refine and_congr_right fun isConfig => exists_congr fun content => ⟨widens.get?, fun found => ?_⟩
  have below : loc ++ [name] ≠ [] := by simp
  obtain ⟨more, nodes, others⟩ := widens.nodes
  rw [widens.sound.get?_eq_some_iff below, nodes.mem_iff, List.mem_append] at found
  rw [sound.get?_eq_some_iff below]
  exact found.resolve_left fun added => others name content added isConfig

theorem loadDir (widens : Widens loc fs other) (sound : fs.Sound) (located : fs.locate dir = .ok loc)
    (isDir : fs.get? loc = some .dir) : loadDir other dir = loadDir fs dir := by
  have listed := listing_configFiles sound loc
  have sameFiles : configFiles other loc = configFiles fs loc :=
    (listing_configFiles widens.sound loc).unique (widens.listing sound listed)
  rw [loadDir_eq located isDir, loadDir_eq (widens.locate located) (widens.get? isDir), sameFiles]
  refine loadAll_congr (fun path member => ?_) {}
  obtain ⟨name, inListing, rfl⟩ := List.mem_map.mp member
  obtain ⟨-, content, found⟩ := (listed.mem_iff name).mp inListing
  have isListed := (sound.get?_eq_some_iff (by simp)).mp found
  obtain ⟨named, shown⟩ := sound.named _ isListed name (by simp)
  exact loadFile_of_file located isDir (widens.locate located) (widens.get? isDir) named shown found
    (widens.get? found)

end Widens

/-- A directory is loaded as its configuration files on top of each other, in ascending order of their names,
or fails as the first of these that does. Neither the order in which its entries are listed nor anything else
that it holds is of account. -/
theorem loadDir_by_name (sound : fs.Sound) (located : fs.locate dir = .ok loc)
    (isDir : fs.get? loc = some .dir) :
    (∀ other, Widens loc fs other → loadDir other dir = loadDir fs dir) ∧
      ∃ names, Listing fs loc names ∧
        (∀ c, (loadDir fs dir).result = .ok c ↔
          ∃ configs, List.Forall₂ (fun path d => (loadFile fs path).result = .ok d)
            (names.map (joinPath dir)) configs ∧ c = configs.foldl merge {}) ∧
        (∀ stop, (loadDir fs dir).result = .error stop ↔
          ∃ before path after, names.map (joinPath dir) = before ++ path :: after ∧
            (∀ earlier ∈ before, ∃ c, (loadFile fs earlier).result = .ok c) ∧
            (loadFile fs path).result = .error stop) := by
  refine ⟨fun other widens => widens.loadDir sound located isDir, configFiles fs loc,
    listing_configFiles sound loc, fun c => ?_, fun stop => ?_⟩
  · rw [loadDir_eq located isDir]
    exact loadAll_ok_iff
  · rw [loadDir_eq located isDir]
    exact loadAll_error_iff

/-- A directory with two configuration files. -/
def plainDir : FileSystem :=
  ⟨[(["etc", "b.hcl"], .file (.ofString "log_level = \"trace\"\n")), (["etc"], .dir),
    (["etc", "a.hcl"], .file (.ofString "log_level = \"info\"\npid_file = \"/run/pid\"\n"))]⟩

/-- What looks like a configuration file of the directory and is none. -/
def lookalikes : List (Location × Node) :=
  [(["etc", "c.hcl", "a.hcl"], .file []), (["etc", ".hcl"], .file []), (["etc", "c.hcl"], .dir),
    (["etc", "A.HCL"], .file []), (["etc", "hcl"], .file []), (["etc", "b.hcl~"], .file [])]

theorem sound_plainDir : plainDir.Sound :=
  ⟨by decide, by decide⟩

theorem widens_plainDir : Widens ["etc"] plainDir ⟨plainDir.nodes.reverse ++ lookalikes⟩ := by
  refine ⟨⟨by decide, by decide⟩, lookalikes, by decide, fun name content member => ?_⟩
  have inDir : (["etc", name], Node.file content) ∈ lookalikes := member
  simp only [lookalikes, List.mem_cons, List.not_mem_nil, Prod.mk.injEq, List.cons.injEq, reduceCtorEq, and_true,
    true_and, and_false, false_and, false_or, or_false] at inDir
  obtain ⟨rfl, -⟩ | ⟨rfl, -⟩ | ⟨rfl, -⟩ | ⟨rfl, -⟩ := inDir <;> decide

theorem listing_plainDir : Listing plainDir ["etc"] ["a.hcl", "b.hcl"] := by
  refine ⟨by decide, fun name => ⟨fun member => ?_, ?_⟩⟩
  · simp only [List.mem_cons, List.not_mem_nil, or_false] at member
    obtain rfl | rfl := member
    · exact ⟨by decide, _, rfl⟩
    · exact ⟨by decide, _, rfl⟩
  · rintro ⟨-, content, found⟩
    have member := (sound_plainDir.get?_eq_some_iff (by simp)).mp found
    simp only [plainDir, List.mem_cons, List.not_mem_nil, Prod.mk.injEq, List.cons_append, List.nil_append,
      List.cons.injEq, reduceCtorEq, and_true, true_and, and_false, false_or, or_false] at member
    obtain ⟨rfl, -⟩ | ⟨rfl, -⟩ := member <;> decide

/-- The later name counts, whatever else is there and in whichever order. -/
theorem loadDir_plainDir :
    plainDir.Sound ∧ plainDir.locate "/etc/" = .ok ["etc"] ∧ plainDir.get? ["etc"] = some .dir ∧
      loadDir ⟨plainDir.nodes.reverse ++ lookalikes⟩ "/etc/" = loadDir plainDir "/etc/" ∧
      (loadDir plainDir "/etc/").result = .ok {
        logLevel := some "trace", pidFile := some "/run/pid", foundKeys := ["log_level", "pid_file"] } := by
  have located : plainDir.locate "/etc/" = .ok ["etc"] := by rfl
  obtain ⟨sameEither, names, listing, whole, -⟩ := loadDir_by_name sound_plainDir located rfl
  obtain rfl := listing.unique listing_plainDir
  refine ⟨sound_plainDir, located, rfl, sameEither _ widens_plainDir, (whole _).mpr ⟨[
    { logLevel := some "info", pidFile := some "/run/pid", foundKeys := ["log_level", "pid_file"] },
    { logLevel := some "trace", foundKeys := ["log_level"] }], ?_, by decide⟩⟩
  refine .cons (Outcome.ok_of_toOption ?_) (.cons (Outcome.ok_of_toOption ?_) .nil) <;> decide +kernel

end ServiceKit.SharedConfig
