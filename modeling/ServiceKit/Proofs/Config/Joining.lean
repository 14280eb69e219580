import ServiceKit.Proofs.Config.Placement
import ServiceKit.Proofs.Config.Shared
import ServiceKit.Proofs.Config.Stanza

namespace ServiceKit
variable {a b : Hcl.Body}

/-- The listeners of two documents, one after the other. -/
theorem Listener.ofBody_append {ls ms : List Listener} (ran : (ofBody a).result = .ok ls)
    (ran' : (ofBody b).result = .ok ms) : (ofBody (a ++ b)).result = .ok (ls ++ ms) := by
  unfold ofBody at *
  rw [Hcl.Body.blocksNamed_append, List.zipIdx_append]
  refine Checked.forEach_append_ok ran ((Checked.forEach_zipIdx_agree ?_ _ _ _).ok ran')
  exact fun b i j => ofBlock_agree i j b

theorem Seal.ofBlocks_append {block : String} {ss ts : List Seal}
    (few : (Hcl.Body.blocksNamed (a ++ b) block).length ≤ maxBlocks)
    (ran : ofBlocks a block = .ok ss) (ran' : ofBlocks b block = .ok ts) :
    ofBlocks (a ++ b) block = .ok (ss ++ ts) := by
  obtain ⟨bs, found, ran⟩ := Outcome.bind_ok ran
  obtain ⟨cs, found', ran'⟩ := Outcome.bind_ok ran'
  obtain ⟨rfl, -⟩ := Hcl.Body.blocksUpTo_ok found
  obtain ⟨rfl, -⟩ := Hcl.Body.blocksUpTo_ok found'
  unfold ofBlocks
  rw [Hcl.Body.blocksUpTo_of_le few, Hcl.Body.blocksNamed_append]
  change List.mapM _ (List.zipIdx _) = _
  rw [List.zipIdx_append]
  refine Outcome.mapM_append_ok ran ((Outcome.mapM_zipIdx_agree ?_ _ _ _).ok ran')
  exact fun b i j => ofBlock_agree block i j b

/-- The seals of two documents: those of both of one block name before those of the other. -/
theorem Seal.ofBody_append {ss ts : List Seal}
    (fewSeals : (Hcl.Body.blocksNamed (a ++ b) "seal").length ≤ maxBlocks)
    (fewKmses : (Hcl.Body.blocksNamed (a ++ b) "kms").length ≤ maxBlocks)
    (ran : ofBody a = .ok ss) (ran' : ofBody b = .ok ts) :
    ∃ seals kmses seals' kmses', ofBlocks a "seal" = .ok seals ∧ ofBlocks a "kms" = .ok kmses ∧
      ofBlocks b "seal" = .ok seals' ∧ ofBlocks b "kms" = .ok kmses' ∧
      ss ++ ts = (seals ++ kmses) ++ (seals' ++ kmses') ∧
      ofBody (a ++ b) = .ok ((seals ++ seals') ++ (kmses ++ kmses')) := by
  obtain ⟨seals, atSeals, rest⟩ := Outcome.bind_ok ran
  obtain ⟨kmses, atKmses, rest⟩ := Outcome.bind_ok rest
  obtain ⟨seals', atSeals', rest'⟩ := Outcome.bind_ok ran'
  obtain ⟨kmses', atKmses', rest'⟩ := Outcome.bind_ok rest'
  cases rest
  cases rest'
  refine ⟨seals, kmses, seals', kmses', atSeals, atKmses, atSeals', atKmses', rfl, ?_⟩
  unfold ofBody
  rw [ofBlocks_append fewSeals atSeals atSeals', ofBlocks_append fewKmses atKmses atKmses']
  rfl

/-- What is read of the one block that there may be of a name: of two documents one has none. -/
theorem Checked.single_append {α : Type} {ofBody : Hcl.Body → Checked (Option α)} {name : String}
    (sameBlocks : ∀ a b, Hcl.Body.blocksNamed a name = Hcl.Body.blocksNamed b name → ofBody a = ofBody b)
    (absent : (ofBody []).result = .ok none) {x y : Option α}
    (few : (Hcl.Body.blocksNamed (a ++ b) name).length ≤ 1) (ran : (ofBody a).result = .ok x)
    (ran' : (ofBody b).result = .ok y) : (ofBody (a ++ b)).result = .ok (y.or x) := by
  rw [Hcl.Body.blocksNamed_append] at few
  cases inFirst : Hcl.Body.blocksNamed a name with
  | nil =>
    rw [sameBlocks a [] inFirst, absent] at ran
    cases ran
    rw [Option.or_none, sameBlocks (a ++ b) b (by rw [Hcl.Body.blocksNamed_append, inFirst, List.nil_append])]
    exact ran'
  | cons block more =>
    have inSecond : Hcl.Body.blocksNamed b name = [] := by
      rw [inFirst] at few
      refine List.eq_nil_of_length_eq_zero ?_
      simp only [List.cons_append, List.length_cons, List.length_append] at few
      omega
    rw [sameBlocks b [] inSecond, absent] at ran'
    cases ran'
    rw [Option.none_or, sameBlocks (a ++ b) a (by rw [Hcl.Body.blocksNamed_append, inSecond, List.append_nil])]
    exact ran

theorem Telemetry.ofBody_append {x y : Option Telemetry}
    (few : (Hcl.Body.blocksNamed (a ++ b) "telemetry").length ≤ 1) (ran : (ofBody a).result = .ok x)
    (ran' : (ofBody b).result = .ok y) : (ofBody (a ++ b)).result = .ok (y.or x) :=
  Checked.single_append (fun _ _ => ofBody_congr) rfl few ran ran'

theorem Entropy.ofBody_append {x y : Option Entropy}
    (few : (Hcl.Body.blocksNamed (a ++ b) "entropy").length ≤ 1) (ran : (ofBody a).result = .ok x)
    (ran' : (ofBody b).result = .ok y) : (ofBody (a ++ b)).result = .ok (y.or x) :=
  Checked.single_append (fun _ _ => ofBody_congr) rfl few ran ran'

/-- The settings of two documents without a common one. -/
theorem Stanza.ofBody_append {path : String} {s t : Stanza}
    (apart : ∀ name ∈ (Hcl.Body.attributes a).map Prod.fst, name ∉ (Hcl.Body.attributes b).map Prod.fst)
    (ran : ofBody path a.withoutBlocks = .ok s) (ran' : ofBody path b.withoutBlocks = .ok t) :
    ∃ u, ofBody path (Hcl.Body.withoutBlocks (a ++ b)) = .ok u ∧
      ∀ key, u.get? key = (t.get? key).or (s.get? key) ∧ (s.get? key = none ∨ t.get? key = none) := by
  have isRead : a.values?.isSome := by
    rw [← Hcl.Body.isSome_fields?_withoutBlocks, (ofBody_ok ran).2]
    rfl
  have isRead' : b.values?.isSome := by
    rw [← Hcl.Body.isSome_fields?_withoutBlocks, (ofBody_ok ran').2]
    rfl
  obtain ⟨vs, left⟩ := Option.isSome_iff_exists.mp isRead
  obtain ⟨ws, right⟩ := Option.isSome_iff_exists.mp isRead'
  have both : (Hcl.Body.fields? (Hcl.Body.withoutBlocks (a ++ b))).isSome := by
    rw [Hcl.Body.isSome_fields?_withoutBlocks, Hcl.Body.values?_append left right]
    rfl
  obtain ⟨fields, found⟩ := Option.isSome_iff_exists.mp both
  have joined : ofBody path (Hcl.Body.withoutBlocks (a ++ b)) = .ok ⟨path, fields⟩ := by
    unfold ofBody
    rw [found]
  refine ⟨⟨path, fields⟩, joined, fun key => ⟨?_, ?_⟩⟩
  · rw [get?_ofBody joined, get?_ofBody ran, get?_ofBody ran', Hcl.Body.setting?_append isRead isRead' apart]
  · rw [get?_ofBody ran, get?_ofBody ran']
    cases inFirst : a.setting? key with
    | none => exact Or.inl rfl
    | some v =>
      cases inSecond : b.setting? key with
      | none => exact Or.inr rfl
      | some w =>
        exact absurd (Hcl.Body.mem_of_setting? inSecond) (apart key (Hcl.Body.mem_of_setting? inFirst))

namespace SharedConfig

theorem mem_addNew {key : String} (keys more : List String) :
    key ∈ addNew keys more ↔ key ∈ keys ∨ key ∈ more := by
  induction more generalizing keys with
  | nil => simp [addNew]
  | cons k rest ih =>
    rw [addNew, ih]
    split_ifs with known
    · have member : k ∈ keys := by simpa using known
      grind
    · simp [or_assoc]

theorem nodup_addNew (more : List String) {keys : List String} (once : keys.Nodup) :
    (addNew keys more).Nodup := by
  induction more generalizing keys with
  | nil => exact once
  | cons k rest ih =>
    rw [addNew]
    split_ifs with known
    · exact ih once
    · have unknown : k ∉ keys := by simpa using known
      exact ih (List.nodup_append.mpr ⟨once, List.pairwise_singleton _ _, by grind⟩)

/-- Two lists of the same keys, each once. -/
structure SameKeys (keys other : List String) : Prop where
  once : keys.Nodup
  once' : other.Nodup
  same : ∀ key, key ∈ keys ↔ key ∈ other

theorem nodup_union {keys more : List String} (once : keys.Nodup) (once' : more.Nodup) :
    (keys ++ more.filter fun k => !keys.contains k).Nodup :=
  List.nodup_append.mpr ⟨once, once'.filter _, by simp; grind⟩

theorem mem_union {key : String} (keys more : List String) :
    key ∈ keys ++ more.filter (fun k => !keys.contains k) ↔ key ∈ keys ∨ key ∈ more := by
  simp
  grind

theorem foundKeys_append (a b : Hcl.Body) :
    SameKeys (addNew [] (names (a ++ b)))
      (addNew [] (names a) ++ (addNew [] (names b)).filter fun k => !(addNew [] (names a)).contains k) where
  once := nodup_addNew _ List.Pairwise.nil
  once' := nodup_union (nodup_addNew _ List.Pairwise.nil) (nodup_addNew _ List.Pairwise.nil)
  same key := by
    rw [mem_union]
    simp only [mem_addNew, names, Hcl.Body.attributes_append, Hcl.Body.blocks_append,
      List.map_append, List.mem_append, List.not_mem_nil, false_or]
    tauto

/-- The names that nothing reads: attributes that are no settings, and blocks of other kinds. -/
theorem mem_unusedNames {top : Stanza} {body : Hcl.Body}
    (read : Stanza.ofBody "config" (Hcl.Body.withoutBlocks body) = .ok top) :
    (unusedNames top body).Nodup ∧ ∀ key, key ∈ unusedNames top body ↔
      key ∈ (Hcl.Body.attributes body).map Prod.fst ∧ key ∉ settings ∨
        key ∈ (Hcl.Body.blocks body).map (·.name) ∧ key ∉ blockNames := by
  obtain ⟨once, names⟩ := Stanza.unknown_ofBody read settings
  refine ⟨nodup_addNew _ once, fun key => ?_⟩
  rw [unusedNames, mem_addNew, names, List.mem_filter]
  simp

theorem unusedKeys_append {s t u : Stanza} (first : Stanza.ofBody "config" a.withoutBlocks = .ok s)
    (second : Stanza.ofBody "config" b.withoutBlocks = .ok t)
    (both : Stanza.ofBody "config" (Hcl.Body.withoutBlocks (a ++ b)) = .ok u) :
    SameKeys (unusedNames u (a ++ b))
      (unusedNames s a ++ (unusedNames t b).filter fun k => !(unusedNames s a).contains k) where
  once := (mem_unusedNames both).1
  once' := nodup_union (mem_unusedNames first).1 (mem_unusedNames second).1
  same key := by
    rw [mem_union, (mem_unusedNames both).2, (mem_unusedNames first).2, (mem_unusedNames second).2,
      Hcl.Body.attributes_append, Hcl.Body.blocks_append]
    simp only [List.map_append, List.mem_append]
    tauto

/-- How often blocks may stand in a document. -/
def blockLimits : List (String × Nat) :=
  [("seal", Seal.maxBlocks), ("kms", Seal.maxBlocks), ("telemetry", 1), ("entropy", 1)]

/-- What the document made of two is read as, beside the merge of what these are read as. Only the seals
of the first and those of the second kind trade places, and the keys stand in another order. -/
structure Joined (a b : Hcl.Body) (merged z : SharedConfig) : Prop where
  others : z = { merged with seals := z.seals, foundKeys := z.foundKeys, unusedKeys := z.unusedKeys }
  seals : ∃ seals kmses seals' kmses',
    Seal.ofBlocks a "seal" = .ok seals ∧ Seal.ofBlocks a "kms" = .ok kmses ∧
      Seal.ofBlocks b "seal" = .ok seals' ∧ Seal.ofBlocks b "kms" = .ok kmses' ∧
      merged.seals = (seals ++ kmses) ++ (seals' ++ kmses') ∧
      z.seals = (seals ++ seals') ++ (kmses ++ kmses')
  foundKeys : SameKeys z.foundKeys merged.foundKeys
  unusedKeys : SameKeys z.unusedKeys merged.unusedKeys

/-- A switch that one document sets alone is on in both together as it is in one of them. -/
theorem flag_or {s t u : Stanza} {key : String} {x y : Bool}
    (joined : u.get? key = (t.get? key).or (s.get? key)) (apart : s.get? key = none ∨ t.get? key = none)
    (ran : s.flag key = .ok x) (ran' : t.flag key = .ok y) : u.flag key = .ok (x || y) := by
  obtain ⟨found, atKey, rfl⟩ := Outcome.map_ok ran
  obtain ⟨found', atKey', rfl⟩ := Outcome.map_ok ran'
  have both : u.bool key = .ok (found'.or found) := Stanza.read_or joined atKey atKey'
  rw [Stanza.flag, both]
  rcases apart with missing | missing
  · obtain rfl : none = found := Except.ok.inj ((Stanza.read_of_none missing).symm.trans atKey)
    rw [Option.or_none]
    rfl
  · obtain rfl : none = found' := Except.ok.inj ((Stanza.read_of_none missing).symm.trans atKey')
    exact congrArg Except.ok (Bool.or_false _).symm

/-- Splitting a document over files does not change its meaning. -/
theorem joined_of_apart {x y : SharedConfig}
    (ran : (ofBody a).result = .ok x) (ran' : (ofBody b).result = .ok y)
    (apart : ∀ name ∈ (Hcl.Body.attributes a).map Prod.fst, name ∉ (Hcl.Body.attributes b).map Prod.fst)
    (few : ∀ row ∈ blockLimits, (Hcl.Body.blocksNamed (a ++ b) row.1).length ≤ row.2) :
    ∃ z, (ofBody (a ++ b)).result = .ok z ∧ Joined a b (x.merge y) z := by
  obtain ⟨s, read⟩ := ofBody_ok ran
  obtain ⟨t, read'⟩ := ofBody_ok ran'
  simp only [blockLimits, List.forall_mem_cons] at few
  obtain ⟨fewSeals, fewKmses, fewTelemetry, fewEntropy, -⟩ := few
  obtain ⟨u, atTop, joined⟩ := Stanza.ofBody_append apart read.atTop read'.atTop
  obtain ⟨seals, kmses, seals', kmses', atSeals, atKmses, atSeals', atKmses', merged, held⟩ :=
    Seal.ofBody_append fewSeals fewKmses read.seals read'.seals
  have texts : ∀ key, u.string key = (t.string key).or (s.string key) := by
    intro key
    rw [Stanza.string, (joined key).1, Option.map_or]
    rfl
  have lowered : ∀ key, u.lowercase key = (t.lowercase key).or (s.lowercase key) := by
    intro key
    rw [Stanza.lowercase, texts, Option.map_or]
    rfl
  let z : SharedConfig := { x.merge y with
    seals := (seals ++ seals') ++ (kmses ++ kmses')
    foundKeys := addNew [] (names (a ++ b))
    unusedKeys := unusedNames u (a ++ b) }
  have together : ReadFrom u (a ++ b) z := {
    atTop
    listeners := Listener.ofBody_append read.listeners read'.listeners
    seals := held
    telemetry := Telemetry.ofBody_append fewTelemetry read.telemetry read'.telemetry
    entropy := Entropy.ofBody_append fewEntropy read.entropy read'.entropy
    disableMlock := flag_or (joined _).1 (joined _).2 read.disableMlock read'.disableMlock
    defaultMaxRequestDuration :=
      Stanza.duration_or (joined _).1 read.defaultMaxRequestDuration read'.defaultMaxRequestDuration
    logLevel := by rw [lowered, ← read.logLevel, ← read'.logLevel]; rfl
    logFormat := by rw [lowered, ← read.logFormat, ← read'.logFormat]; rfl
    pidFile := by rw [texts, ← read.pidFile, ← read'.pidFile]; rfl
    clusterName := by rw [texts, ← read.clusterName, ← read'.clusterName]; rfl
    foundKeys := rfl
    unusedKeys := rfl }
  refine ⟨z, ofBody_of_readFrom together, rfl, ?_, ?_, ?_⟩
  · exact ⟨seals, kmses, seals', kmses', atSeals, atKmses, atSeals', atKmses', merged, rfl⟩
  · change SameKeys _ (x.foundKeys ++ y.foundKeys.filter fun k => !x.foundKeys.contains k)
    rw [read.foundKeys, read'.foundKeys]
    exact foundKeys_append a b
  · change SameKeys _ (x.unusedKeys ++ y.unusedKeys.filter fun k => !x.unusedKeys.contains k)
    rw [read.unusedKeys, read'.unusedKeys]
    exact unusedKeys_append read.atTop read'.atTop atTop

/-- One document in two files: either has a listener and seals, and the second has what the first has not. -/
def frontFile : Hcl.Body :=
  [.attr "disable_mlock" (.bool true), .attr "api_addr" (.str "1.2.3.4"),
    .block "kms" ["awskms"] [.attr "purpose" (.str "root")], .block "listener" ["tcp"] [],
    .block "seal" ["transit"] []]

def backFile : Hcl.Body :=
  [.block "seal" ["shamir"] [], .attr "log_level" (.str "INFO"), .attr "pid_file" .null,
    .block "listener" ["unix"] [.attr "address" (.str "/run/keel.sock")], .block "telemetry" [] []]

theorem joined_frontFile_backFile :
    ∃ x y z, (ofBody frontFile).result = .ok x ∧ (ofBody backFile).result = .ok y ∧
      (ofBody (frontFile ++ backFile)).result = .ok z ∧ Joined frontFile backFile (x.merge y) z := by
  have accepted : (ofBody frontFile).result.toOption.isSome ∧ (ofBody backFile).result.toOption.isSome := by
    decide +kernel
  obtain ⟨x, found⟩ := Option.isSome_iff_exists.mp accepted.1
  obtain ⟨y, found'⟩ := Option.isSome_iff_exists.mp accepted.2
  have ran := Outcome.ok_of_toOption found
  have ran' := Outcome.ok_of_toOption found'
  obtain ⟨z, joined⟩ := joined_of_apart ran ran' (by decide) (by decide)
  exact ⟨x, y, z, ran, ran', joined⟩

end SharedConfig

end ServiceKit
