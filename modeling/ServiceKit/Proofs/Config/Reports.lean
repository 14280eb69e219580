import Mathlib.Data.List.Nodup
import ServiceKit.Proofs.Config.Blame
import ServiceKit.Proofs.Config.Ignored
import ServiceKit.Proofs.Config.Listener
import ServiceKit.Proofs.Hcl.Decoding

namespace ServiceKit

open Checked (Warns)

namespace Stanza

/-- The warnings about the keys that are not settings. -/
def unread (s : Stanza) (settings : List String) : List Warning :=
  (s.unknown settings).map (.unknownKey s.path)

theorem object_eq (s : Stanza) (key : String) :
    s.object key = (Json.lookup key s.fields).bind Json.firstObject? := by
  unfold object get?
  cases Json.lookup key s.fields with
  | none => rfl
  | some v => cases v <;> rfl

theorem mem_unread {s : Stanza} {settings : List String} {path key : String} :
    .unknownKey path key ∈ s.unread settings ↔
      s.path = path ∧ key ∈ s.fields.map Prod.fst ∧ key ∉ settings := by
  simp only [unread, unknown, List.mem_map, List.mem_filter, Warning.unknownKey.injEq]
  grind

theorem nodup_unread {s : Stanza} (settings : List String) (once : (s.fields.map Prod.fst).Nodup) :
    (s.unread settings).Nodup :=
  List.Nodup.map (fun _ _ same => (Warning.unknownKey.inj same).2) (once.filter _)

/-- A dotted name tells its parts. -/
theorem below_injective {place other : String} {keys keys' : List String} (plain : '.' ∉ place.toList)
    (plain' : '.' ∉ other.toList) (plains : ∀ key ∈ keys, '.' ∉ key.toList)
    (plains' : ∀ key ∈ keys', '.' ∉ key.toList) (same : below place keys = below other keys') :
    place = other ∧ keys = keys' := by
  obtain rfl := place_of_below plain plain' same
  refine ⟨rfl, ?_⟩
  induction keys generalizing place keys' with
  | nil =>
    have texts := congrArg String.toList same
    cases keys' with
    | nil => rfl
    | cons key' more' => simp [toList_below] at texts
  | cons key more ih =>
    cases keys' with
    | nil =>
      have texts := congrArg String.toList same
      simp [toList_below] at texts
    | cons key' more' =>
      obtain ⟨first, later⟩ := List.forall_mem_cons.mp plains
      obtain ⟨first', later'⟩ := List.forall_mem_cons.mp plains'
      have next := below_of_below_cons same
      obtain rfl := place_of_below first first' next
      rw [ih first later later' first next]

end Stanza

/-- The stanzas in which unknown keys are looked for. -/
inductive Spot where
  | listener (index : Nat)
  | listenerTelemetry (index : Nat)
  | telemetry
  | entropy

namespace Spot

/-- The name of a stanza in warnings. -/
def path : Spot → String
  | listener i => "listeners." ++ toString i
  | listenerTelemetry i => "listeners." ++ toString i ++ "." ++ "telemetry"
  | telemetry => "telemetry"
  | entropy => "entropy"

def settings : Spot → List String
  | listener _ => Listener.settings
  | listenerTelemetry _ => Listener.telemetrySettings
  | telemetry => Telemetry.settings
  | entropy => Entropy.settings

/-- What is read of a stanza there is the same without a key. -/
def Ignores (key : String) : Spot → Prop
  | listener _ =>
    ∀ label s, (Listener.ofStanza label (s.without key)).result = (Listener.ofStanza label s).result
  | listenerTelemetry _ =>
    ∀ s : Stanza, (s.without key).flag "unauthenticated_metrics_access" = s.flag "unauthenticated_metrics_access"
  | telemetry => ∀ s, Telemetry.ofStanza (s.without key) = Telemetry.ofStanza s
  | entropy =>
    ∀ s : Stanza, Entropy.readMode (s.without key) = Entropy.readMode s ∧
      (s.without key).string "seal_name" = s.string "seal_name"

theorem ignores_of_notMem {spot : Spot} {key : String} (unknown : key ∉ spot.settings) : spot.Ignores key := by
  cases spot with
  | listener i => exact fun label s => Listener.ofStanza_sameOn (s.sameOn_without unknown) label
  | listenerTelemetry i => exact fun s => (s.sameOn_without unknown).flag List.mem_cons_self
  | telemetry => exact fun s => Telemetry.ofStanza_sameOn (s.sameOn_without unknown)
  | entropy =>
    intro s
    have same := s.sameOn_without unknown
    exact ⟨Entropy.readMode_sameOn same, same.string (List.mem_cons_of_mem _ List.mem_cons_self)⟩

/-- A stanza of one key, with a value that is felt wherever the key is read. -/
def probe (key : String) : Stanza where
  path := ""
  fields := [(key, match key with
    | "type" => .str "tcp"
    | "mode" => .str "augmentation"
    | _ => .obj [("unauthenticated_metrics_access", .obj [])])]

theorem not_ignores_of_mem {spot : Spot} {key : String} (known : key ∈ spot.settings) : ¬spot.Ignores key := by
  intro ignored
  cases spot with
  | listener i =>
    -- The type is read only if there is no label, and without a type nothing else is.
    have felt : ∀ key ∈ Listener.settings, ∃ label ∈ [none, some "tcp"],
        (Listener.ofStanza label ((probe key).without key)).result.toOption ≠
          (Listener.ofStanza label (probe key)).result.toOption := by decide +kernel
    obtain ⟨label, -, different⟩ := felt key known
    exact different (congrArg Except.toOption (ignored label (probe key)))
  | listenerTelemetry i =>
    have felt : ∀ key ∈ Listener.telemetrySettings,
        (((probe key).without key).flag "unauthenticated_metrics_access").toOption ≠
          ((probe key).flag "unauthenticated_metrics_access").toOption := by decide +kernel
    exact felt key known (congrArg Except.toOption (ignored (probe key)))
  | telemetry =>
    have felt : ∀ key ∈ Telemetry.settings, (Telemetry.ofStanza ((probe key).without key)).toOption ≠
        (Telemetry.ofStanza (probe key)).toOption := by decide +kernel
    exact felt key known (congrArg Except.toOption (ignored (probe key)))
  | entropy =>
    have felt : ∀ key ∈ Entropy.settings,
        (Entropy.readMode ((probe key).without key)).toOption ≠ (Entropy.readMode (probe key)).toOption ∨
          ((probe key).without key).string "seal_name" ≠ (probe key).string "seal_name" := by decide +kernel
    obtain ⟨mode, name⟩ := ignored (probe key)
    rcases felt key known with different | different
    · exact different (congrArg Except.toOption mode)
    · exact different name

/-- The settings of a stanza are the keys that it is read for, no more and no fewer. -/
theorem ignores_iff {spot : Spot} {key : String} : spot.Ignores key ↔ key ∉ spot.settings :=
  ⟨fun ignored known => not_ignores_of_mem known ignored, ignores_of_notMem⟩

/-- What a document has there. -/
def bodies (body : Hcl.Body) : Spot → List Hcl.Body
  | listener i => (body.blocksNamed "listener")[i]?.toList.map (·.body)
  | listenerTelemetry i =>
    (body.blocksNamed "listener")[i]?.toList.flatMap fun b =>
      (Hcl.Body.blocksNamed b.body "telemetry").map (·.body)
  | telemetry => (body.blocksNamed "telemetry").map (·.body)
  | entropy => (body.blocksNamed "entropy").map (·.body)

/-- The names that come to be compared with the settings. -/
def seen (body : Hcl.Body) : Spot → List String
  | listener i => (body.blocksNamed "listener")[i]?.elim [] fun b => b.body.map Hcl.Item.name
  | listenerTelemetry i =>
    (body.blocksNamed "listener")[i]?.elim [] fun b => Hcl.Body.namesBelow b.body "telemetry"
  | telemetry => (body.blocksNamed "telemetry").flatMap fun b => (Hcl.Body.attributes b.body).map Prod.fst
  | entropy => (body.blocksNamed "entropy").flatMap fun b => b.body.map Hcl.Item.name

/-- The fields that are decoded there. -/
def fields (body : Hcl.Body) : Spot → List (String × Json)
  | listener i => ((body.blocksNamed "listener")[i]?.bind fun b => Hcl.Body.fields? b.body).getD []
  | listenerTelemetry i =>
    ((((body.blocksNamed "listener")[i]?.bind fun b => Hcl.Body.fields? b.body).bind
      (Json.lookup "telemetry")).bind Json.firstObject?).getD []
  | telemetry => ((body.blocksNamed "telemetry").head?.bind fun b => Hcl.Body.fields? b.body.withoutBlocks).getD []
  | entropy => ((body.blocksNamed "entropy").head?.bind fun b => Hcl.Body.fields? b.body).getD []

def stanza (body : Hcl.Body) (spot : Spot) : Stanza :=
  ⟨spot.path, spot.fields body⟩

/-- The warnings about a stanza of a document. -/
def warnings (body : Hcl.Body) (spot : Spot) : List Warning :=
  (spot.stanza body).unread spot.settings

/-! ### Names of stanzas -/

def title : Spot → String
  | listener _ | listenerTelemetry _ => "listeners"
  | telemetry => "telemetry"
  | entropy => "entropy"

def keys : Spot → List String
  | listener i => [toString i]
  | listenerTelemetry i => [toString i, "telemetry"]
  | telemetry | entropy => []

theorem path_eq_below (spot : Spot) : spot.path = Stanza.below spot.title spot.keys := by
  cases spot <;> rfl

theorem plain_title (spot : Spot) : '.' ∉ spot.title.toList := by
  cases spot <;> simp [title]

theorem plain_keys (spot : Spot) : ∀ key ∈ spot.keys, '.' ∉ key.toList := by
  have plain : ∀ i : Nat, '.' ∉ (toString i).toList := Stanza.dot_notMem_number
  cases spot with
  | listener i => exact List.forall_mem_singleton.mpr (plain i)
  | listenerTelemetry i => exact List.forall_mem_cons.mpr ⟨plain i, List.forall_mem_singleton.mpr (by decide)⟩
  | telemetry | entropy => nofun

/-- No two stanzas of a document have one name. -/
theorem path_injective {spot other : Spot} (same : spot.path = other.path) : spot = other := by
  rw [path_eq_below, path_eq_below] at same
  obtain ⟨titles, numbers⟩ := Stanza.below_injective spot.plain_title other.plain_title spot.plain_keys
    other.plain_keys same
  have index : ∀ {i j : Nat} {more more' : List String}, toString i :: more = toString j :: more' → i = j :=
    fun same => Stanza.number_injective (List.cons.inj same).1
  have deeper : ∀ i j : Nat, (listener i).keys ≠ (listenerTelemetry j).keys := fun i j same =>
    absurd (congrArg List.length same) (by simp [keys])
  cases spot with
  | listener i =>
    cases other with
    | listener j => exact congrArg listener (index numbers)
    | listenerTelemetry j => exact absurd numbers (deeper i j)
    | telemetry | entropy => exact absurd titles (by simp [title])
  | listenerTelemetry i =>
    cases other with
    | listener j => exact absurd numbers.symm (deeper j i)
    | listenerTelemetry j => exact congrArg listenerTelemetry (index numbers)
    | telemetry | entropy => exact absurd titles (by simp [title])
  | telemetry =>
    cases other with
    | telemetry => rfl
    | _ => exact absurd titles (by simp [title])
  | entropy =>
    cases other with
    | entropy => rfl
    | _ => exact absurd titles (by simp [title])

end Spot

/-! ### The warnings of the readers -/

namespace Listener

theorem readTelemetry_warns (s : Stanza) :
    Warns (readTelemetry s)
      (Stanza.unread ⟨s.keyPath "telemetry", (s.object "telemetry").getD []⟩ telemetrySettings) := by
  unfold readTelemetry Stanza.nested
  cases s.object "telemetry" with
  | none => exact .pure false
  | some fields =>
    refine .step fun access _ => ?_
    exact (Warns.warn _).andReturn

theorem ofStanza_warns (label : Option String) (s : Stanza) :
    Warns (ofStanza label s)
      (Stanza.unread ⟨s.keyPath "telemetry", (s.object "telemetry").getD []⟩ telemetrySettings ++
        s.unread settings) := by
  unfold ofStanza
  refine .step fun kind _ => .step fun purpose _ => .step fun size _ => .step fun duration _ => ?_
  refine .step fun required _ => .step fun tls _ => .step fun timeouts _ => .step fun proxy _ => ?_
  refine .step fun forwarded _ => .bind (readTelemetry_warns s) fun metrics _ => ?_
  refine .step fun cors _ => .step fun headers _ => .step fun port _ => ?_
  dsimp only
  split_ifs
  · exact .fail _ _ _
  · exact (Warns.warn _).andReturn

theorem ofBlock_warns {body : Hcl.Body} {i : Nat} {b : Hcl.Block}
    (atIndex : (body.blocksNamed "listener")[i]? = some b) :
    Warns (ofBlock i b) ((Spot.listenerTelemetry i).warnings body ++ (Spot.listener i).warnings body) := by
  unfold ofBlock
  refine .step fun label _ => .step fun s atBody => ?_
  obtain ⟨atPath, read⟩ := Stanza.ofBody_ok atBody
  have own : (Spot.listener i).stanza body = s := by
    rw [Spot.stanza, Spot.fields, atIndex, Option.bind_some, read, Option.getD_some, Spot.path, ← atPath]
  have below : (Spot.listenerTelemetry i).stanza body =
      ⟨s.keyPath "telemetry", (s.object "telemetry").getD []⟩ := by
    rw [Spot.stanza, Spot.fields, atIndex, Option.bind_some, read, Option.bind_some, ← Stanza.object_eq,
      Spot.path, ← atPath]
    rfl
  rw [Spot.warnings, Spot.warnings, own, below]
  exact ofStanza_warns label s

theorem ofBody_warns (body : Hcl.Body) :
    Warns (ofBody body) ((List.range (body.blocksNamed "listener").length).flatMap fun i =>
      (Spot.listenerTelemetry i).warnings body ++ (Spot.listener i).warnings body) := by
  have numbers : (body.blocksNamed "listener").zipIdx.map Prod.snd =
      List.range (body.blocksNamed "listener").length := by
    rw [List.zipIdx_map_snd, List.range_eq_range']
  rw [← numbers, List.flatMap_map]
  exact Warns.forEach fun b member => ofBlock_warns (List.mem_zipIdx_iff_getElem?.mp member)

end Listener

theorem Telemetry.ofBody_warns (body : Hcl.Body) : Warns (ofBody body) (Spot.telemetry.warnings body) := by
  unfold ofBody
  refine .step fun blocks counted => ?_
  obtain ⟨rfl, -⟩ := Hcl.Body.blocksUpTo_ok counted
  unfold Spot.warnings Spot.stanza Spot.fields
  cases body.blocksNamed "telemetry" with
  | nil => exact .pure none
  | cons b more =>
    refine .step fun s atBody => .step fun t _ => ?_
    obtain ⟨atPath, read⟩ := Stanza.ofBody_ok atBody
    dsimp only [List.head?_cons, Option.bind_some]
    rw [read, Spot.path, ← atPath]
    exact (Warns.warn _).andReturn

theorem Entropy.ofBody_warns (body : Hcl.Body) : Warns (ofBody body) (Spot.entropy.warnings body) := by
  unfold ofBody
  refine .step fun blocks counted => ?_
  obtain ⟨rfl, -⟩ := Hcl.Body.blocksUpTo_ok counted
  unfold Spot.warnings Spot.stanza Spot.fields
  cases body.blocksNamed "entropy" with
  | nil => exact .pure none
  | cons b more =>
    refine .step fun label _ => ?_
    dsimp only
    split_ifs
    · exact .fail _ _ _
    · refine .step fun s atBody => .step fun mode _ => ?_
      obtain ⟨atPath, read⟩ := Stanza.ofBody_ok atBody
      dsimp only [List.head?_cons, Option.bind_some]
      rw [read, Spot.path, ← atPath]
      exact (Warns.warn _).andReturn

namespace SharedConfig

/-- The stanzas of a document in the order in which they are done with. -/
def spots (body : Hcl.Body) : List Spot :=
  (List.range (body.blocksNamed "listener").length).flatMap (fun i => [.listenerTelemetry i, .listener i]) ++
    [.telemetry, .entropy]

/-- An accepted document is warned of stanza by stanza. -/
theorem ofBody_warns (body : Hcl.Body) : Warns (ofBody body) ((spots body).flatMap (·.warnings body)) := by
  have inOrder : (spots body).flatMap (·.warnings body) =
      ((List.range (body.blocksNamed "listener").length).flatMap fun i =>
        (Spot.listenerTelemetry i).warnings body ++ (Spot.listener i).warnings body) ++
      (Spot.telemetry.warnings body ++ Spot.entropy.warnings body) := by
    simp [spots, List.flatMap_assoc]
  rw [inOrder]
  unfold ofBody
  refine .step fun top _ => .step fun mlock _ => .step fun duration _ => ?_
  refine .bind (Listener.ofBody_warns body) fun listeners _ => .step fun seals _ => ?_
  exact .bind (Telemetry.ofBody_warns body) fun telemetry _ => (Entropy.ofBody_warns body).andReturn

variable {body : Hcl.Body} {c : SharedConfig}

theorem listener_fields? (accepted : (ofBody body).result = .ok c) {i : Nat} {b : Hcl.Block}
    (atIndex : (body.blocksNamed "listener")[i]? = some b) : ∃ fields, Hcl.Body.fields? b.body = some fields := by
  obtain ⟨top, read⟩ := ofBody_ok accepted
  have numbered : (b, i) ∈ (body.blocksNamed "listener").zipIdx := List.mem_zipIdx_iff_getElem?.mpr atIndex
  obtain ⟨l, -, ran⟩ := Outcome.exists_of_mem_right (Checked.forEach_ok read.listeners).flip numbered
  obtain ⟨label, s, -, atBody, -⟩ := Listener.ofBlock_ok ran
  exact ⟨s.fields, (Stanza.ofBody_ok atBody).2⟩

theorem telemetry_fields? (accepted : (ofBody body).result = .ok c) :
    body.blocksNamed "telemetry" = [] ∨ ∃ b fields, body.blocksNamed "telemetry" = [b] ∧
      Hcl.Body.fields? b.body.withoutBlocks = some fields := by
  obtain ⟨top, read⟩ := ofBody_ok accepted
  have ran := read.telemetry
  unfold Telemetry.ofBody at ran
  obtain ⟨blocks, counted, ran⟩ := Checked.bind_ok ran
  rcases Hcl.Body.blocksUpTo_one counted with ⟨-, absent⟩ | ⟨b, rfl, present⟩
  · exact Or.inl absent
  · obtain ⟨s, atBody, -⟩ := Checked.bind_ok ran
    exact Or.inr ⟨b, s.fields, present, (Stanza.ofBody_ok atBody).2⟩

theorem entropy_fields? (accepted : (ofBody body).result = .ok c) :
    body.blocksNamed "entropy" = [] ∨ ∃ b fields, body.blocksNamed "entropy" = [b] ∧
      Hcl.Body.fields? b.body = some fields := by
  obtain ⟨top, read⟩ := ofBody_ok accepted
  have ran := read.entropy
  unfold Entropy.ofBody at ran
  obtain ⟨blocks, counted, ran⟩ := Checked.bind_ok ran
  rcases Hcl.Body.blocksUpTo_one counted with ⟨-, absent⟩ | ⟨b, rfl, present⟩
  · exact Or.inl absent
  · obtain ⟨label, -, ran⟩ := Checked.bind_ok ran
    dsimp only at ran
    split_ifs at ran with unsupported
    · obtain ⟨_, failed, -⟩ := Checked.bind_ok ran
      cases failed
    · obtain ⟨s, atBody, -⟩ := Checked.bind_ok ran
      exact Or.inr ⟨b, s.fields, present, (Stanza.ofBody_ok atBody).2⟩

/-- In an accepted document a stanza is decoded to the names that are seen there, each once. -/
theorem names_fields (accepted : (ofBody body).result = .ok c) (spot : Spot) :
    ((spot.fields body).map Prod.fst).Nodup ∧
      ∀ name, name ∈ (spot.fields body).map Prod.fst ↔ name ∈ spot.seen body := by
  cases spot with
  | listener i =>
    rw [Spot.fields, Spot.seen]
    cases atIndex : (body.blocksNamed "listener")[i]? with
    | none => exact ⟨List.Pairwise.nil, fun _ => Iff.rfl⟩
    | some b =>
      obtain ⟨fields, read⟩ := listener_fields? accepted atIndex
      rw [Option.bind_some, read]
      exact Hcl.names_fields? read
  | listenerTelemetry i =>
    rw [Spot.fields, Spot.seen]
    cases atIndex : (body.blocksNamed "listener")[i]? with
    | none => exact ⟨List.Pairwise.nil, fun _ => Iff.rfl⟩
    | some b =>
      obtain ⟨fields, read⟩ := listener_fields? accepted atIndex
      rw [Option.bind_some, read]
      exact Hcl.names_below read rfl
  | telemetry =>
    rw [Spot.fields, Spot.seen]
    rcases telemetry_fields? accepted with absent | ⟨b, fields, present, read⟩
    · rw [absent]
      exact ⟨List.Pairwise.nil, fun _ => Iff.rfl⟩
    · rw [present, List.head?_cons, Option.bind_some, read, List.flatMap_singleton]
      exact Hcl.Body.names_of_fields? read
  | entropy =>
    rw [Spot.fields, Spot.seen]
    rcases entropy_fields? accepted with absent | ⟨b, fields, present, read⟩
    · rw [absent]
      exact ⟨List.Pairwise.nil, fun _ => Iff.rfl⟩
    · rw [present, List.head?_cons, Option.bind_some, read, List.flatMap_singleton]
      exact Hcl.names_fields? read

theorem nodup_spots (body : Hcl.Body) : (spots body).Nodup := by
  unfold spots
  rw [List.nodup_append', List.nodup_flatMap]
  refine ⟨⟨fun i _ => by simp, ?_⟩, by simp, ?_⟩
  · refine List.nodup_range.imp fun different => ?_
    simpa [List.disjoint_left] using different
  · intro spot numbered single
    obtain ⟨i, -, member⟩ := List.mem_flatMap.mp numbered
    rcases List.mem_pair.mp member with rfl | rfl <;> simp at single

/-- Where something is decoded, there is a stanza. -/
theorem mem_spots {spot : Spot} {name : String} (found : name ∈ (spot.fields body).map Prod.fst) :
    spot ∈ spots body := by
  have numbered : ∀ i, (body.blocksNamed "listener")[i]? ≠ none →
      i ∈ List.range (body.blocksNamed "listener").length := by
    intro i present
    exact List.mem_range.mpr (by simpa using present)
  cases spot with
  | listener i | listenerTelemetry i =>
    refine List.mem_append_left _ (List.mem_flatMap.mpr ⟨i, numbered i fun absent => ?_, by simp⟩)
    rw [Spot.fields, absent] at found
    cases found
  | telemetry | entropy => exact List.mem_append_right _ (by simp)

theorem nodup_warnings (accepted : (ofBody body).result = .ok c) : (ofBody body).warnings.Nodup := by
  rw [ofBody_warns body c accepted]
  refine List.nodup_flatMap.mpr ⟨fun spot _ => Stanza.nodup_unread _ (names_fields accepted spot).1, ?_⟩
  refine (nodup_spots body).imp fun different => ?_
  intro w here there
  obtain ⟨key, -, rfl⟩ := List.mem_map.mp here
  exact different (Spot.path_injective (Stanza.mem_unread.mp there).1.symm)

/-- What is warned of in an accepted document: the unknown ones of the names that are seen. -/
theorem mem_warnings_iff (accepted : (ofBody body).result = .ok c) (spot : Spot) (key : String) :
    .unknownKey spot.path key ∈ (ofBody body).warnings ↔ key ∈ spot.seen body ∧ key ∉ spot.settings := by
  rw [ofBody_warns body c accepted, List.mem_flatMap]
  constructor
  · rintro ⟨other, -, member⟩
    obtain ⟨same, found, unknown⟩ := Stanza.mem_unread.mp member
    obtain rfl := Spot.path_injective same
    exact ⟨((names_fields accepted other).2 key).mp found, unknown⟩
  · rintro ⟨found, unknown⟩
    have decoded := ((names_fields accepted spot).2 key).mpr found
    exact ⟨spot, mem_spots decoded, Stanza.mem_unread.mpr ⟨rfl, decoded, unknown⟩⟩

/-- Every name that a stanza there has and that is none of its settings is warned of, and only once. -/
def Reported (body : Hcl.Body) (spot : Spot) : Prop :=
  ∀ stanza ∈ spot.bodies body, ∀ item ∈ stanza, item.name ∉ spot.settings →
    (ofBody body).warnings.count (.unknownKey spot.path item.name) = 1

theorem reported_iff_seen (accepted : (ofBody body).result = .ok c) (spot : Spot) :
    Reported body spot ↔ ∀ stanza ∈ spot.bodies body, ∀ item ∈ stanza,
      item.name ∈ spot.settings ∨ item.name ∈ spot.seen body := by
  unfold Reported
  refine forall₄_congr fun stanza _ item _ => ?_
  rw [(nodup_warnings accepted).count]
  have warned := mem_warnings_iff accepted spot item.name
  grind

theorem reported_listener (accepted : (ofBody body).result = .ok c) (i : Nat) : Reported body (.listener i) := by
  refine (reported_iff_seen accepted _).mpr fun stanza member item inStanza => Or.inr ?_
  obtain ⟨b, atIndex, rfl⟩ := List.mem_map.mp member
  rw [Spot.seen, Option.mem_toList.mp atIndex]
  exact List.mem_map_of_mem inStanza

theorem reported_entropy (accepted : (ofBody body).result = .ok c) : Reported body .entropy := by
  refine (reported_iff_seen accepted _).mpr fun stanza member item inStanza => Or.inr ?_
  obtain ⟨b, named, rfl⟩ := List.mem_map.mp member
  exact List.mem_flatMap.mpr ⟨b, named, List.mem_map_of_mem inStanza⟩

/-- The attributes of the telemetry stanza are seen, so it depends on its blocks. -/
theorem reported_telemetry_iff (accepted : (ofBody body).result = .ok c) :
    Reported body .telemetry ↔ ∀ stanza ∈ Spot.telemetry.bodies body, ∀ b ∈ Hcl.Body.blocks stanza,
      b.name ∈ Telemetry.settings ∨ b.name ∈ (Hcl.Body.attributes stanza).map Prod.fst := by
  rw [reported_iff_seen accepted]
  unfold Spot.bodies Spot.seen
  rcases telemetry_fields? accepted with absent | ⟨b, -, present, -⟩
  · simp [absent]
  · rw [present, List.map_singleton, List.forall_mem_singleton, List.forall_mem_singleton, List.flatMap_singleton]
    constructor
    · intro all block member
      obtain ⟨item, inBody, same⟩ := List.mem_filterMap.mp member
      cases item with
      | attr name value => cases same
      | block name labels inner =>
        cases same
        exact all _ inBody
    · intro all item inBody
      cases item with
      | attr name value =>
        exact Or.inr (List.mem_map.mpr ⟨(name, value), List.mem_filterMap.mpr ⟨_, inBody, rfl⟩, rfl⟩)
      | block name labels inner => exact all ⟨name, labels, inner⟩ (List.mem_filterMap.mpr ⟨_, inBody, rfl⟩)

/-- Which keys of a document are reported: none that is read; of the unknown ones all in listeners and in the
entropy stanza, in the telemetry stanza all but the names of blocks, and in the telemetry of a listener those
that decoding leaves. -/
structure Reporting (body : Hcl.Body) : Prop where
  spared : ∀ (spot : Spot) key, .unknownKey spot.path key ∈ (ofBody body).warnings →
    key ∉ spot.settings ∧ spot.Ignores key
  listener : ∀ i, Reported body (.listener i)
  entropy : Reported body .entropy
  telemetry : Reported body .telemetry ↔ ∀ stanza ∈ Spot.telemetry.bodies body, ∀ b ∈ Hcl.Body.blocks stanza,
    b.name ∈ Telemetry.settings ∨ b.name ∈ (Hcl.Body.attributes stanza).map Prod.fst
  listenerTelemetry : ∀ i, Reported body (.listenerTelemetry i) ↔
    ∀ stanza ∈ (Spot.listenerTelemetry i).bodies body, ∀ item ∈ stanza,
      item.name ∈ Listener.telemetrySettings ∨ item.name ∈ (Spot.listenerTelemetry i).seen body

theorem reporting_of_accepted (accepted : (ofBody body).result = .ok c) : Reporting body where
  spared spot key warned :=
    have unknown := ((mem_warnings_iff accepted spot key).mp warned).2
    ⟨unknown, Spot.ignores_iff.mpr unknown⟩
  listener := reported_listener accepted
  entropy := reported_entropy accepted
  telemetry := reported_telemetry_iff accepted
  listenerTelemetry i := reported_iff_seen accepted (.listenerTelemetry i)

def misspelledListener : Hcl.Block :=
  ⟨"listener", ["tcp"],
    [.attr "addres" (.str "127.0.0.1:8200"), .block "telemetry" [] [.attr "metrics" (.bool true)]]⟩

/-- A document with a misspelled name in each of its stanzas. -/
def misspelled : Hcl.Body :=
  [misspelledListener.item, .block "telemetry" [] [.attr "statsd" (.str "127.0.0.1:8125")],
    .block "entropy" ["seal"] [.attr "mode" (.str "augmentation"), .attr "seal" (.str "transit")]]

theorem fields?_misspelledListener :
    Hcl.Body.fields? misspelledListener.body =
      some [("addres", .str "127.0.0.1:8200"), ("telemetry", .obj [("metrics", .bool true)])] := by
  have added : Hcl.addAll [] misspelledListener.body =
      some [("addres", .value (.str "127.0.0.1:8200")), ("telemetry", .bodies [.obj [("metrics", .bool true)]])] := by
    simp [misspelledListener, Hcl.addAll, Hcl.Item.addTo, Hcl.Expr.toJson?, Hcl.putValue, Hcl.mergeEntry,
      Hcl.blockEntry, Hcl.entriesToJson, Hcl.Entry.toJson, Json.ofFields, Json.insert]
  rw [Hcl.Body.fields?, added]
  rfl

theorem reporting_misspelled :
    (∃ c, (ofBody misspelled).result = .ok c) ∧ Reporting misspelled ∧ Reported misspelled .telemetry ∧
      Reported misspelled (.listenerTelemetry 0) := by
  have atStanza : Stanza.ofBody "listeners.0" misspelledListener.body =
      .ok ⟨"listeners.0", [("addres", .str "127.0.0.1:8200"), ("telemetry", .obj [("metrics", .bool true)])]⟩ := by
    rw [Stanza.ofBody, fields?_misspelledListener]
  have atBlock : (Listener.ofBlock 0 misspelledListener).result = .ok { kind := .tcp } :=
    Checked.bind_of_ok rfl (Checked.bind_of_ok atStanza (Outcome.ok_of_toOption (by decide +kernel)))
  have read : ReadFrom ⟨"config", []⟩ misspelled {
      listeners := [{ kind := .tcp }], entropy := some ⟨.augmentation, none⟩, telemetry := some {}
      foundKeys := ["listener", "telemetry", "entropy"] } := {
    atTop := rfl
    listeners := Checked.bind_of_ok atBlock rfl
    seals := rfl
    telemetry := Outcome.ok_of_toOption (by decide +kernel)
    entropy := Outcome.ok_of_toOption (by decide +kernel)
    disableMlock := rfl
    defaultMaxRequestDuration := rfl
    logLevel := rfl
    logFormat := rfl
    pidFile := rfl
    clusterName := rfl
    foundKeys := by decide +kernel
    unusedKeys := by decide +kernel }
  have accepted := ofBody_of_readFrom read
  have reporting := reporting_of_accepted accepted
  exact ⟨⟨_, accepted⟩, reporting, reporting.telemetry.mpr (by decide),
    (reporting.listenerTelemetry 0).mpr (by decide)⟩

/-- A block in the telemetry stanza is passed over in silence. -/
theorem sink_unreported :
    ∃ body c, Hcl.parse? "telemetry \x7b\n  sink \x7b\n  \x7d\n\x7d\n" = some body ∧
      (ofBody body).result = .ok c ∧ (Spot.telemetry.bodies body).map (·.map Hcl.Item.name) = [["sink"]] ∧
      "sink" ∉ Telemetry.settings ∧ (ofBody body).warnings = [] ∧ ¬ Reported body .telemetry := by
  have ran : (parse "telemetry \x7b\n  sink \x7b\n  \x7d\n\x7d\n").result =
      .ok { telemetry := some {}, foundKeys := ["telemetry"] } := Outcome.ok_of_toOption (by decide +kernel)
  obtain ⟨body, parsed, accepted⟩ := parse_ok ran
  have names : (Hcl.parse? "telemetry \x7b\n  sink \x7b\n  \x7d\n\x7d\n").map
      (fun body => ((Spot.telemetry.bodies body).map (·.map Hcl.Item.name), (ofBody body).warnings)) =
        some ([["sink"]], []) := by
    decide +kernel
  rw [parsed, Option.map_some, Option.some.injEq, Prod.mk.injEq] at names
  obtain ⟨named, quiet⟩ := names
  refine ⟨body, _, parsed, accepted, named, by decide, quiet, fun reported => ?_⟩
  obtain ⟨stanza, member, inStanza⟩ := List.mem_map.mp (named ▸ List.mem_singleton_self ["sink"])
  obtain ⟨item, inItems, atItem⟩ := List.mem_map.mp (inStanza ▸ List.mem_singleton_self "sink")
  have once := reported stanza member item inItems (atItem ▸ by decide)
  rw [quiet] at once
  cases once

end SharedConfig

end ServiceKit
