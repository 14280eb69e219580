import ServiceKit.Proofs.Config.Placement
import ServiceKit.Proofs.Config.Shared

namespace ServiceKit

open Outcome (done)
open Stanza (below)

namespace Hcl

def Block.item (b : Block) : Item :=
  .block b.name b.labels b.body

namespace Body

theorem withoutBlocks_withoutBlocks (body : Body) : body.withoutBlocks.withoutBlocks = body.withoutBlocks := by
  simp [withoutBlocks]

theorem blocksNamed_withoutBlocks (body : Body) (name : String) :
    body.withoutBlocks.blocksNamed name = [] := by
  have none : ∀ i ∈ body.withoutBlocks, i.block? = none := by
    intro i member
    obtain ⟨-, isAttr⟩ := List.mem_filter.mp member
    cases i with
    | attr name value => rfl
    | block name labels body => cases isAttr
  rw [blocksNamed, blocks, List.filterMap_eq_nil_iff.mpr none, List.filter_nil]

theorem blocksNamed_item {b : Block} {name : String} (named : b.name = name) :
    Body.blocksNamed [b.item] name = [b] := by
  subst named
  simp [blocksNamed, blocks, Block.item, Item.block?]

theorem blocksNamed_item_of_ne {b : Block} {name : String} (other : b.name ≠ name) :
    Body.blocksNamed [b.item] name = [] := by
  simp [blocksNamed, blocks, Block.item, Item.block?, other]

theorem name_of_mem {body : Body} {b : Block} {name : String} (member : b ∈ body.blocksNamed name) :
    b.name = name := by
  simpa using (List.mem_filter.mp member).2

end Body

end Hcl

/-- The blocks that a document is read for. -/
inductive BlockKind where
  | listeners
  | seals
  | kmses
  | telemetry
  | entropy
deriving DecidableEq

namespace BlockKind

/-- The kinds as they are read, one after the other. -/
def order : List BlockKind :=
  [listeners, seals, kmses, telemetry, entropy]

def name : BlockKind → String
  | listeners => "listener"
  | seals => "seal"
  | kmses => "kms"
  | telemetry => "telemetry"
  | entropy => "entropy"

def limit? : BlockKind → Option Nat
  | listeners => none
  | seals => some Seal.maxBlocks
  | kmses => some Seal.maxBlocks
  | telemetry => some 1
  | entropy => some 1

/-- What errors call a kind of blocks. -/
def title : BlockKind → String
  | listeners => "listeners"
  | seals => "seal"
  | kmses => "kms"
  | telemetry => "telemetry"
  | entropy => "entropy"

/-- What errors call a block: where there may be more than one, they are numbered. -/
def path (kind : BlockKind) (index : Nat) : String :=
  below kind.title (if kind.limit? = some 1 then [] else [toString index])

/-- Reads a block for its error alone. -/
def read (kind : BlockKind) (index : Nat) (b : Hcl.Block) : Stanza.Read Unit :=
  match kind with
  | listeners => done (Listener.ofBlock index b).result
  | seals => done (Seal.ofBlock "seal" index b)
  | kmses => done (Seal.ofBlock "kms" index b)
  | telemetry => done (Telemetry.ofBody [b.item]).result
  | entropy => done (Entropy.ofBody [b.item]).result

/-- The blocks of a kind, unless there are too many. -/
def counted (kind : BlockKind) (body : Hcl.Body) : Stanza.Read (List Hcl.Block) :=
  match kind.limit? with
  | none => .ok (body.blocksNamed kind.name)
  | some limit => body.blocksUpTo kind.name limit

/-- Reads the blocks of a kind for their first error alone. -/
def readAll (kind : BlockKind) (body : Hcl.Body) : Stanza.Read Unit := do
  let blocks ← kind.counted body
  forM blocks.zipIdx fun b => kind.read b.2 b.1

variable {kind other : BlockKind} {body : Hcl.Body}

theorem readAll_of_error {stop : Stop ConfigError} (failed : kind.counted body = .error stop) :
    kind.readAll body = .error stop := by
  rw [readAll, failed]
  rfl

theorem readAll_of_counted {blocks : List Hcl.Block} (counted : kind.counted body = .ok blocks) :
    kind.readAll body = forM blocks.zipIdx fun b => kind.read b.2 b.1 := by
  rw [readAll, counted]
  rfl

theorem counted_of_single (single : kind.limit? = some 1) (body : Hcl.Body) :
    kind.counted body = body.blocksUpTo kind.name 1 := by
  rw [counted, single]

theorem counted_ok {blocks : List Hcl.Block} (ran : kind.counted body = .ok blocks) :
    blocks = body.blocksNamed kind.name ∧ ∀ limit, kind.limit? = some limit → blocks.length ≤ limit := by
  unfold counted at ran
  cases atKind : kind.limit? with
  | none =>
    rw [atKind] at ran
    exact ⟨(Except.ok.inj ran).symm, nofun⟩
  | some limit =>
    rw [atKind] at ran
    obtain ⟨same, few⟩ := Hcl.Body.blocksUpTo_ok ran
    refine ⟨same, fun _ same => ?_⟩
    cases same
    exact few

theorem counted_error {stop : Stop ConfigError} (failed : kind.counted body = .error stop) :
    ∃ limit, kind.limit? = some limit ∧ limit < (body.blocksNamed kind.name).length ∧
      stop = ConfigError.invalid kind.name
        (.blockLimit kind.name limit (body.blocksNamed kind.name).length) := by
  unfold counted at failed
  cases atKind : kind.limit? with
  | none =>
    rw [atKind] at failed
    cases failed
  | some limit =>
    rw [atKind] at failed
    exact ⟨limit, rfl, Hcl.Body.blocksUpTo_error failed⟩

/-- One block is never too much. -/
theorem counted_item {b : Hcl.Block} (named : b.name = kind.name) : kind.counted [b.item] = .ok [b] := by
  unfold counted
  cases atKind : kind.limit? with
  | none => exact congrArg Except.ok (Hcl.Body.blocksNamed_item named)
  | some limit =>
    have positive : 1 ≤ limit := by
      cases kind <;> cases atKind <;> decide
    have one := Hcl.Body.blocksNamed_item named
    rw [← one]
    exact Hcl.Body.blocksUpTo_of_le (one ▸ positive)

theorem counted_of_absent (absent : body.blocksNamed kind.name = []) : kind.counted body = .ok [] := by
  unfold counted
  cases kind.limit? with
  | none => exact congrArg Except.ok absent
  | some limit =>
    rw [← absent]
    exact Hcl.Body.blocksUpTo_of_le (absent ▸ Nat.zero_le limit)

theorem readAll_item {b : Hcl.Block} (named : b.name = kind.name) : kind.readAll [b.item] = kind.read 0 b := by
  rw [readAll_of_counted (counted_item named), List.zipIdx_singleton, List.forM_cons, List.forM_nil,
    bind_pure_unit]

theorem readAll_of_absent (absent : body.blocksNamed kind.name = []) : kind.readAll body = .ok () :=
  readAll_of_counted (counted_of_absent absent)

/-- A reader of the one block that there may be reads all blocks of its kind. -/
theorem done_single {α : Type} {ofBody : Hcl.Body → Checked (Option α)} (single : kind.limit? = some 1)
    (sameBlocks : ∀ a b, Hcl.Body.blocksNamed a kind.name = Hcl.Body.blocksNamed b kind.name →
      ofBody a = ofBody b)
    (absent : (ofBody []).result = .ok none)
    (tooMany : ∀ body stop, Hcl.Body.blocksUpTo body kind.name 1 = .error stop →
      (ofBody body).result = .error stop)
    (reads : ∀ index b, kind.read index b = done (ofBody [b.item]).result) (body : Hcl.Body) :
    done (ofBody body).result = kind.readAll body := by
  cases found : kind.counted body with
  | error stop =>
    rw [readAll_of_error found]
    rw [counted_of_single single] at found
    rw [tooMany body stop found]
    rfl
  | ok blocks =>
    rw [counted_of_single single] at found
    rcases Hcl.Body.blocksUpTo_one found with ⟨rfl, present⟩ | ⟨b, rfl, present⟩
    · rw [readAll_of_absent present, sameBlocks body [] present, absent]
      rfl
    · have named : b.name = kind.name := Hcl.Body.name_of_mem (present ▸ List.mem_cons_self)
      -- The document and the block alone have the same blocks of this kind, and only these are looked at.
      have alone := Hcl.Body.blocksNamed_item named
      rw [sameBlocks body [b.item] (present.trans alone.symm), ← reads 0 b, ← readAll_item named]
      unfold readAll counted Hcl.Body.blocksUpTo
      rw [single, present, alone]

theorem done_telemetry (body : Hcl.Body) :
    done (Telemetry.ofBody body).result = telemetry.readAll body := by
  refine done_single rfl (fun _ _ => Telemetry.ofBody_congr) rfl (fun body stop exceeded => ?_) (fun _ _ => rfl) body
  unfold Telemetry.ofBody
  rw [show body.blocksUpTo "telemetry" 1 = .error stop from exceeded]
  rfl

theorem done_entropy (body : Hcl.Body) : done (Entropy.ofBody body).result = entropy.readAll body := by
  refine done_single rfl (fun _ _ => Entropy.ofBody_congr) rfl (fun body stop exceeded => ?_) (fun _ _ => rfl) body
  unfold Entropy.ofBody
  rw [show body.blocksUpTo "entropy" 1 = .error stop from exceeded]
  rfl

theorem done_listeners (body : Hcl.Body) : done (Listener.ofBody body).result = listeners.readAll body :=
  Checked.done_forEach _ _

theorem done_seals (body : Hcl.Body) :
    done (Seal.ofBody body) = seals.readAll body >>= fun _ => kmses.readAll body := by
  have ofBlocks : ∀ block, done (Seal.ofBlocks body block) = body.blocksUpTo block Seal.maxBlocks >>= fun bs =>
      forM bs.zipIdx fun b => done (Seal.ofBlock block b.2 b.1) := by
    intro block
    unfold Seal.ofBlocks
    cases body.blocksUpTo block Seal.maxBlocks with
    | error stop => rfl
    | ok blocks => exact Outcome.done_mapM _ _
  have atSeals : seals.readAll body = done (Seal.ofBlocks body "seal") := (ofBlocks "seal").symm
  have atKmses : kmses.readAll body = done (Seal.ofBlocks body "kms") := (ofBlocks "kms").symm
  rw [atSeals, atKmses]
  exact Outcome.done_bind fun _ => Outcome.done_bind_pure _ _

theorem name_injective (same : kind.name = other.name) : kind = other := by
  revert same
  cases kind <;> cases other <;> decide

theorem forM_order {f : BlockKind → Stanza.Read Unit} (others : ∀ other, other ≠ kind → f other = .ok ()) :
    forM order f = f kind := by
  cases kind <;>
    · simp only [order, List.forM_cons, List.forM_nil, others, ne_eq, reduceCtorEq, not_false_eq_true]
      generalize f _ = outcome
      cases outcome <;> rfl

/-- The place of a block is for its errors alone. -/
theorem read_moved {b : Hcl.Block} (named : b.name = kind.name) (i j : Nat) :
    Moved (kind.path i) (kind.path j) (kind.read i b) (kind.read j b) := by
  cases kind with
  | listeners =>
    have atPath : ∀ index, listeners.path index = "listeners." ++ toString index := fun _ => rfl
    rw [atPath, atPath]
    exact (Listener.ofBlock_moved i j b).map _
  | seals => exact (Seal.ofBlock_moved "seal" i j b).map _
  | kmses => exact (Seal.ofBlock_moved "kms" i j b).map _
  | telemetry =>
    have one : Hcl.Body.blocksUpTo [b.item] "telemetry" 1 = .ok [b] := counted_item named
    refine Moved.map _ ?_
    unfold Telemetry.ofBody
    rw [one]
    refine Moved.checked (.ok [b]) fun blocks => ?_
    cases blocks with
    | nil => exact .ok none
    | cons b more =>
      refine Moved.body _ fun fields => ?_
      exact Moved.checked Telemetry.ofStanza_moved fun t => .ok _
  | entropy =>
    have one : Hcl.Body.blocksUpTo [b.item] "entropy" 1 = .ok [b] := counted_item named
    refine Moved.map _ ?_
    unfold Entropy.ofBody
    rw [one]
    refine Moved.checked (.ok [b]) fun blocks => ?_
    cases blocks with
    | nil => exact .ok none
    | cons b more =>
      refine Moved.checked b.label?_moved fun label => ?_
      dsimp only
      split_ifs
      · exact .error _ []
      · refine Moved.body _ fun fields => ?_
        exact Moved.checked Entropy.readMode_moved fun mode => .ok _

end BlockKind

namespace SharedConfig

/-- Reads what the attributes at the top are read for, for its error alone. -/
def readTop (body : Hcl.Body) : Stanza.Read Unit := do
  let top ← Stanza.ofBody "config" (Hcl.Body.withoutBlocks body)
  done (top.flag "disable_mlock")
  done (top.duration "default_max_request_duration")

/-- A document is read place by place, and no place is read for more than its error by the others. -/
theorem done_ofBody (body : Hcl.Body) :
    done (ofBody body).result = readTop body >>= fun _ => forM BlockKind.order fun kind => kind.readAll body := by
  have atBlocks : (forM BlockKind.order fun kind => kind.readAll body) =
      done (Listener.ofBody body).result >>= fun _ => done (Seal.ofBody body) >>= fun _ =>
        done (Telemetry.ofBody body).result >>= fun _ => done (Entropy.ofBody body).result >>= fun _ =>
          .ok () := by
    rw [BlockKind.done_listeners, BlockKind.done_seals, BlockKind.done_telemetry, BlockKind.done_entropy]
    simp only [BlockKind.order, List.forM_cons, List.forM_nil, bind_assoc]
    rfl
  unfold ofBody readTop
  rw [atBlocks, bind_assoc, Checked.result_bind]
  cases Stanza.ofBody "config" (Hcl.Body.withoutBlocks body) with
  | error stop => rfl
  | ok top =>
    change done (Checked.result _) = (done (top.flag _) >>= fun _ => done (top.duration _)) >>= _
    rw [bind_assoc]
    refine Checked.done_bind fun disabled => ?_
    refine Checked.done_bind fun duration => ?_
    refine Checked.done_bind fun listeners => ?_
    refine Checked.done_bind fun seals => ?_
    refine Checked.done_bind fun telemetry => ?_
    refine Checked.done_bind fun entropy => ?_
    rfl

end SharedConfig

end ServiceKit
