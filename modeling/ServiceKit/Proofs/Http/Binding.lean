import Mathlib.Algebra.Order.BigOperators.Group.List
import Mathlib.Algebra.Order.Group.Nat
import ServiceKit.Http.UnixSocket
import ServiceKit.Proofs.System.Directories

namespace ServiceKit

/-- The endpoint that a socket was made for. -/
def Node.endpoint? : Node → Option Nat
  | .socket _ _ _ endpoint => some endpoint
  | _ => none

/-- A change that sockets survive as sockets of the same endpoint, and that leaves all else alone. -/
structure Node.Tunes (f : Node → Node) : Prop where
  endpoint : ∀ node, (f node).endpoint? = node.endpoint?
  dir : ∀ node, f node = .dir ↔ node = .dir

theorem Node.tunes_withMode (mode : Nat) : Tunes (withMode mode) where
  endpoint node := by cases node <;> rfl
  dir node := by cases node <;> simp [withMode]

theorem Node.tunes_withOwner (uid gid : Option Nat) : Tunes (withOwner uid gid) where
  endpoint node := by cases node <;> rfl
  dir node := by cases node <;> simp [withOwner]

namespace SocketWorld
variable {w w' : SocketWorld} {path other : String} {loc place : Location} {node : Node} {refused : Refusals}
  {options : SocketOptions} {endpoint : Nat} {what : SocketRequest} {doing : String}
  {change : Except OsFault SocketWorld} {f : Node → Node} {α : Type} {m u g : Nat}

/-! ### What a path leads to -/

theorem locate_of_dirs (base : w'.base = w.base)
    (dirs : ∀ place, w.files.get? place = some .dir → w'.files.get? place = some .dir)
    (located : w.locate path = .ok loc) : w'.locate path = .ok loc := by
  have absolute (located : w.files.locate path = .ok loc) : w'.files.locate path = .ok loc := by
    rw [FileSystem.locate_ok_iff] at located ⊢
    exact located.imp_right (And.imp_right (FileSystem.walk_of_dirs dirs))
  unfold locate at located ⊢
  rw [base]
  cases start : w.base with
  | none =>
    rw [start] at located
    exact absolute located
  | some dir =>
    rw [start] at located
    dsimp only at located ⊢
    split_ifs at located ⊢
    · exact absolute located
    · exact FileSystem.walk_of_dirs dirs located

/-- Only a text that is a path names a location. -/
theorem proper_of_locate (located : w.locate path = .ok loc) : path ≠ "" ∧ '\x00' ∉ path.toList := by
  have absolute (located : w.files.locate path = .ok loc) : path ≠ "" ∧ '\x00' ∉ path.toList := by
    obtain ⟨hidden, head, -⟩ := FileSystem.locate_ok_iff.mp located
    refine ⟨?_, hidden⟩
    rintro rfl
    cases head
  unfold locate at located
  split at located
  · exact absolute located
  · split_ifs at located with special
    · exact absolute located
    · exact ⟨fun empty => special (Or.inl empty), fun hidden => special (Or.inr (Or.inl hidden))⟩

theorem node_ok_iff : w.node path = .ok node ↔ ∃ loc, w.locate path = .ok loc ∧ w.files.get? loc = some node := by
  unfold SocketWorld.node
  cases w.locate path with
  | error fault => simp
  | ok loc => cases found : w.files.get? loc <;> simp [found]

/-! ### What a step leaves alone -/

/-- Endpoints get new numbers. -/
structure Numbered (w : SocketWorld) : Prop where
  sockets : ∀ place node endpoint, w.files.get? place = some node → node.endpoint? = some endpoint → endpoint < w.next
  listening : ∀ endpoint ∈ w.listening, endpoint < w.next

/-- A step that concerns a path only: directories stay directories and nothing else becomes one, and all is as
it was but what is at the path. -/
structure Keeps (path : String) (w w' : SocketWorld) : Prop where
  base : w'.base = w.base
  dirs : ∀ place, w'.files.get? place = some .dir ↔ w.files.get? place = some .dir
  others : ∀ place, w.locate path ≠ .ok place → w'.files.get? place = w.files.get? place
  next : w.next ≤ w'.next
  numbered : w.Numbered → w'.Numbered

theorem Keeps.refl (path : String) (w : SocketWorld) : Keeps path w w :=
  ⟨rfl, fun _ => Iff.rfl, fun _ _ => rfl, Nat.le_refl _, id⟩

theorem Keeps.locate_iff (keeps : Keeps path w w') : w'.locate other = .ok loc ↔ w.locate other = .ok loc :=
  ⟨locate_of_dirs keeps.base.symm fun place => (keeps.dirs place).mp,
    locate_of_dirs keeps.base fun place => (keeps.dirs place).mpr⟩

theorem Keeps.trans {w₁ w₂ w₃ : SocketWorld} (first : Keeps path w₁ w₂) (second : Keeps path w₂ w₃) :
    Keeps path w₁ w₃ where
  base := second.base.trans first.base
  dirs place := (second.dirs place).trans (first.dirs place)
  others place elsewhere :=
    (second.others place (mt first.locate_iff.mp elsewhere)).trans (first.others place elsewhere)
  next := Nat.le_trans first.next second.next
  numbered := second.numbered ∘ first.numbered

/-- A path that leads elsewhere leads to what it has led to before. -/
theorem Keeps.node_eq (keeps : Keeps path w w')
    (elsewhere : ∀ loc, w.locate other = .ok loc → w.locate path ≠ .ok loc) :
    (w'.node other).toOption = (w.node other).toOption := by
  have ok (read : Except OsFault Node) (node : Node) : read.toOption = some node ↔ read = .ok node := by
    cases read <;> simp [Except.toOption]
  ext node
  simp only [ok, node_ok_iff, keeps.locate_iff]
  refine exists_congr fun loc => and_congr_right fun located => ?_
  rw [keeps.others loc (elsewhere loc located)]

theorem keeps_put (located : w.locate path = .ok loc)
    (dir : node = .dir ↔ w.files.get? loc = some .dir) (next : Nat) (later : w.next ≤ next)
    (fresh : w.Numbered → ∀ endpoint, node.endpoint? = some endpoint → endpoint < next) :
    Keeps path w { w with files := w.files.put loc node, next := next } where
  base := rfl
  dirs place := by
    dsimp only
    rw [FileSystem.get?_put]
    split_ifs with here
    · rw [here.1, Option.some.injEq, dir]
    · rfl
  others place elsewhere := by
    have there : place ≠ loc := fun same => elsewhere (same ▸ located)
    dsimp only
    rw [FileSystem.get?_put, if_neg fun both => there both.1]
  next := later
  numbered numbered := by
    refine ⟨fun place other endpoint found made => ?_, fun endpoint member =>
      Nat.lt_of_lt_of_le (numbered.listening endpoint member) later⟩
    dsimp only at found
    rw [FileSystem.get?_put] at found
    split_ifs at found
    · cases found
      exact fresh numbered endpoint made
    · exact Nat.lt_of_lt_of_le (numbered.sockets place other endpoint found made) later

theorem removed_ok_iff : w.removed path = .ok w' ↔ ∃ loc node, w.locate path = .ok loc ∧
    w.files.get? loc = some node ∧ node ≠ .dir ∧ { w with files := w.files.erase loc } = w' := by
  unfold SocketWorld.removed
  cases w.locate path with
  | error fault => simp
  | ok loc =>
    cases found : w.files.get? loc with
    | none => simp [found]
    | some node => cases node <;> simp [found]

theorem changed_ok_iff : w.changed path f = .ok w' ↔ ∃ loc node, w.locate path = .ok loc ∧
    w.files.get? loc = some node ∧ { w with files := w.files.put loc (f node) } = w' := by
  unfold SocketWorld.changed
  cases w.locate path with
  | error fault => simp
  | ok loc => cases found : w.files.get? loc <;> simp [found]

theorem removed_keeps (removed : w.removed path = .ok w') : Keeps path w w' := by
  obtain ⟨loc, node, located, found, noDir, rfl⟩ := removed_ok_iff.mp removed
  refine ⟨rfl, fun place => ?_, fun place elsewhere => ?_, Nat.le_refl _, fun numbered => ⟨?_, numbered.listening⟩⟩
  · dsimp only
    rw [FileSystem.get?_erase]
    split_ifs with here
    · rw [here.1, found]
      simpa using noDir
    · rfl
  · have there : place ≠ loc := fun same => elsewhere (same ▸ located)
    dsimp only
    rw [FileSystem.get?_erase, if_neg fun both => there both.1]
  · intro place node endpoint found
    dsimp only at found
    rw [FileSystem.get?_erase] at found
    split_ifs at found
    exact numbered.sockets place node endpoint found

theorem unlink_keeps (path : String) (w : SocketWorld) : Keeps path w (w.unlink path).1 := by
  unfold unlink
  split
  · exact Keeps.refl path w
  · exact removed_keeps ‹_›

theorem changed_keeps (tunes : Node.Tunes f) (changed : w.changed path f = .ok w') : Keeps path w w' := by
  obtain ⟨loc, node, located, found, rfl⟩ := changed_ok_iff.mp changed
  refine keeps_put located ?_ w.next (Nat.le_refl _) fun numbered endpoint made => ?_
  · rw [found, Option.some.injEq, tunes.dir]
  · rw [tunes.endpoint] at made
    exact numbered.sockets loc node endpoint found made

theorem site_ok (site : w.site path = .ok loc) : w.locate path = .ok loc ∧ w.files.get? loc = none := by
  unfold SocketWorld.site at site
  split at site
  · dsimp only at site
    split_ifs at site
  · rename_i place located
    split_ifs at site with taken
    split at site
    · cases site
    · cases site
      exact ⟨located, by simpa using taken⟩
    · cases site

theorem made_keeps (made : w.made path = .ok w') : Keeps path w w' ∧ w'.next = w.next + 1 := by
  have next (outside : List (Bytes × Nat)) : Keeps path w { w with outside := outside, next := w.next + 1 } :=
    ⟨rfl, fun _ => Iff.rfl, fun _ _ => rfl, Nat.le_succ _, fun numbered =>
      ⟨fun place node endpoint found made => Nat.lt_succ_of_lt (numbered.sockets place node endpoint found made),
        fun endpoint member => Nat.lt_succ_of_lt (numbered.listening endpoint member)⟩⟩
  unfold SocketWorld.made at made
  split at made
  · cases made
  · cases made
    exact ⟨next _, rfl⟩
  · split_ifs at made
    cases made
    exact ⟨next _, rfl⟩
  · split at made
    · cases made
    · rename_i loc site
      cases made
      obtain ⟨located, free⟩ := site_ok site
      refine ⟨keeps_put located (by simp [free]) (w.next + 1) (Nat.le_succ _) fun numbered endpoint made => ?_, rfl⟩
      cases made
      exact Nat.lt_succ_self _

theorem close_keeps (path : String) (w : SocketWorld) (endpoint : Nat) : Keeps path w (w.close endpoint) :=
  ⟨rfl, fun _ => Iff.rfl, fun _ _ => rfl, Nat.le_refl _, fun numbered =>
    ⟨numbered.sockets, fun other member => numbered.listening other (List.mem_of_mem_filter member)⟩⟩

theorem listen_keeps (path : String) (made : endpoint < w.next) : Keeps path w (w.listen endpoint) := by
  refine ⟨rfl, fun _ => Iff.rfl, fun _ _ => rfl, Nat.le_refl _, fun numbered => ⟨numbered.sockets, fun other member => ?_⟩⟩
  rcases List.mem_cons.mp member with rfl | member
  · exact made
  · exact numbered.listening other member

/-- A relation between a world and what comes of it that goes along with every change of what is at a path. -/
structure Tracks (path : String) (R : SocketWorld → SocketWorld → Prop) : Prop where
  refl : ∀ w, R w w
  trans : ∀ {w₁ w₂ w₃}, R w₁ w₂ → R w₂ w₃ → R w₁ w₃
  removes : ∀ {w w'}, w.removed path = .ok w' → R w w'
  tunes : ∀ {f w w'}, Node.Tunes f → w.changed path f = .ok w' → R w w'

theorem tracks_keeps (path : String) : Tracks path (Keeps path) :=
  ⟨Keeps.refl path, Keeps.trans, removed_keeps, changed_keeps⟩

namespace Tracks
variable {R : SocketWorld → SocketWorld → Prop} {done : SocketWorld × Except SettingError Unit}

theorem request (tracks : Tracks path R) (changes : ∀ w', change = .ok w' → R w w') :
    R w (w.request refused what doing path change).1 := by
  unfold SocketWorld.request
  split
  · exact tracks.refl w
  · exact tracks.refl w
  · exact changes _ rfl

theorem andThen (tracks : Tracks path R) {next : SocketWorld → SocketWorld × Except SettingError α}
    (first : R w done.1) (second : done.2 = .ok () → R done.1 (next done.1).1) :
    R w (SocketWorld.andThen done next).1 := by
  unfold SocketWorld.andThen
  split
  · exact tracks.trans first (second ‹_›)
  · exact first

theorem kept (tracks : Tracks path R) (first : R w done.1) (closes : R done.1 (done.1.close endpoint)) :
    R w (kept endpoint done).1 := by
  unfold SocketWorld.kept
  split
  · exact first
  · exact tracks.trans first closes

theorem setMode (tracks : Tracks path R) : R w (w.setMode refused path options).1 := by
  unfold SocketWorld.setMode
  split
  · exact tracks.refl w
  · exact tracks.request fun _ => tracks.tunes (Node.tunes_withMode _)

theorem setOwner (tracks : Tracks path R) : R w (w.setOwner refused path options).1 := by
  unfold SocketWorld.setOwner
  split_ifs
  · exact tracks.request fun _ => tracks.tunes (Node.tunes_withOwner _ _)
  · exact tracks.refl w

theorem equip (tracks : Tracks path R) (opens : R w (w.listen endpoint)) :
    R w (w.equip refused path options endpoint).1 := by
  refine tracks.andThen (tracks.request fun w' listens => ?_) fun _ =>
    tracks.andThen tracks.setMode fun _ => tracks.setOwner
  cases listens
  exact opens

theorem clear (tracks : Tracks path R) : R w (w.clear refused path).1 := by
  unfold SocketWorld.clear
  split
  · exact tracks.refl w
  · exact tracks.request fun _ => tracks.removes
  · exact tracks.refl w

end Tracks

theorem setMode_keeps : Keeps path w (w.setMode refused path options).1 :=
  (tracks_keeps path).setMode

theorem equip_keeps (made : endpoint < w.next) : Keeps path w (w.equip refused path options endpoint).1 :=
  (tracks_keeps path).equip (listen_keeps path made)

theorem clear_keeps : Keeps path w (w.clear refused path).1 :=
  (tracks_keeps path).clear

theorem request_ok (ok : (w.request refused what doing path change).2 = .ok ()) :
    refused what = none ∧ change = .ok (w.request refused what doing path change).1 := by
  unfold request at ok ⊢
  split at ok
  · cases ok
  · cases ok
  · exact ⟨‹_›, rfl⟩

section
variable {R : SocketWorld → SocketWorld → Prop} (tracks : Tracks path R)
  (makes : ∀ {made}, (w.clear refused path).1.made path = .ok made →
    R (w.clear refused path).1 made ∧ R made (made.listen (w.clear refused path).1.next))
  (closes : ∀ a, R a (a.close (w.clear refused path).1.next))
include tracks makes closes

theorem Tracks.ofCleared : R (w.clear refused path).1 (w.bindUnder refused path options).1 := by
  rw [SocketWorld.bindUnder, SocketWorld.andThen]
  split
  · refine tracks.andThen (tracks.request fun _ made => (makes made).1) fun made => ?_
    exact tracks.kept (tracks.equip (makes (request_ok made).2).2) (closes _)
  · exact tracks.refl _

/-- What goes along with the making of the endpoint as well goes along with all of a bind. -/
theorem Tracks.bindUnder : R w (w.bindUnder refused path options).1 :=
  tracks.trans tracks.clear (tracks.ofCleared makes closes)

end

theorem bindUnder_keeps (refused : Refusals) (w : SocketWorld) (path : String) (options : SocketOptions) :
    Keeps path w (w.bindUnder refused path options).1 := by
  refine (tracks_keeps path).bindUnder (fun made => ?_) fun a => close_keeps path a _
  obtain ⟨keeps, next⟩ := made_keeps made
  exact ⟨keeps, listen_keeps path (by omega)⟩

/-! ### Files and directories -/

theorem read_of_proper (nonempty : path ≠ "") (plain : '\x00' ∉ path.toList) :
    SocketName.read path =
      if SocketName.limit ≤ (Bytes.ofString path).length then .error .socketPathTooLong else .ok .file := by
  unfold SocketName.read
  split
  · rename_i empty
    exact absurd (String.toList_inj.mp empty) nonempty
  · rename_i rest lead
    simp [lead] at plain
  · rw [if_neg (by simpa using plain)]

theorem made_of_taken (located : w.locate path = .ok loc) (taken : w.files.get? loc = some node) :
    ∃ fault, w.made path = .error fault := by
  obtain ⟨nonempty, plain⟩ := proper_of_locate located
  have inUse : w.site path = .error .addressInUse := by
    unfold SocketWorld.site
    rw [located]
    simp [taken]
  unfold SocketWorld.made
  rw [read_of_proper nonempty plain]
  split_ifs
  · exact ⟨_, rfl⟩
  · exact ⟨.addressInUse, by simp [inUse]⟩

theorem request_error (refused : Refusals) (what : SocketRequest) (doing path : String) (w : SocketWorld)
    (fault : OsFault) :
    ∃ e, w.request refused what doing path (.error fault) = (w, .error e) := by
  unfold request
  cases refused what <;> exact ⟨_, rfl⟩

/-- What is not seen is not taken for a file, but its name is taken. -/
theorem bindUnder_of_unseen (found : w.node path = .ok node) {fault : OsFault} (blind : refused .look = some fault)
    (options : SocketOptions) : ∃ e, w.bindUnder refused path options = (w, .error e) := by
  have unseen : w.clear refused path = (w, .ok ()) := by
    unfold clear look
    rw [found, blind]
  obtain ⟨loc, located, taken⟩ := node_ok_iff.mp found
  obtain ⟨fault, inUse⟩ := made_of_taken located taken
  obtain ⟨e, failed⟩ := request_error refused .make "Failed to bind " path w fault
  refine ⟨e, ?_⟩
  rw [bindUnder, unseen, andThen]
  dsimp only
  rw [inUse, failed, andThen]

theorem bindUnder_of_occupied (found : w.node path = .ok node) (occupied : node.endpoint? = none)
    (refused : Refusals) (options : SocketOptions) :
    (w.bindUnder refused path options).1 = w ∧ (∃ e, (w.bindUnder refused path options).2 = .error e) ∧
      (refused .look = none → (w.bindUnder refused path options).2 = .error ⟨.notSocket, path⟩) := by
  cases blind : refused .look with
  | none =>
    have refuses : w.clear refused path = (w, .error ⟨.notSocket, path⟩) := by
      unfold clear look
      rw [found, blind]
      cases node with
      | file content => rfl
      | dir => rfl
      | socket mode uid gid endpoint => cases occupied
    rw [bindUnder, refuses]
    exact ⟨rfl, ⟨_, rfl⟩, fun _ => rfl⟩
  | some fault =>
    obtain ⟨e, fails⟩ := bindUnder_of_unseen found blind options
    rw [fails]
    exact ⟨rfl, ⟨_, rfl⟩, fun seen => by cases seen⟩

/-! ### The socket -/

theorem of_andThen_ok {done : SocketWorld × Except SettingError Unit}
    {next : SocketWorld → SocketWorld × Except SettingError α} {a : α} (ok : (andThen done next).2 = .ok a) :
    done.2 = .ok () ∧ andThen done next = next done.1 := by
  unfold andThen at ok ⊢
  split at ok
  · exact ⟨‹_›, rfl⟩
  · cases ok

theorem changed_found (changed : w.changed path f = .ok w') (located : w.locate path = .ok loc)
    (found : w.files.get? loc = some (.socket m u g endpoint)) :
    w'.listening = w.listening ∧ w'.files.get? loc = some (f (.socket m u g endpoint)) := by
  have noDir : w.files.get? loc ≠ some .dir := by simp [found]
  obtain ⟨place, node, here, there, rfl⟩ := changed_ok_iff.mp changed
  obtain rfl := Except.ok.inj (here.symm.trans located)
  obtain rfl := Option.some.inj (there.symm.trans found)
  refine ⟨rfl, ?_⟩
  dsimp only
  rw [FileSystem.get?_put, if_pos ⟨rfl, FileSystem.ne_root noDir⟩]

theorem and_permissions (mode : Nat) : mode &&& 0o777 = mode % 512 :=
  Nat.and_two_pow_sub_one_eq_mod mode 9

theorem clearLent_bits (mode : Nat) : Node.clearLent mode &&& 0o777 = mode &&& 0o777 := by
  rw [and_permissions, and_permissions]
  unfold Node.clearLent
  dsimp only
  split_ifs <;> omega

theorem owned_eq {asked : Option Nat} {old n : Nat} (given : asked = some n) (proper : n ≠ 2 ^ 32 - 1) :
    Node.owned old asked = n := by
  have number : n ≠ Integer.u32Max := proper
  rw [given, Node.owned, if_neg number]

/-- Mode and owner of a socket are as they are asked for. The system takes the greatest 32-bit number for no
number at all. -/
structure Fits (options : SocketOptions) (mode uid gid : Nat) : Prop where
  mode : ∀ n, options.mode = some n → mode &&& 0o777 = n &&& 0o777
  uid : ∀ n, options.uid = some n → n ≠ 2 ^ 32 - 1 → uid = n
  gid : ∀ n, options.gid = some n → n ≠ 2 ^ 32 - 1 → gid = n

theorem setMode_ok (ok : (w.setMode refused path options).2 = .ok ()) (located : w.locate path = .ok loc)
    (found : w.files.get? loc = some (.socket m u g endpoint)) :
    (w.setMode refused path options).1.listening = w.listening ∧
      ∃ m', (w.setMode refused path options).1.files.get? loc = some (.socket m' u g endpoint) ∧
        ∀ n, options.mode = some n → m' &&& 0o777 = n &&& 0o777 := by
  unfold setMode at ok ⊢
  cases asked : options.mode with
  | none => exact ⟨rfl, m, found, by simp⟩
  | some mode =>
    rw [asked] at ok
    obtain ⟨still, changed⟩ := changed_found (request_ok ok).2 located found
    refine ⟨still, mode % 4096, changed, ?_⟩
    rintro n ⟨⟩
    rw [and_permissions, and_permissions]
    omega

theorem setOwner_ok (ok : (w.setOwner refused path options).2 = .ok ()) (located : w.locate path = .ok loc)
    (found : w.files.get? loc = some (.socket m u g endpoint)) :
    (w.setOwner refused path options).1.listening = w.listening ∧
      ∃ m' u' g', (w.setOwner refused path options).1.files.get? loc = some (.socket m' u' g' endpoint) ∧
        m' &&& 0o777 = m &&& 0o777 ∧ (∀ n, options.uid = some n → n ≠ 2 ^ 32 - 1 → u' = n) ∧
        ∀ n, options.gid = some n → n ≠ 2 ^ 32 - 1 → g' = n := by
  unfold setOwner at ok ⊢
  split_ifs at ok ⊢ with asked
  · obtain ⟨still, changed⟩ := changed_found (request_ok ok).2 located found
    exact ⟨still, _, _, _, changed, clearLent_bits m, fun n => owned_eq, fun n => owned_eq⟩
  · refine ⟨rfl, m, u, g, found, rfl, ?_, ?_⟩ <;> intro n given <;> simp [given] at asked

theorem equip_ok (made : endpoint < w.next) (ok : (w.equip refused path options endpoint).2 = .ok ())
    (located : w.locate path = .ok loc) (found : w.files.get? loc = some (.socket m u g endpoint)) :
    endpoint ∈ (w.equip refused path options endpoint).1.listening ∧
      ∃ m' u' g', (w.equip refused path options endpoint).1.files.get? loc = some (.socket m' u' g' endpoint) ∧
        Fits options m' u' g' := by
  obtain ⟨listens, same⟩ := of_andThen_ok ok
  have opened := Except.ok.inj (request_ok listens).2
  rw [equip, same] at ok ⊢
  rw [← opened] at ok ⊢
  obtain ⟨modeSet, same⟩ := of_andThen_ok ok
  rw [same] at ok ⊢
  have moved : Keeps path w (w.listen endpoint) := listen_keeps path made
  obtain ⟨still, m', found, mode⟩ := setMode_ok modeSet (moved.locate_iff.mpr located) found
  have moved : Keeps path w ((w.listen endpoint).setMode refused path options).1 := moved.trans setMode_keeps
  obtain ⟨open_, m'', u', g', found, bits, uid, gid⟩ := setOwner_ok ok (moved.locate_iff.mpr located) found
  refine ⟨?_, m'', u', g', found, fun n asked => bits.trans (mode n asked), uid, gid⟩
  rw [open_, still]
  exact List.mem_cons_self

theorem file_of_read {name : SocketName} (nonempty : path ≠ "") (lead : path.toList.head? ≠ some '\x00')
    (read : SocketName.read path = .ok name) : name = .file := by
  unfold SocketName.read at read
  split at read
  · rename_i empty
    exact absurd (String.toList_inj.mp empty) nonempty
  · rename_i rest chars
    exact absurd (by rw [chars]; rfl) lead
  · split_ifs at read
    cases read
    rfl

theorem made_found (nonempty : path ≠ "") (lead : path.toList.head? ≠ some '\x00')
    (made : w.made path = .ok w') :
    ∃ loc m u g, w.locate path = .ok loc ∧ w'.files.get? loc = some (.socket m u g w.next) := by
  unfold SocketWorld.made at made
  cases read : SocketName.read path with
  | error fault =>
    rw [read] at made
    cases made
  | ok name =>
    obtain rfl := file_of_read nonempty lead read
    rw [read] at made
    dsimp only at made
    split at made
    · cases made
    · rename_i loc site
      cases made
      obtain ⟨located, free⟩ := site_ok site
      have noDir : w.files.get? loc ≠ some .dir := by simp [free]
      refine ⟨loc, 511 - w.umask, 0, 0, located, ?_⟩
      dsimp only
      rw [FileSystem.get?_put, if_pos ⟨rfl, FileSystem.ne_root noDir⟩]

theorem of_kept_ok {done : SocketWorld × Except SettingError Unit} {made : Nat}
    (ok : (kept made done).2 = .ok endpoint) : done.2 = .ok () ∧ kept made done = (done.1, .ok made) ∧ made = endpoint := by
  unfold kept at ok ⊢
  split at ok
  · exact ⟨‹_›, rfl, Except.ok.inj ok⟩
  · cases ok

/-- A bind that succeeds has made an endpoint and set it up. -/
theorem of_bindUnder_ok (ok : (w.bindUnder refused path options).2 = .ok endpoint) :
    ∃ made, (w.clear refused path).1.made path = .ok made ∧ (w.clear refused path).1.next = endpoint ∧
      (made.equip refused path options endpoint).2 = .ok () ∧
      (w.bindUnder refused path options).1 = (made.equip refused path options endpoint).1 := by
  obtain ⟨-, same⟩ := of_andThen_ok ok
  rw [bindUnder, same] at ok ⊢
  obtain ⟨makes, same⟩ := of_andThen_ok ok
  rw [same] at ok ⊢
  obtain ⟨equipped, same, rfl⟩ := of_kept_ok ok
  exact ⟨_, (request_ok makes).2, rfl, equipped, congrArg Prod.fst same⟩

/-- What a socket is after it was bound to a path among the files. -/
theorem bindUnder_ok (nonempty : path ≠ "") (lead : path.toList.head? ≠ some '\x00')
    (ok : (w.bindUnder refused path options).2 = .ok endpoint) :
    w.next ≤ endpoint ∧ endpoint ∈ (w.bindUnder refused path options).1.listening ∧
      ∃ m u g, (w.bindUnder refused path options).1.node path = .ok (.socket m u g endpoint) ∧ Fits options m u g := by
  obtain ⟨bound, made, rfl, equipped, same⟩ := of_bindUnder_ok ok
  rw [same]
  obtain ⟨keeps, next⟩ := made_keeps made
  obtain ⟨loc, m, u, g, located, found⟩ := made_found nonempty lead made
  have located := keeps.locate_iff.mpr located
  obtain ⟨listening, m, u, g, found, fits⟩ := equip_ok (by omega) equipped located found
  refine ⟨clear_keeps.next, listening, m, u, g, node_ok_iff.mpr ⟨loc, ?_, found⟩, fits⟩
  exact (equip_keeps (by omega)).locate_iff.mpr located

/-! ### That it binds at all -/

theorem request_of_ok (allowed : refused what = none) :
    w.request refused what doing path (.ok w') = (w', .ok ()) := by
  unfold request
  rw [allowed]

theorem setMode_isOk (allowed : ∀ what, refused what = none) (located : w.locate path = .ok loc)
    (found : w.files.get? loc = some node) : (w.setMode refused path options).2 = .ok () := by
  unfold setMode
  split
  · rfl
  · rw [changed_ok_iff.mpr ⟨loc, node, located, found, rfl⟩, request_of_ok (allowed _)]

theorem setOwner_isOk (allowed : ∀ what, refused what = none) (located : w.locate path = .ok loc)
    (found : w.files.get? loc = some node) : (w.setOwner refused path options).2 = .ok () := by
  unfold setOwner
  split_ifs
  · rw [changed_ok_iff.mpr ⟨loc, node, located, found, rfl⟩, request_of_ok (allowed _)]
  · rfl

theorem andThen_of_ok {done : SocketWorld × Except SettingError Unit} (first : done.2 = .ok ())
    (next : SocketWorld → SocketWorld × Except SettingError α) : andThen done next = next done.1 := by
  rw [andThen, first]

theorem equip_isOk (allowed : ∀ what, refused what = none) (located : w.locate path = .ok loc)
    (found : w.files.get? loc = some (.socket m u g endpoint)) :
    (w.equip refused path options endpoint).2 = .ok () := by
  have modeSet : ((w.listen endpoint).setMode refused path options).2 = .ok () := setMode_isOk allowed located found
  rw [equip, request_of_ok (allowed _), andThen_of_ok rfl, andThen_of_ok modeSet]
  obtain ⟨-, m, found, -⟩ := setMode_ok modeSet located found
  exact setOwner_isOk allowed (setMode_keeps.locate_iff.mpr located) found

/-- Nothing is left at the path of a socket, or of nothing. -/
theorem clear_isOk (look : refused .look = none) (remove : refused .remove = none) (located : w.locate path = .ok loc)
    (way : ∀ node, w.files.get? loc = some node → node.endpoint? ≠ none) :
    (w.clear refused path).2 = .ok () ∧ (w.clear refused path).1.files.get? loc = none := by
  cases found : w.files.get? loc with
  | none =>
    have unseen : w.look refused path = none := by
      simp [SocketWorld.look, SocketWorld.node, located, found]
    rw [clear, unseen]
    exact ⟨rfl, found⟩
  | some node =>
    cases node with
    | file content => exact absurd rfl (way _ found)
    | dir => exact absurd rfl (way _ found)
    | socket m u g endpoint =>
      have seen : w.look refused path = some (.socket m u g endpoint) := by
        simp [SocketWorld.look, SocketWorld.node, located, found, look]
      have goes : w.removed path = .ok { w with files := w.files.erase loc } :=
        removed_ok_iff.mpr ⟨loc, _, located, found, by simp, rfl⟩
      have noDir : w.files.get? loc ≠ some .dir := by simp [found]
      rw [clear, seen]
      dsimp only
      rw [goes, request_of_ok remove]
      refine ⟨rfl, ?_⟩
      dsimp only
      rw [FileSystem.get?_erase, if_pos ⟨rfl, FileSystem.ne_root noDir⟩]

theorem made_isOk (located : w.locate path = .ok loc) (short : (Bytes.ofString path).length < 108)
    (free : w.files.get? loc = none) (parent : w.files.get? loc.dropLast = some .dir) :
    ∃ w', w.made path = .ok w' := by
  obtain ⟨nonempty, plain⟩ := proper_of_locate located
  have site : w.site path = .ok loc := by
    rw [SocketWorld.site, located]
    simp [free, parent]
  have fits : ¬ SocketName.limit ≤ (Bytes.ofString path).length := Nat.not_le.mpr short
  rw [made, read_of_proper nonempty plain, if_neg fits]
  dsimp only
  rw [site]
  exact ⟨_, rfl⟩

/-- If the system refuses nothing, a socket can be bound to a path in a directory where nothing is, or a socket. -/
theorem bindUnder_isOk (allowed : ∀ what, refused what = none) (located : w.locate path = .ok loc)
    (short : (Bytes.ofString path).length < 108) (parent : w.files.get? loc.dropLast = some .dir)
    (way : ∀ node, w.files.get? loc = some node → node.endpoint? ≠ none) :
    ∃ endpoint, (w.bindUnder refused path options).2 = .ok endpoint := by
  obtain ⟨cleared, free⟩ := clear_isOk (allowed _) (allowed _) located way
  have keeps : Keeps path w (w.clear refused path).1 := clear_keeps
  obtain ⟨nonempty, plain⟩ := proper_of_locate located
  have located := keeps.locate_iff.mpr located
  obtain ⟨w', made⟩ := made_isOk located short free ((keeps.dirs _).mpr parent)
  have lead : path.toList.head? ≠ some '\x00' := fun lead => plain (List.mem_of_mem_head? lead)
  obtain ⟨loc, m, u, g, located, found⟩ := made_found nonempty lead made
  have located := (made_keeps made).1.locate_iff.mpr located
  rw [bindUnder, andThen_of_ok cleared, made, request_of_ok (allowed _), andThen_of_ok rfl, kept,
    equip_isOk allowed located found]
  exact ⟨_, rfl⟩

/-! ### Runs -/

/-- What may happen to sockets: one is bound, on a system that refuses this or that, an endpoint is closed, or
a file is removed. -/
inductive Action where
  | bind (refused : Refusals) (path : String) (options : SocketOptions)
  | close (endpoint : Nat)
  | unlink (path : String)

def act (w : SocketWorld) : Action → SocketWorld
  | .bind refused path options => (w.bindUnder refused path options).1
  | .close endpoint => w.close endpoint
  | .unlink path => (w.unlink path).1

def run (w : SocketWorld) (actions : List Action) : SocketWorld :=
  actions.foldl act w

/-- Whatever happens concerns one path at most. -/
theorem act_keeps (w : SocketWorld) (a : Action) : ∃ path, Keeps path w (w.act a) := by
  cases a with
  | bind refused path options => exact ⟨path, bindUnder_keeps refused w path options⟩
  | close endpoint => exact ⟨"", close_keeps "" w endpoint⟩
  | unlink path => exact ⟨path, unlink_keeps path w⟩

theorem numbered_act (numbered : w.Numbered) (a : Action) : (w.act a).Numbered :=
  let ⟨_, keeps⟩ := act_keeps w a
  keeps.numbered numbered

theorem numbered_run (numbered : w.Numbered) (actions : List Action) : (w.run actions).Numbered := by
  induction actions generalizing w with
  | nil => exact numbered
  | cons a rest ih => exact ih (numbered_act numbered a)

/-- Binding concerns the path that it is given, and nothing there but a socket. Every other path leads to what it
has led to; where a file or a directory is, nothing changes and the call fails; and if it does not fail, there is a
socket of a new endpoint with the mode and the owner that were asked for. This comes to pass if nothing stands
against it. -/
theorem binding_concerns_socket (numbered : w.Numbered) (actions : List Action) (refused : Refusals) (path : String)
    (options : SocketOptions) :
    let before := w.run actions
    let (after, result) := before.bindUnder refused path options
    (∀ other, (∀ loc, before.locate other = .ok loc → before.locate path ≠ .ok loc) →
      (after.node other).toOption = (before.node other).toOption) ∧
    (∀ node, before.node path = .ok node → node.endpoint? = none →
      after = before ∧ (∃ e, result = .error e) ∧ (refused .look = none → result = .error ⟨.notSocket, path⟩)) ∧
    (∀ endpoint, result = .ok endpoint → path ≠ "" → path.toList.head? ≠ some '\x00' →
      (∃ m u g, after.node path = .ok (.socket m u g endpoint) ∧ Fits options m u g) ∧
      endpoint ∈ after.listening ∧ endpoint ∉ before.listening ∧
      ∀ place node, before.files.get? place = some node → node.endpoint? ≠ some endpoint) ∧
    (∀ loc, (∀ what, refused what = none) → before.locate path = .ok loc → (Bytes.ofString path).length < 108 →
      before.files.get? loc.dropLast = some .dir →
      (∀ node, before.files.get? loc = some node → node.endpoint? ≠ none) → ∃ endpoint, result = .ok endpoint) := by
  intro before
  have numbered : before.Numbered := numbered_run numbered actions
  refine ⟨fun other elsewhere => (bindUnder_keeps refused before path options).node_eq elsewhere,
    fun node found occupied => bindUnder_of_occupied found occupied refused options, fun endpoint ok nonempty lead => ?_,
    fun loc allowed located short parent way => bindUnder_isOk allowed located short parent way⟩
  obtain ⟨fresh, listening, bound⟩ := bindUnder_ok nonempty lead ok
  refine ⟨bound, listening, fun member => ?_, fun place node found made => ?_⟩
  · have earlier := numbered.listening endpoint member
    omega
  · have earlier := numbered.sockets place node endpoint found made
    omega

/-- One file and no socket. -/
def oneFile : SocketWorld := { files := ⟨[(["f"], .file [7])]⟩ }

theorem numbered_oneFile : oneFile.Numbered where
  sockets place node endpoint found made := by
    unfold oneFile FileSystem.get? FileSystem.find at found
    split_ifs at found <;> cases found <;> cases made
  listening endpoint member := by cases member

/-- A socket whose listener is gone gives way to one with another mode and owner. The file stays, also when it is
bound to. -/
theorem binding_replaces_stale :
    let before := oneFile.run [.bind (fun _ => none) "/s" { mode := some 0o640 }, .close 0]
    let (after, result) := before.bind "/s" { mode := some 0o4660, uid := some 1000, gid := some (2 ^ 32 - 1) }
    before.node "/s" = .ok (.socket 0o640 0 0 0) ∧ result = .ok 1 ∧
      (∃ m u g, after.node "/s" = .ok (.socket m u g 1) ∧ m &&& 0o777 = 0o660 ∧ u = 1000) ∧
      (after.node "/f").toOption = some (.file [7]) ∧
      before.bind "/f" {} = (before, .error ⟨.notSocket, "/f"⟩) := by
  have concerns := binding_concerns_socket numbered_oneFile
    [.bind (fun _ => none) "/s" { mode := some 0o640 }, .close 0] (fun _ => none)
  obtain ⟨spared, -, fits, -⟩ :=
    concerns "/s" { mode := some 0o4660, uid := some 1000, gid := some (2 ^ 32 - 1) }
  obtain ⟨-, occupied, -, -⟩ := concerns "/f" {}
  obtain ⟨⟨m, u, g, socket, fitting⟩, -⟩ := fits 1 rfl (by decide) (by decide)
  obtain ⟨same, -, refuses⟩ := occupied (.file [7]) rfl rfl
  refine ⟨rfl, rfl, ⟨m, u, g, socket, fitting.mode _ rfl, fitting.uid _ rfl (by decide)⟩, ?_, Prod.ext same (refuses rfl)⟩
  refine spared "/f" ?_
  rintro loc ⟨⟩
  decide

/-- The empty path and one that begins with a zero character are names outside of the files; with them an endpoint
comes into being and no socket. And what the system does not let look at is not taken for a file. -/
theorem bound_without_socket :
    oneFile.node "/f" = .ok (.file [7]) ∧
    (oneFile.bind "" {}).2 = .ok 0 ∧ (oneFile.bind "" {}).1.node "" = .error .notFound ∧
    (oneFile.bind "\x00s" {}).2 = .ok 0 ∧ (oneFile.bind "\x00s" {}).1.node "\x00s" = .error .nulInPath ∧
    (oneFile.bindUnder (fun what => if what = .look ∨ what = .make then some .accessDenied else none) "/f" {}).2 =
      .error ⟨.system .accessDenied, "Failed to bind /f"⟩ :=
  ⟨rfl, rfl, rfl, rfl, rfl, rfl⟩

end SocketWorld

end ServiceKit
