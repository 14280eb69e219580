import ServiceKit.Proofs.Http.Binding

namespace ServiceKit

namespace SocketWorld
variable {w w' : SocketWorld} {path other : String} {loc : Location} {node : Node} {refused : Refusals}
  {options : SocketOptions} {name : Bytes} {bound endpoint : Nat} {f : Node → Node} {a : Action}

/-! ### Where endpoints are -/

/-- The endpoint of the socket at a location. -/
def socketAt (w : SocketWorld) (loc : Location) : Option Nat :=
  (w.files.get? loc).bind Node.endpoint?

/-- The endpoint that has a name outside of the files. -/
def owner? (w : SocketWorld) (name : Bytes) : Option Nat :=
  (w.outside.find? (·.1 = name)).map Prod.snd

/-- The endpoint that an address leads to. -/
def addressed? (w : SocketWorld) (path : String) : Option Nat :=
  match SocketName.read path with
  | .ok .file => (w.node path).toOption.bind Node.endpoint?
  | .ok (.outside name) => w.owner? name
  | _ => none

/-- The endpoint that takes a connection to an address. -/
def reached? (w : SocketWorld) (path : String) : Option Nat :=
  (w.addressed? path).filter (· ∈ w.listening)

theorem addressed?_of_file (read : SocketName.read path = .ok .file) (located : w.locate path = .ok loc) :
    w.addressed? path = w.socketAt loc := by
  unfold addressed? socketAt SocketWorld.node
  rw [read, located]
  cases found : w.files.get? loc <;> simp [found, Except.toOption]

theorem reached?_eq_some_iff :
    w.reached? path = some endpoint ↔ w.addressed? path = some endpoint ∧ endpoint ∈ w.listening := by
  simp [reached?, Option.filter_eq_some_iff]

/-! ### What a step leaves to the endpoints that are there -/

/-- A step that opens and closes no endpoint below a bound, takes no such endpoint's name away and brings no socket
of one back. -/
structure Spares (bound : Nat) (w w' : SocketWorld) : Prop where
  sockets : ∀ {loc endpoint}, endpoint < bound → w'.socketAt loc = some endpoint → w.socketAt loc = some endpoint
  listening : ∀ {endpoint}, endpoint < bound → (endpoint ∈ w'.listening ↔ endpoint ∈ w.listening)
  names : ∀ {name endpoint}, endpoint < bound → w.owner? name = some endpoint → w'.owner? name = some endpoint

theorem socketAt_put (place : Location) : { w with files := w.files.put loc node }.socketAt place =
    if place = loc ∧ place ≠ [] then node.endpoint? else w.socketAt place := by
  unfold socketAt
  dsimp only
  rw [FileSystem.get?_put]
  split_ifs <;> rfl

theorem socketAt_erase (place : Location) : { w with files := w.files.erase loc }.socketAt place =
    if place = loc ∧ place ≠ [] then none else w.socketAt place := by
  unfold socketAt
  dsimp only
  rw [FileSystem.get?_erase]
  split_ifs <;> rfl

theorem removed_spares (removed : w.removed path = .ok w') : Spares bound w w' := by
  obtain ⟨loc, node, -, -, -, rfl⟩ := removed_ok_iff.mp removed
  refine ⟨fun _ there => ?_, fun _ => Iff.rfl, fun _ => id⟩
  rw [socketAt_erase] at there
  split_ifs at there
  exact there

theorem changed_spares (tunes : Node.Tunes f) (changed : w.changed path f = .ok w') : Spares bound w w' := by
  obtain ⟨loc, node, -, found, rfl⟩ := changed_ok_iff.mp changed
  refine ⟨fun _ there => ?_, fun _ => Iff.rfl, fun _ => id⟩
  rw [socketAt_put] at there
  split_ifs at there with here
  · rw [here.1, socketAt, found]
    exact (tunes.endpoint node).symm.trans there
  · exact there

theorem tracks_spares (path : String) (bound : Nat) : Tracks path (Spares bound) where
  refl _ := ⟨fun _ => id, fun _ => Iff.rfl, fun _ => id⟩
  trans first second :=
    ⟨fun older there => first.sockets older (second.sockets older there),
      fun older => (second.listening older).trans (first.listening older),
      fun older owned => second.names older (first.names older owned)⟩
  removes := removed_spares
  tunes := changed_spares

theorem unlink_spares (path : String) (w : SocketWorld) : Spares bound w (w.unlink path).1 := by
  unfold unlink
  split
  · exact (tracks_spares path bound).refl w
  · exact removed_spares ‹_›

/-- A name that is given to a new endpoint had no owner. -/
theorem made_spares (fresh : bound ≤ w.next) (made : w.made path = .ok w') : Spares bound w w' := by
  have kept (next : Nat) : Spares bound w { w with next := next } := ⟨fun _ => id, fun _ => Iff.rfl, fun _ => id⟩
  unfold SocketWorld.made at made
  split at made
  · cases made
  · cases made
    exact kept _
  · rename_i name _
    split_ifs at made with taken
    cases made
    refine ⟨fun _ => id, fun _ => Iff.rfl, fun {other endpoint} _ owned => ?_⟩
    obtain ⟨entry, found, rfl⟩ := Option.map_eq_some_iff.mp owned
    have named : entry.1 = other := by simpa using List.find?_some found
    have apart : name ≠ other := by
      rintro rfl
      exact taken (List.any_eq_true.mpr ⟨entry, List.mem_of_find?_eq_some found, by simpa using named⟩)
    unfold owner?
    rw [List.find?_cons_of_neg (by simpa using apart), found]
    rfl
  · split at made
    · cases made
    · cases made
      refine ⟨fun older there => ?_, fun _ => Iff.rfl, fun _ => id⟩
      have there := (socketAt_put (w := w) _).symm.trans there
      split_ifs at there
      · exact absurd (Option.some.inj there) (by omega)
      · exact there

theorem listen_spares (fresh : bound ≤ endpoint) : Spares bound w (w.listen endpoint) := by
  refine ⟨fun _ => id, fun {other} older => ?_, fun _ => id⟩
  have apart : other ≠ endpoint := by omega
  simp [listen, apart]

theorem owner?_close {closed : Nat} (apart : endpoint ≠ closed) (owned : w.owner? name = some endpoint) :
    (w.close closed).owner? name = some endpoint := by
  obtain ⟨entry, found, rfl⟩ := Option.map_eq_some_iff.mp owned
  obtain ⟨named, before, after, split, others⟩ := List.find?_eq_some_iff_append.mp found
  have still : (w.outside.filter (·.2 ≠ closed)).find? (·.1 = name) = some entry := by
    rw [List.find?_filter, List.find?_eq_some_iff_append]
    refine ⟨by simp_all, before, after, split, fun other early => ?_⟩
    simpa using Or.inr (by simpa using others other early)
  rw [owner?, close, still]
  rfl

theorem close_spares (fresh : bound ≤ endpoint) : Spares bound w (w.close endpoint) := by
  refine ⟨fun _ => id, fun {other} older => ?_, fun older => owner?_close (by omega)⟩
  have apart : other ≠ endpoint := by omega
  simp [close, apart]

/-- A bind concerns no older endpoint but that of the socket which it removes first. -/
theorem bindUnder_spares (refused : Refusals) (w : SocketWorld) (path : String) (options : SocketOptions) :
    Spares w.next w (w.bindUnder refused path options).1 ∧
      Spares w.next (w.clear refused path).1 (w.bindUnder refused path options).1 := by
  have fresh : w.next ≤ (w.clear refused path).1.next := clear_keeps.next
  have tracks := tracks_spares path w.next
  exact ⟨tracks.bindUnder (fun made => ⟨made_spares fresh made, listen_spares fresh⟩) fun _ => close_spares fresh,
    tracks.ofCleared (fun made => ⟨made_spares fresh made, listen_spares fresh⟩) fun _ => close_spares fresh⟩

/-! ### What takes a socket away -/

theorem Keeps.socketAt_eq (keeps : Keeps path w w') (elsewhere : w.locate path ≠ .ok loc) :
    w'.socketAt loc = w.socketAt loc := by
  unfold socketAt
  rw [keeps.others loc elsewhere]

theorem bindUnder_of_unremoved (found : w.node path = .ok node) (socket : node.endpoint? = some endpoint)
    (seen : refused .look = none) {fault : OsFault} (stays : refused .remove = some fault) (options : SocketOptions) :
    ∃ e, w.bindUnder refused path options = (w, .error e) := by
  have look : w.look refused path = some node := by
    unfold SocketWorld.look
    rw [found, seen]
  cases node with
  | file content => cases socket
  | dir => cases socket
  | socket mode uid gid endpoint =>
    have refuses :
        w.clear refused path = (w, .error ⟨.system fault, "Failed to remove stale socket " ++ path⟩) := by
      unfold clear request
      rw [look, stays]
    exact ⟨_, by rw [bindUnder, refuses, andThen]⟩

/-- The socket of an older endpoint survives a bind to its path only on a system that does not let the bind look at
it or remove it; whether it is in use makes no difference. -/
theorem socketAt_bindUnder (located : w.locate path = .ok loc) (older : endpoint < w.next)
    (options : SocketOptions) :
    (w.bindUnder refused path options).1.socketAt loc = some endpoint ↔
      w.socketAt loc = some endpoint ∧ ¬ (refused .look = none ∧ refused .remove = none) := by
  obtain ⟨spares, sparesCleared⟩ := bindUnder_spares refused w path options
  by_cases there : w.socketAt loc = some endpoint
  -- Whoever may not look or not remove fails before anything has changed.
  · obtain ⟨node, atLoc, socket⟩ := Option.bind_eq_some_iff.mp there
    have found : w.node path = .ok node := node_ok_iff.mpr ⟨loc, located, atLoc⟩
    cases seen : refused .look with
    | some fault =>
      obtain ⟨e, fails⟩ := bindUnder_of_unseen found seen options
      simp [fails, there]
    | none =>
      cases stays : refused .remove with
      | some fault =>
        obtain ⟨e, fails⟩ := bindUnder_of_unremoved found socket seen stays options
        simp [fails, there]
      | none =>
        have way : ∀ other, w.files.get? loc = some other → other.endpoint? ≠ none := by
          rintro other same
          obtain rfl := Option.some.inj (atLoc.symm.trans same)
          simp [socket]
        -- Nothing asks whether the endpoint is listening: the place is empty after the removal, and what is made
        -- there is younger.
        obtain ⟨-, cleared⟩ := clear_isOk seen stays located way
        refine iff_of_false (fun after => ?_) (by simp)
        have still := sparesCleared.sockets older after
        rw [SocketWorld.socketAt, cleared] at still
        cases still
  · exact iff_of_false (fun after => there (spares.sockets older after)) fun both => there both.1

theorem socketAt_unlink (located : w.locate path = .ok loc) : (w.unlink path).1.socketAt loc ≠ some endpoint := by
  unfold unlink
  split
  · rename_i fault failed
    intro there
    obtain ⟨node, atLoc, socket⟩ := Option.bind_eq_some_iff.mp there
    cases node with
    | file content => cases socket
    | dir => cases socket
    | socket m u g e =>
      have removed := removed_ok_iff.mpr ⟨loc, _, located, atLoc, by simp, rfl⟩
      rw [failed] at removed
      cases removed
  · rename_i w' removed
    obtain ⟨place, node, here, found, noDir, rfl⟩ := removed_ok_iff.mp removed
    obtain rfl := Except.ok.inj (located.symm.trans here)
    have noRoot : loc ≠ [] := FileSystem.ne_root (by rw [found]; simpa using noDir)
    rw [socketAt_erase, if_pos ⟨rfl, noRoot⟩]
    simp

/-- Two paths lead to one place. -/
def Together (w : SocketWorld) (path other : String) : Prop :=
  ∃ loc, w.locate path = .ok loc ∧ w.locate other = .ok loc

theorem together_iff (located : w.locate path = .ok loc) : w.Together path other ↔ w.locate other = .ok loc := by
  constructor
  · rintro ⟨place, here, there⟩
    rwa [Except.ok.inj (located.symm.trans here)]
  · exact fun there => ⟨loc, located, there⟩

/-- What a path leads to is removed explicitly. -/
def Unlinks (w : SocketWorld) (path : String) : Action → Prop
  | .unlink other => w.Together path other
  | _ => False

/-- Something is bound to where a path leads, and the system lets the bind look and remove. -/
def Displaces (w : SocketWorld) (path : String) : Action → Prop
  | .bind refused other _ => w.Together path other ∧ refused .look = none ∧ refused .remove = none
  | _ => False

/-- One step: a socket goes if it is removed or displaced, and does not come back. -/
theorem socketAt_act (located : w.locate path = .ok loc) (older : endpoint < w.next) (a : Action) :
    (w.act a).socketAt loc = some endpoint ↔
      w.socketAt loc = some endpoint ∧ ¬ w.Unlinks path a ∧ ¬ w.Displaces path a := by
  cases a with
  | bind refused other options =>
    simp only [act, Unlinks, Displaces, together_iff located]
    by_cases same : w.locate other = .ok loc
    · simp [socketAt_bindUnder same older, same]
    · simp [(bindUnder_keeps refused w other options).socketAt_eq same, same]
  | close closed => simp [act, close, socketAt, Unlinks, Displaces]
  | unlink other =>
    simp only [act, Unlinks, Displaces, together_iff located]
    by_cases same : w.locate other = .ok loc
    · simp [socketAt_unlink same, same]
    · simp [(unlink_keeps other w).socketAt_eq same, same]

/-! ### Runs -/

theorem locate_act_iff : (w.act a).locate path = .ok loc ↔ w.locate path = .ok loc :=
  let ⟨_, keeps⟩ := act_keeps w a
  keeps.locate_iff

theorem unlinks_act_iff (later : Action) : (w.act a).Unlinks path later ↔ w.Unlinks path later := by
  cases later <;> simp only [Unlinks, Together, locate_act_iff]

theorem displaces_act_iff (later : Action) : (w.act a).Displaces path later ↔ w.Displaces path later := by
  cases later <;> simp only [Displaces, Together, locate_act_iff]

theorem next_le_act (w : SocketWorld) (a : Action) : w.next ≤ (w.act a).next :=
  let ⟨_, keeps⟩ := act_keeps w a
  keeps.next

theorem locate_run_iff {actions : List Action} : (w.run actions).locate path = .ok loc ↔ w.locate path = .ok loc := by
  induction actions generalizing w with
  | nil => exact Iff.rfl
  | cons a rest ih => exact ih.trans locate_act_iff

theorem socketAt_run (located : w.locate path = .ok loc) (older : endpoint < w.next) (actions : List Action) :
    (w.run actions).socketAt loc = some endpoint ↔
      w.socketAt loc = some endpoint ∧ ∀ a ∈ actions, ¬ w.Unlinks path a ∧ ¬ w.Displaces path a := by
  induction actions generalizing w with
  | nil => simp [run]
  | cons a rest ih =>
    have later := ih (locate_act_iff.mpr located) (Nat.lt_of_lt_of_le older (next_le_act w a))
    simp only [unlinks_act_iff, displaces_act_iff, socketAt_act located older] at later
    rw [List.forall_mem_cons, ← and_assoc]
    exact later

theorem listening_act (older : endpoint < w.next) (a : Action) :
    endpoint ∈ (w.act a).listening ↔ endpoint ∈ w.listening ∧ .close endpoint ≠ a := by
  cases a with
  | bind refused path options => simp [act, (bindUnder_spares refused w path options).1.listening older]
  | close closed => simp [act, close]
  | unlink path => simp [act, (unlink_spares path w).listening older]

theorem listening_run (older : endpoint < w.next) (actions : List Action) :
    endpoint ∈ (w.run actions).listening ↔ endpoint ∈ w.listening ∧ .close endpoint ∉ actions := by
  induction actions generalizing w with
  | nil => simp [run]
  | cons a rest ih =>
    have later := ih (Nat.lt_of_lt_of_le older (next_le_act w a))
    rw [listening_act older] at later
    rw [List.mem_cons, not_or, ← and_assoc]
    exact later

theorem owner?_act (older : endpoint < w.next) (stays : .close endpoint ≠ a) (owned : w.owner? name = some endpoint) :
    (w.act a).owner? name = some endpoint := by
  cases a with
  | bind refused path options => exact (bindUnder_spares refused w path options).1.names older owned
  | close closed => exact owner?_close (fun same => stays (congrArg Action.close same)) owned
  | unlink path => exact (unlink_spares path w).names older owned

theorem owner?_run (older : endpoint < w.next) (actions : List Action) (stays : .close endpoint ∉ actions)
    (owned : w.owner? name = some endpoint) : (w.run actions).owner? name = some endpoint := by
  induction actions generalizing w with
  | nil => exact owned
  | cons a rest ih =>
    obtain ⟨now, later⟩ := not_or.mp (mt List.mem_cons.mpr stays)
    exact ih (Nat.lt_of_lt_of_le older (next_le_act w a)) later (owner?_act older now owned)

/-! ### From a bind on -/

/-- Changes of what is at a path are changes of files only. -/
theorem tracks_of_files {β : Type} (path : String) (view : SocketWorld → β)
    (blind : ∀ w files, view { w with files := files } = view w) : Tracks path fun a b => view b = view a where
  refl _ := rfl
  trans first second := second.trans first
  removes removed := by
    obtain ⟨_, _, -, -, -, rfl⟩ := removed_ok_iff.mp removed
    exact blind ..
  tunes _ changed := by
    obtain ⟨_, _, -, -, rfl⟩ := changed_ok_iff.mp changed
    exact blind ..

theorem listening_equip (ok : (w.equip refused path options endpoint).2 = .ok ()) :
    endpoint ∈ (w.equip refused path options endpoint).1.listening := by
  obtain ⟨listens, goesOn⟩ := of_andThen_ok ok
  have opened := Except.ok.inj (request_ok listens).2
  have tracks := tracks_of_files path listening fun _ _ => rfl
  let tuned := andThen ((w.listen endpoint).setMode refused path options) fun w => w.setOwner refused path options
  have still : tuned.1.listening = (w.listen endpoint).listening :=
    tracks.andThen tracks.setMode fun _ => tracks.setOwner
  rw [equip, goesOn, ← opened]
  exact still ▸ List.mem_cons_self

theorem outside_equip : (w.equip refused path options endpoint).1.outside = w.outside :=
  (tracks_of_files path outside fun _ _ => rfl).equip rfl

theorem owner?_made (read : SocketName.read path = .ok (.outside name)) (made : w.made path = .ok w') :
    w'.owner? name = some w.next := by
  unfold SocketWorld.made at made
  rw [read] at made
  dsimp only at made
  split_ifs at made
  cases made
  simp [owner?]

theorem outside_of_read {address : SocketName} (lead : path.toList.head? = some '\x00')
    (read : SocketName.read path = .ok address) : ∃ name, address = .outside name := by
  unfold SocketName.read at read
  split at read
  · rename_i empty
    rw [empty] at lead
    cases lead
  · dsimp only at read
    split_ifs at read
    cases read
    exact ⟨_, rfl⟩
  · rename_i noName
    obtain ⟨rest, chars⟩ := List.head?_eq_some_iff.mp lead
    exact absurd chars (noName rest)

theorem exists_read (made : w.made path = .ok w') : ∃ address, SocketName.read path = .ok address := by
  unfold SocketWorld.made at made
  split at made
  · cases made
  · exact ⟨_, ‹_›⟩
  · exact ⟨_, ‹_›⟩
  · exact ⟨_, ‹_›⟩

/-- A name outside of the files is no path. -/
theorem not_together_of_outside (read : SocketName.read path = .ok (.outside name)) : ¬ w.Together path other := by
  rintro ⟨loc, located, -⟩
  obtain ⟨nonempty, plain⟩ := proper_of_locate located
  rw [read_of_proper nonempty plain] at read
  split_ifs at read
  cases read

/-- An endpoint is open once it is bound, and the address leads to it. -/
theorem addressed_of_bound (ok : (w.bindUnder refused path options).2 = .ok endpoint) (named : path ≠ "") :
    (endpoint < (w.bindUnder refused path options).1.next ∧
      endpoint ∈ (w.bindUnder refused path options).1.listening) ∧
    ((SocketName.read path = .ok .file ∧ ∃ loc, w.locate path = .ok loc ∧
        (w.bindUnder refused path options).1.socketAt loc = some endpoint) ∨
      ∃ name, SocketName.read path = .ok (.outside name) ∧
        (w.bindUnder refused path options).1.owner? name = some endpoint) := by
  have keeps := bindUnder_keeps refused w path options
  obtain ⟨made, makes, rfl, equipped, same⟩ := of_bindUnder_ok ok
  have older : (w.clear refused path).1.next < (w.bindUnder refused path options).1.next := by
    obtain ⟨-, next⟩ := made_keeps makes
    have later : made.next ≤ (w.bindUnder refused path options).1.next := by
      rw [same]
      exact (equip_keeps (by omega)).next
    omega
  refine ⟨⟨older, same ▸ listening_equip equipped⟩, ?_⟩
  obtain ⟨address, read⟩ := exists_read makes
  by_cases lead : path.toList.head? = some '\x00'
  · obtain ⟨name, rfl⟩ := outside_of_read lead read
    refine Or.inr ⟨name, read, ?_⟩
    rw [same, owner?, outside_equip]
    exact owner?_made read makes
  · obtain rfl := file_of_read named lead read
    obtain ⟨-, -, m, u, g, found, -⟩ := bindUnder_ok named lead ok
    obtain ⟨loc, located, atLoc⟩ := node_ok_iff.mp found
    refine Or.inl ⟨read, loc, keeps.locate_iff.mp located, ?_⟩
    rw [socketAt, atLoc]
    rfl

/-- Whoever has bound an address is reached there until it is closed, what is there is removed, or something is bound
to it: a bind displaces a socket whether or not it is in use. Only a system that does not let a bind look or remove
keeps it from doing so, and a name outside of the files is safe. -/
theorem reached_iff_undisplaced (bound : (w.bindUnder refused path options).2 = .ok endpoint) (named : path ≠ "")
    (later : List Action) :
    let after := (w.bindUnder refused path options).1.run later
    (endpoint ∈ after.listening ↔ .close endpoint ∉ later) ∧
    (after.reached? path = some endpoint ↔
      .close endpoint ∉ later ∧ ∀ a ∈ later, ¬ w.Unlinks path a ∧ ¬ w.Displaces path a) := by
  intro after
  obtain ⟨⟨older, listening⟩, address⟩ := addressed_of_bound bound named
  have stays : endpoint ∈ after.listening ↔ .close endpoint ∉ later := by
    rw [listening_run older]
    exact and_iff_right listening
  refine ⟨stays, ?_⟩
  rw [reached?_eq_some_iff, stays, and_comm]
  refine and_congr_right fun open_ => ?_
  -- No step makes or removes a directory, so that the paths of later steps lead where they lead at the start.
  rcases address with ⟨read, loc, located, there⟩ | ⟨name, read, owned⟩
  · have still : (w.bindUnder refused path options).1.locate path = .ok loc :=
      (bindUnder_keeps refused w path options).locate_iff.mpr located
    have unlinks (a : Action) : (w.bindUnder refused path options).1.Unlinks path a ↔ w.Unlinks path a :=
      unlinks_act_iff (a := .bind refused path options) a
    have displaces (a : Action) : (w.bindUnder refused path options).1.Displaces path a ↔ w.Displaces path a :=
      displaces_act_iff (a := .bind refused path options) a
    rw [addressed?_of_file read (locate_run_iff.mpr still), socketAt_run still older, and_iff_right there]
    simp only [unlinks, displaces]
  · refine iff_of_true ?_ fun a _ => ?_
    · rw [addressed?, read]
      exact owner?_run older later open_ owned
    · cases a <;> simp [Unlinks, Displaces, not_together_of_outside read]

/-- A system that refuses one kind of request. -/
def refusing (what : SocketRequest) : Refusals :=
  fun asked => if asked = what then some .accessDenied else none

/-- The socket stays when another endpoint comes and goes, and when binds to it may not look or not remove. A bind that
may do both takes it away from its listener, which is still open, by whichever text for the path. -/
theorem reached_until_displaced :
    let bound := oneFile.bindUnder (fun _ => none) "/s" {}
    let later : List Action :=
      [.bind (fun _ => none) "/t" {}, .close 1, .bind (refusing .look) "/s" {}, .bind (refusing .remove) "//s" {}]
    bound.2 = .ok 0 ∧ (bound.1.run later).reached? "/s" = some 0 ∧
      0 ∈ (bound.1.run (later ++ [.bind (fun _ => none) "/./s" {}])).listening ∧
      (bound.1.run (later ++ [.bind (fun _ => none) "/./s" {}])).reached? "/s" ≠ some 0 := by
  intro bound later
  have ok : bound.2 = .ok 0 := rfl
  have together : oneFile.Together "/s" "/./s" := ⟨["s"], rfl, rfl⟩
  have apart : ¬ oneFile.Together "/s" "/t" := by
    rintro ⟨loc, here, there⟩
    cases here
    cases there
  refine ⟨ok, ?_, ?_, ?_⟩
  · refine (reached_iff_undisplaced ok (by decide) later).2.mpr ⟨by simp [later], ?_⟩
    simp [later, Unlinks, Displaces, apart, refusing]
  · exact (reached_iff_undisplaced ok (by decide) _).1.mpr (by simp [later])
  · intro reached
    obtain ⟨-, undisplaced⟩ := (reached_iff_undisplaced ok (by decide) _).2.mp reached
    exact (undisplaced (.bind (fun _ => none) "/./s" {}) (by simp)).2 ⟨together, rfl, rfl⟩

/-- A listener is open and reached at its path; something else is bound there, and from then on the path leads to
that, although the listener is still open and nothing was removed explicitly. -/
theorem displaced_while_open :
    let (first, bound) := oneFile.bind "/s" {}
    let (second, boundAgain) := first.bind "/s" { mode := some 0o777 }
    bound = .ok 0 ∧ first.reached? "/s" = some 0 ∧
      boundAgain = .ok 1 ∧ 0 ∈ second.listening ∧ second.reached? "/s" = some 1 :=
  ⟨rfl, rfl, rfl, by decide, rfl⟩

end SocketWorld

end ServiceKit
