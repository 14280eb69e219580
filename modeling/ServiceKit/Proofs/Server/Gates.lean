import ServiceKit.Proofs.Forwarded.Chain
import ServiceKit.Proofs.Server.Building

namespace ServiceKit

namespace Router

/-- The status of the pages: anyone may read the two there are, and do nothing else. -/
def pageStatus (method target : String) : Nat :=
  if pathOf target = "/v1/sys/health" ∨ pathOf target = "/v1/sys/config/state/sanitized" then
    if method = "GET" ∨ method = "HEAD" then 200 else 405
  else 404

/-- The status with which the handling of forwarded requests refuses one. -/
def forwardedRefusal? (config : ForwardedSettings) (request : Request) : Option Nat :=
  match request.peer with
  | none => if config.rejectNotAuthorized then some 403 else none
  | some remote =>
    match config.trustedClient request.headers remote with
    | .error (.error rejection) => some rejection.status
    | _ => none

def headerRefusal? (l : Listener) (headers : Headers) : Option Nat :=
  if l.requireRequestHeader ∧ ¬ headers.contains requiredHeader then some 412 else none

def sizeRefusal? (l : Listener) (headers : Headers) : Option Nat :=
  match l.effectiveMaxRequestSize, contentLength? headers with
  | some limit, some length => if limit < length then some 413 else none
  | _, _ => none

/-- The status that is due behind the handling of forwarded requests. -/
def innerStatus (l : Listener) (request : Request) : Nat :=
  (headerRefusal? l request.headers).getD <| (sizeRefusal? l request.headers).getD <|
    pageStatus request.method request.path

/-- The status that a request is due: that of the first gate to refuse it, or else that of the page. -/
def dueStatus (l : Listener) (request : Request) : Nat :=
  ((ForwardedSettings.ofListener? l).bind (forwardedRefusal? · request)).getD <| innerStatus l request

/-- A handler that answers every request with the status it is due, unless a sum is out of range. -/
def Gives (overflow : Prop) (handler : Handler) (status : Request → Nat) : Prop :=
  ∀ request, (∃ response, handler request = .ok response ∧ response.status = status request) ∨
    overflow ∧ handler request = .error .additionOverflow

theorem page?_some {state : State} {path : String} {response : Response}
    (found : page? state path = some response) :
    response.status = 200 ∧ (path = "/v1/sys/health" ∨ path = "/v1/sys/config/state/sanitized") := by
  unfold page? at found
  split at found
  · cases found
    exact ⟨rfl, Or.inl rfl⟩
  · cases found
    exact ⟨rfl, Or.inr rfl⟩
  · cases found

theorem page?_none {state : State} {path : String} (missing : page? state path = none) :
    ¬ (path = "/v1/sys/health" ∨ path = "/v1/sys/config/state/sanitized") := by
  rintro (rfl | rfl) <;> cases missing

theorem routes_gives (state : State) :
    Gives False (routes state) fun request => pageStatus request.method request.path := by
  intro request
  left
  unfold routes
  dsimp only
  cases found : page? state (pathOf request.path) with
  | none => exact ⟨.empty 404, rfl, by rw [pageStatus, if_neg (page?_none found)]; rfl⟩
  | some response =>
    obtain ⟨ok, known⟩ := page?_some found
    by_cases read : request.method = "GET" ∨ request.method = "HEAD"
    · exact ⟨response, by simp [isRead, read], by rw [pageStatus, if_pos known, if_pos read, ok]⟩
    · exact ⟨.empty 405, by simp [isRead, read], by rw [pageStatus, if_pos known, if_neg read]; rfl⟩

section Layers
variable {overflow : Prop} {handler inner : Handler} {status : Request → Nat}

/-- A gate answers by itself what it refuses, and leaves the rest to what it stands before. -/
theorem gives_of_gate {refusal : Request → Option Nat} (gives : Gives overflow inner status)
    (refused : ∀ request code, refusal request = some code →
      ∃ response, handler request = .ok response ∧ response.status = code)
    (passed : ∀ request, refusal request = none → handler request = inner request) :
    Gives overflow handler fun request => (refusal request).getD (status request) := by
  intro request
  dsimp only
  cases atGate : refusal request with
  | none =>
    rw [passed request atGate]
    exact gives request
  | some code => exact Or.inl (refused request code atGate)

/-- What only touches up responses changes no status. -/
theorem gives_of_touch {touch : Request → Response → Response} (gives : Gives overflow inner status)
    (same : ∀ request response, (touch request response).status = response.status) :
    Gives overflow (fun request => (inner request).map (touch request)) status := by
  intro request
  rcases gives request with ⟨response, answered, atStatus⟩ | ⟨tooMany, crashed⟩
  · exact Or.inl ⟨touch request response, by simp only [answered]; rfl, by rw [same, atStatus]⟩
  · exact Or.inr ⟨tooMany, by simp only [crashed]; rfl⟩

theorem limitBody_gives (l : Listener) (gives : Gives overflow inner status) :
    Gives overflow (applyIf (l.effectiveMaxRequestSize.map limitBody) inner) fun request =>
      (sizeRefusal? l request.headers).getD (status request) := by
  refine gives_of_gate gives ?_ ?_
  · intro request code refused
    unfold sizeRefusal? at refused
    split at refused
    · rename_i limit length limited announced
      obtain ⟨tooLong, rfl⟩ : limit < length ∧ 413 = code := by simpa using refused
      exact ⟨.text 413 "length limit exceeded",
        by simp [applyIf, limitBody, limited, announced, tooLong], rfl⟩
    · cases refused
  · intro request passed
    unfold sizeRefusal? at passed
    cases limited : l.effectiveMaxRequestSize with
    | none => rfl
    | some limit =>
      cases announced : contentLength? request.headers with
      | none => simp [applyIf, limitBody, announced]
      | some length =>
        have short : ¬ limit < length := by simpa [limited, announced] using passed
        simp [applyIf, limitBody, announced, short]

theorem requireHeader_gives (l : Listener) (gives : Gives overflow inner status) :
    Gives overflow (if l.requireRequestHeader then requireHeader inner else inner) fun request =>
      (headerRefusal? l request.headers).getD (status request) := by
  refine gives_of_gate gives ?_ ?_
  · intro request code refused
    obtain ⟨⟨required, missing⟩, rfl⟩ :
        (l.requireRequestHeader = true ∧ request.headers.contains requiredHeader = false) ∧ 412 = code := by
      simpa [headerRefusal?] using refused
    exact ⟨.text 412 ("missing '" ++ requiredHeader ++ "' header"),
      by simp [required, requireHeader, missing], rfl⟩
  · intro request passed
    by_cases required : l.requireRequestHeader = true
    · have present : request.headers.contains requiredHeader = true := by
        simpa [headerRefusal?, required] using passed
      simp [required, requireHeader, present]
    · simp [required]

/-- The handling of forwarded requests tells the others who the client is, which they do not ask. Only
a sum of hops that is out of range keeps a request from an answer. -/
theorem forwarded_gives (config : ForwardedSettings) (gives : Gives False inner status)
    (blind : ∀ request client, status (ForwardedSettings.withClient request client) = status request) :
    Gives (Integer.u64Max ≤ config.hopSkips) (config.layer inner) fun request =>
      (forwardedRefusal? config request).getD (status request) := by
  have passes : ∀ request, ∃ response, inner request = .ok response ∧ response.status = status request :=
    fun request => (gives request).resolve_right fun wrong => wrong.1
  intro request
  unfold ForwardedSettings.layer forwardedRefusal?
  dsimp only
  cases request.peer with
  | none =>
    left
    cases config.rejectNotAuthorized with
    | true => exact ⟨Rejection.notAuthorized.response, rfl, rfl⟩
    | false => exact passes request
  | some remote =>
    dsimp only
    cases answer : config.trustedClient request.headers remote with
    | ok found =>
      left
      cases found with
      | none => exact passes request
      | some client =>
        obtain ⟨response, answered, atStatus⟩ := passes (ForwardedSettings.withClient request client)
        exact ⟨response, answered, atStatus.trans (blind request client)⟩
    | error stop =>
      cases stop with
      | error rejection => exact Or.inl ⟨rejection.response, rfl, rfl⟩
      | crash crash =>
        obtain ⟨tooMany, rfl⟩ := ForwardedSettings.crash_of_trustedClient answer
        exact Or.inr ⟨tooMany, rfl⟩

theorem applyForwarded_gives (l : Listener) (gives : Gives False inner status)
    (blind : ∀ request client, status (ForwardedSettings.withClient request client) = status request) :
    Gives (Integer.u64Max ≤ l.forwarded.hopSkips)
      (applyIf ((ForwardedSettings.ofListener? l).map ForwardedSettings.layer) inner) fun request =>
        ((ForwardedSettings.ofListener? l).bind (forwardedRefusal? · request)).getD (status request) := by
  unfold ForwardedSettings.ofListener?
  by_cases trusting : l.forwarded.authorized.isEmpty = true
  · intro request
    simp only [trusting, if_true, Option.map_none, applyIf, Option.bind_none, Option.getD_none]
    exact (gives request).imp_right fun wrong => wrong.1.elim
  · simp only [trusting, Bool.false_eq_true, if_false, Option.map_some, applyIf, Option.bind_some]
    exact forwarded_gives l.forwarded gives blind

theorem table_gives (table : CustomHeaders) (gives : Gives overflow inner status) :
    Gives overflow (if table.isEmpty then inner else table.layer inner) status := by
  split_ifs
  · exact gives
  · exact gives_of_touch gives fun _ _ => rfl

theorem finish_gives (state : State) (gives : Gives overflow inner status) :
    Gives overflow (finish state inner) status := by
  refine gives_of_touch gives fun request response => ?_
  dsimp only
  split_ifs <;> rfl

end Layers

/-- Behind the handling of forwarded requests nothing asks for the peer or the client. -/
theorem innerStatus_withClient (l : Listener) (request : Request) (client : ClientAddress) :
    innerStatus l (ForwardedSettings.withClient request client) = innerStatus l request := by
  simp only [innerStatus, ForwardedSettings.withClient]

theorem layers_gives (l : Listener) (table : CustomHeaders) (state : State) :
    Gives (Integer.u64Max ≤ l.forwarded.hopSkips) (layers l table (routes state)) (dueStatus l) := by
  have limited := limitBody_gives l (routes_gives state)
  have guarded : Gives False _ (innerStatus l) := requireHeader_gives l limited
  have reported := applyForwarded_gives l guarded (innerStatus_withClient l)
  exact table_gives table reported

/-- The router of a listener as a whole. -/
theorem ofListener_gives {l : Listener} {state : State} {handler : Handler}
    (built : ofListener state l = .ok handler) :
    Gives (Integer.u64Max ≤ l.forwarded.hopSkips) handler (dueStatus l) := by
  obtain ⟨table, -, rfl⟩ := Outcome.map_ok built
  exact finish_gives state (layers_gives l table state)

end Router

namespace Server

theorem handler?_of_build {fs : FileSystem} {now : Int} {config : SharedConfig} {server : Server}
    {index : Nat} {l : Listener} (built : build fs now config = .ok server)
    (atIndex : config.listeners[index]? = some l) :
    ∃ handler, server.handler? index = some handler ∧
      Router.ofListener (Router.State.ofConfig config now) l = .ok handler := by
  obtain ⟨-, listeners⟩ := build_ok built
  have indexed : config.listeners.zipIdx[index]? = some (l, index) := by
    simp [List.getElem?_zipIdx, atIndex]
  obtain ⟨served, found, made⟩ := Outcome.exists_getElem?_right listeners indexed
  obtain ⟨-, -, routed⟩ := buildListener_ok made
  exact ⟨served.2, by simp [handler?, found], routed⟩

/-- Whatever a server is asked, the gates answer in one order: forwarded requests, the required header,
the size of the body, and last the pages. A request goes without an answer only where a configuration
that no document can ask for makes the sum of hops too large. -/
theorem status_eq_due {fs : FileSystem} {now : Int} {config : SharedConfig} {server : Server}
    {index : Nat} {l : Listener} (built : build fs now config = .ok server)
    (atIndex : config.listeners[index]? = some l) :
    ∃ handler, server.handler? index = some handler ∧ ∀ request,
      (∃ response, handler request = .ok response ∧ response.status = Router.dueStatus l request) ∨
        Integer.u64Max ≤ l.forwarded.hopSkips ∧ handler request = .error .additionOverflow := by
  obtain ⟨handler, found, made⟩ := handler?_of_build built atIndex
  exact ⟨handler, found, Router.ofListener_gives made⟩

/-- A listener with every gate there is. -/
def gatedListener : Listener :=
  { kind := .unix, requireRequestHeader := true, maxRequestSize := 10,
    forwarded := { authorized := [⟨.v4 0x0a000000, 8⟩] } }

/-- A long post to an unknown page, without the required header, meets the gates from the outside in. -/
theorem status_of_gatedListener :
    let long : Headers := [("content-length", Bytes.ofString "11")]
    let reported : Headers := ("x-forwarded-for", Bytes.ofString "1.2.3.4") :: long
    let peer := SocketAddress.ofIp (.v4 0x0a000001) 4444
    ∃ server handler, build ⟨[]⟩ 0 { listeners := [gatedListener] } = .ok server ∧
      server.handler? 0 = some handler ∧
      (∃ response, handler ⟨"POST", "/", long, none, none⟩ = .ok response ∧ response.status = 403) ∧
      (∃ response, handler ⟨"POST", "/", long, some peer, none⟩ = .ok response ∧ response.status = 403) ∧
      (∃ response, handler ⟨"POST", "/", reported, some peer, none⟩ = .ok response ∧
        response.status = 412) ∧
      ∃ response, handler ⟨"POST", "/", ("x-keel-request", []) :: reported, some peer, none⟩ = .ok response ∧
        response.status = 413 := by
  intro long reported peer
  have built : ∃ server, build ⟨[]⟩ 0 { listeners := [gatedListener] } = .ok server := ⟨_, rfl⟩
  obtain ⟨server, built⟩ := built
  have atIndex : [gatedListener][0]? = some gatedListener := rfl
  obtain ⟨handler, found, answers⟩ := status_eq_due built atIndex
  have answered : ∀ request, ∃ response, handler request = .ok response ∧
      response.status = Router.dueStatus gatedListener request :=
    fun request => (answers request).resolve_right fun wrong => absurd wrong.1 (by decide)
  have due := fun (request : Request) (status : Nat) (h : Router.dueStatus gatedListener request = status) =>
    h ▸ answered request
  exact ⟨server, handler, built, found, due _ 403 (by decide +kernel), due _ 403 (by decide +kernel),
    due _ 412 (by decide +kernel), due _ 413 (by decide +kernel)⟩

end Server

end ServiceKit
