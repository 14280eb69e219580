import ServiceKit.Proofs.Forwarded.Brackets
import ServiceKit.Proofs.Forwarded.Reference
import ServiceKit.Proofs.Forwarded.Spoofing

namespace ServiceKit

namespace Layer
variable {layer : Layer} {request seen other : Request} {response : Response}

/-- Whatever stands behind the layer is asked, and this is the request it sees. -/
def Passes (layer : Layer) (request seen : Request) : Prop :=
  ∀ inner : Handler, layer inner request = inner seen

/-- The layer answers by itself, whatever stands behind it. -/
def Answers (layer : Layer) (request : Request) (response : Response) : Prop :=
  ∀ inner : Handler, layer inner request = .ok response

/-- What stands behind a layer sees one request at most: something behind it could tell two apart. -/
theorem Passes.unique (passes : Passes layer request seen) (passes' : Passes layer request other) :
    seen = other := by
  classical
  have same := (passes fun r => .ok (.empty (if r = seen then 200 else 404))).symm.trans (passes' _)
  by_contra different
  simp [Response.empty, Ne.symm different] at same

/-- A layer that has one outcome, whatever stands behind it, does not pass the request on. -/
theorem not_passes_of_const {outcome : Except Crash Response}
    (same : ∀ inner : Handler, layer inner request = outcome) : ¬ Passes layer request seen := by
  intro passes
  have found := (same fun _ => .ok (.empty 200)).symm.trans (passes _)
  have missing := (same fun _ => .ok (.empty 404)).symm.trans (passes _)
  cases found.symm.trans missing

end Layer

namespace ForwardedSettings
open Layer (Passes Answers)
open ClientAddress (Bracketed Literal)
variable {config : ForwardedSettings} {request seen : Request} {remote : SocketAddress}

/-- The refusal that a request meets, if it meets one. -/
def Refuses (config : ForwardedSettings) (request : Request) (rejection : Rejection) : Prop :=
  match request.peer with
  | none => config.rejectNotAuthorized = true ∧ rejection = .notAuthorized
  | some remote => config.trustedClient request.headers remote = .error (.error rejection)

/-- The ways in which the layer can deal with a request. -/
inductive Handling (config : ForwardedSettings) (request : Request) : Prop
  | peerless (unknown : request.peer = none) (lenient : config.rejectNotAuthorized = false)
      (passes : Passes config.layer request request)
  | unchanged {remote : SocketAddress} (known : request.peer = some remote)
      (found : config.trustedClient request.headers remote = .ok none)
      (passes : Passes config.layer request request)
  | introduced {remote : SocketAddress} {client : ClientAddress} (known : request.peer = some remote)
      (found : config.trustedClient request.headers remote = .ok (some client))
      (passes : Passes config.layer request (withClient request client))
  | refused {rejection : Rejection} (refuses : Refuses config request rejection)
      (answers : Answers config.layer request rejection.response)
  | crashed {remote : SocketAddress} (known : request.peer = some remote)
      (overflow : Integer.u64Max ≤ config.hopSkips)
      (found : config.trustedClient request.headers remote = .error (.crash .additionOverflow))
      (crashes : ∀ inner, config.layer inner request = .error .additionOverflow)

theorem handling (config : ForwardedSettings) (request : Request) : Handling config request := by
  cases known : request.peer with
  | none =>
    cases strict : config.rejectNotAuthorized with
    | true =>
      refine @Handling.refused config request .notAuthorized ?_ fun inner => ?_
      · rw [Refuses, known]
        exact ⟨strict, rfl⟩
      · simp only [layer, known, strict, if_true]
    | false =>
      refine .peerless known strict fun inner => ?_
      simp only [layer, known, strict, Bool.false_eq_true, if_false]
  | some remote =>
    cases found : config.trustedClient request.headers remote with
    | ok answer =>
      cases answer with
      | none => exact .unchanged known found fun inner => by simp only [layer, known, found]
      | some client => exact .introduced known found fun inner => by simp only [layer, known, found]
    | error stop =>
      cases stop with
      | error rejection =>
        refine @Handling.refused config request rejection ?_ fun inner => by simp only [layer, known, found]
        rw [Refuses, known]
        exact found
      | crash crash =>
        obtain ⟨overflow, rfl⟩ := crash_of_trustedClient found
        exact .crashed known overflow found fun inner => by simp only [layer, known, found]

/-- Only a trusted proxy makes a client known. -/
theorem covers_of_trustedClient {headers : Headers} {client : ClientAddress}
    (found : config.trustedClient headers remote = .ok (some client)) :
    ∃ net ∈ config.authorized, net.Covers remote.ip := by
  rw [← isAuthorized_iff]
  by_contra untrusted
  rw [Bool.not_eq_true] at untrusted
  simp only [trustedClient, untrusted, Bool.not_false, if_true] at found
  split_ifs at found <;> cases Except.ok.inj found

/-- The peer that is due to a request whose client is known: the client's address if its host is one, and
otherwise the one that the request has. -/
def PeerDue (request : Request) (client : ClientAddress) (peer : Option SocketAddress) : Prop :=
  (∃ ip, Literal client.host ip ∧ peer = some (.ofIp ip client.port)) ∨
    (¬ ∃ ip, Literal client.host ip) ∧ peer = request.peer

theorem peer_of_bracketed (request : Request) {client : ClientAddress} {opening closing : Nat} {ip : Ip}
    (shown : Bracketed opening closing client.host ip) :
    (withClient request client).peer = some (.ofIp ip client.port) := by
  have found := ClientAddress.socketAddress?_eq_some_iff.mpr ⟨opening, closing, ip, shown, rfl⟩
  rw [withClient, found, Option.some_or]

/-- Brackets that are not one pair let a host count as an address although it is none. -/
theorem peerDue_iff (request : Request) (client : ClientAddress) :
    PeerDue request client (withClient request client).peer ↔
      ∀ opening closing ip, Bracketed opening closing client.host ip →
        Literal client.host ip ∨ request.peer = some (.ofIp ip client.port) := by
  constructor
  · rintro (⟨ip, literal, -⟩ | ⟨-, same⟩) opening closing ip' shown
    · obtain ⟨_, _, shown'⟩ := literal.bracketed
      exact Or.inl (shown'.unique shown ▸ literal)
    · exact Or.inr (same.symm.trans (peer_of_bracketed request shown))
  · intro paired
    cases found : client.socketAddress? with
    | none =>
      refine Or.inr ⟨?_, by rw [withClient, found, Option.none_or]⟩
      rintro ⟨ip, literal⟩
      obtain ⟨opening, closing, shown⟩ := literal.bracketed
      cases found.symm.trans
        (ClientAddress.socketAddress?_eq_some_iff.mpr ⟨opening, closing, ip, shown, rfl⟩)
    | some a =>
      obtain ⟨opening, closing, ip, shown, -⟩ := ClientAddress.socketAddress?_eq_some_iff.mp found
      have peer := peer_of_bracketed request shown
      by_cases literal : ∃ ip, Literal client.host ip
      · obtain ⟨ip', literal⟩ := literal
        obtain ⟨_, _, shown'⟩ := literal.bracketed
        exact Or.inl ⟨ip', literal, shown'.unique shown ▸ peer⟩
      · have same := (paired opening closing ip shown).resolve_left fun found => literal ⟨ip, found⟩
        exact Or.inr ⟨literal, peer.trans same.symm⟩

/-- What stands behind the layer sees. -/
theorem passes_cases (passes : Passes config.layer request seen) :
    (seen = request ∧ ∀ remote client, request.peer = some remote →
      config.trustedClient request.headers remote ≠ .ok (some client)) ∨
    ∃ remote client, request.peer = some remote ∧
      config.trustedClient request.headers remote = .ok (some client) ∧ seen = withClient request client := by
  cases handling config request with
  | peerless unknown lenient passes' =>
    refine Or.inl ⟨passes.unique passes', fun remote client known => ?_⟩
    cases unknown.symm.trans known
  | unchanged known found passes' =>
    refine Or.inl ⟨passes.unique passes', fun remote client known' trusted => ?_⟩
    obtain rfl := Option.some.inj (known.symm.trans known')
    cases found.symm.trans trusted
  | introduced known found passes' => exact Or.inr ⟨_, _, known, found, passes.unique passes'⟩
  | refused refuses answers => exact absurd passes (Layer.not_passes_of_const answers)
  | crashed known overflow found crashes => exact absurd passes (Layer.not_passes_of_const crashes)

theorem passes_iff (config : ForwardedSettings) (request : Request) :
    (∃ seen, Passes config.layer request seen) ↔
      request.peer = none ∧ config.rejectNotAuthorized = false ∨
        ∃ remote found, request.peer = some remote ∧
          config.trustedClient request.headers remote = .ok found := by
  cases handling config request with
  | peerless unknown lenient passes => exact iff_of_true ⟨_, passes⟩ (Or.inl ⟨unknown, lenient⟩)
  | unchanged known found passes => exact iff_of_true ⟨_, passes⟩ (Or.inr ⟨_, _, known, found⟩)
  | introduced known found passes => exact iff_of_true ⟨_, passes⟩ (Or.inr ⟨_, _, known, found⟩)
  | refused refuses answers =>
    refine iff_of_false (fun ⟨seen, passes⟩ => Layer.not_passes_of_const answers passes) ?_
    unfold Refuses at refuses
    rintro (⟨unknown, lenient⟩ | ⟨remote, found, known, trusted⟩)
    · rw [unknown] at refuses
      cases lenient.symm.trans refuses.1
    · rw [known] at refuses
      cases trusted.symm.trans refuses
  | crashed known overflow found crashes =>
    refine iff_of_false (fun ⟨seen, passes⟩ => Layer.not_passes_of_const crashes passes) ?_
    rintro (⟨unknown, -⟩ | ⟨remote, found', known', trusted⟩)
    · cases unknown.symm.trans known
    · obtain rfl := Option.some.inj (known.symm.trans known')
      cases found.symm.trans trusted

/-- A client is made known to what stands behind the layer by trusted proxies alone, and every other request
passes as it is or not at all. The peer is the one that is due unless brackets that are not one pair let a
host count as an address; a request stays without an answer only where the sum of hops is out of range. -/
theorem introduced_iff (config : ForwardedSettings) (request : Request) (unnamed : request.client = none) :
    ((∃ seen, Passes config.layer request seen) ↔
      request.peer = none ∧ config.rejectNotAuthorized = false ∨
        ∃ remote found, request.peer = some remote ∧
          config.trustedClient request.headers remote = .ok found) ∧
    (∀ seen, Passes config.layer request seen →
      (seen.client = none → seen = request) ∧
      ∀ client,
        (seen.client = some client ↔ ∃ remote, request.peer = some remote ∧
          (∃ net ∈ config.authorized, net.Covers remote.ip) ∧
          config.trustedClient request.headers remote = .ok (some client)) ∧
        (seen.client = some client →
          seen = { request with client := some client, peer := seen.peer } ∧
          (∀ opening closing ip, Bracketed opening closing client.host ip →
            seen.peer = some (.ofIp ip client.port)) ∧
          (PeerDue request client seen.peer ↔
            ∀ opening closing ip, Bracketed opening closing client.host ip →
              Literal client.host ip ∨ request.peer = some (.ofIp ip client.port)))) ∧
    ((∀ seen, ¬ Passes config.layer request seen) →
      (∃ rejection response, Refuses config request rejection ∧ Answers config.layer request response ∧
        response.status = rejection.status ∧ response.body = rejection.message) ∨
      Integer.u64Max ≤ config.hopSkips ∧
        ∀ inner, config.layer inner request = .error .additionOverflow) := by
  refine ⟨passes_iff config request, fun seen passes => ?_, fun stops => ?_⟩
  · rcases passes_cases passes with ⟨rfl, untrusted⟩ | ⟨remote, client, known, found, rfl⟩
    · refine ⟨fun _ => rfl, fun client => ⟨⟨fun named => ?_, ?_⟩, fun named => ?_⟩⟩
      · cases unnamed.symm.trans named
      · rintro ⟨remote, known, -, found⟩
        exact absurd found (untrusted remote client known)
      · cases unnamed.symm.trans named
    · refine ⟨fun missing => absurd missing (Option.some_ne_none client), fun other => ⟨⟨fun named => ?_, ?_⟩,
        fun named => ?_⟩⟩
      · obtain rfl : client = other := Option.some.inj named
        exact ⟨remote, known, covers_of_trustedClient found, found⟩
      · rintro ⟨remote', known', -, found'⟩
        obtain rfl := Option.some.inj (known.symm.trans known')
        exact Except.ok.inj (found.symm.trans found')
      · obtain rfl : client = other := Option.some.inj named
        refine ⟨?_, fun opening closing ip shown => ?_, peerDue_iff request client⟩
        · rw [withClient]
        · exact peer_of_bracketed request shown
  · cases handling config request with
    | peerless _ _ passes => exact absurd passes (stops _)
    | unchanged _ _ passes => exact absurd passes (stops _)
    | introduced _ _ passes => exact absurd passes (stops _)
    | @refused rejection refuses answers => exact Or.inl ⟨rejection, _, refuses, answers, rfl, rfl⟩
    | crashed _ overflow _ crashes => exact Or.inr ⟨overflow, crashes⟩

/-- A host in one pair of brackets becomes the peer; a name leaves the peer as it is. -/
theorem introduced_by_localPeer :
    let ask := fun (host : String) =>
      (⟨"GET", "/", [(header, Bytes.ofString host)], some localPeer, none⟩ : Request)
    (∃ seen, Passes (trustingLocalhost 0).layer (ask "[::1]") seen ∧
      seen.client = some ⟨"[::1]", 4444⟩ ∧ seen.peer = some (.ofIp (.v6 1) 4444)) ∧
    ∃ seen, Passes (trustingLocalhost 0).layer (ask "proxy") seen ∧
      seen.client = some ⟨"proxy", 4444⟩ ∧ PeerDue (ask "proxy") ⟨"proxy", 4444⟩ seen.peer := by
  intro ask
  have trusted : ∃ net ∈ (trustingLocalhost 0).authorized, net.Covers localPeer.ip := by decide +kernel
  obtain ⟨runs, sees, -⟩ := introduced_iff (trustingLocalhost 0) (ask "[::1]") rfl
  obtain ⟨runs', sees', -⟩ := introduced_iff (trustingLocalhost 0) (ask "proxy") rfl
  refine ⟨?_, ?_⟩
  · have found : (trustingLocalhost 0).trustedClient (ask "[::1]").headers localPeer =
        .ok (some ⟨"[::1]", 4444⟩) := Outcome.ok_of_toOption (by decide +kernel)
    obtain ⟨seen, passes⟩ := runs.mpr (Or.inr ⟨localPeer, _, rfl, found⟩)
    obtain ⟨-, clients⟩ := sees seen passes
    have named := (clients _).1.mpr ⟨localPeer, rfl, trusted, found⟩
    exact ⟨seen, passes, named, ((clients _).2 named).2.1 1 1 _ ⟨"::1", by decide +kernel, by decide⟩⟩
  · have found : (trustingLocalhost 0).trustedClient (ask "proxy").headers localPeer =
        .ok (some ⟨"proxy", 4444⟩) := Outcome.ok_of_toOption (by decide +kernel)
    obtain ⟨seen, passes⟩ := runs'.mpr (Or.inr ⟨localPeer, _, rfl, found⟩)
    obtain ⟨-, clients⟩ := sees' seen passes
    have named := (clients _).1.mpr ⟨localPeer, rfl, trusted, found⟩
    refine ⟨seen, passes, named, ((clients _).2 named).2.2.mpr fun opening closing ip shown => ?_⟩
    have plain : (⟨"proxy", 4444⟩ : ClientAddress).socketAddress? = none := by decide +kernel
    cases plain.symm.trans
      (ClientAddress.socketAddress?_eq_some_iff.mpr ⟨opening, closing, ip, shown, rfl⟩)

/-- One bracket behind it, and a host that is no address takes the place of the peer. -/
theorem peer_of_lone_bracket :
    let request : Request := ⟨"GET", "/", [(header, Bytes.ofString "1.2.3.4]")], some localPeer, none⟩
    let client : ClientAddress := ⟨"1.2.3.4]", 4444⟩
    (¬ ∃ ip, Literal client.host ip) ∧
      ∃ seen, Passes (trustingLocalhost 0).layer request seen ∧ seen.client = some client ∧
        seen.peer = some (.ofIp (.v4 0x01020304) 4444) ∧ ¬ PeerDue request client seen.peer := by
  intro request client
  have other : ¬ ∃ ip, Literal client.host ip := by
    rintro ⟨ip, ⟨text, read, same⟩ | ⟨text, -, same⟩⟩
    · rw [List.replicate_zero, List.replicate_zero, List.nil_append, List.append_nil,
        String.toList_inj] at same
      have refused : Ip.parse? client.host = none := by decide +kernel
      cases refused.symm.trans (same ▸ read)
    · have head : "1.2.3.4]".toList.head? = some '[' := congrArg List.head? same
      exact absurd head (by decide)
  have shown : Bracketed 0 1 client.host (.v4 0x01020304) := ⟨"1.2.3.4", by decide +kernel, by decide⟩
  have peer := peer_of_bracketed request shown
  refine ⟨other, withClient request client, ?_, rfl, peer, ?_⟩
  · have found : (trustingLocalhost 0).trustedClient request.headers localPeer = .ok (some client) :=
      Outcome.ok_of_toOption (by decide +kernel)
    intro inner
    simp only [layer, request, found]
  · rintro (⟨ip, literal, -⟩ | ⟨-, same⟩)
    · exact other ⟨ip, literal⟩
    · cases (same.symm.trans peer : request.peer = _)

end ForwardedSettings

end ServiceKit
