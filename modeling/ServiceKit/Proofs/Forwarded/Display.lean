import ServiceKit.Proofs.Forwarded.Brackets
import ServiceKit.Proofs.Net.Delimiting

namespace ServiceKit.ClientAddress
open SocketAddress (framed)
variable {c : ClientAddress} {opening closing : Nat} {text : List Char} {ip : Ip}

/-- The text of a client that has an address to connect to is read as that address. -/
def Agrees (c : ClientAddress) : Prop :=
  ∀ a, c.socketAddress? = some a → SocketAddress.parse? c.render = some a

/-- An address as it may stand before a port: one of four octets without brackets, one of eight groups with a pair
of them or, since the text then supplies the pair, without. -/
def Regular (host : String) (ip : Ip) : Prop :=
  Bracketed 0 0 host ip ∨ ip.isV4 = false ∧ Bracketed 1 1 host ip

/-- The text of a client is its host and its port, but for the brackets that a host with colons and without an opening
bracket is given. -/
theorem toList_render (shape : c.host.toList = List.replicate opening '[' ++ (text ++ List.replicate closing ']'))
    (apart : '[' ∉ text) :
    c.render.toList =
      if ':' ∈ text ∧ opening = 0 then framed 1 (closing + 1) text c.port
      else framed opening closing text c.port := by
  have colon : ':' ∈ c.host.toList ↔ ':' ∈ text := by simp [shape]
  have opened : c.host.toList.head? = some '[' ↔ opening ≠ 0 := by
    cases opening with
    | zero =>
      refine iff_of_false (fun same => ?_) (by simp)
      have member := List.mem_of_head? same
      rw [shape] at member
      simp [apart] at member
    | succ opening => simp [shape, List.replicate_succ]
  unfold render
  simp only [Bool.and_eq_true, List.contains_iff_mem, bne_iff_ne, ne_eq, colon, opened, not_not]
  split_ifs with given
  · simp [shape, framed, given.2, List.replicate_succ']
  · simp [shape, framed]

/-- What is read of the text of a client whose host is an address between brackets. -/
theorem parse?_render (shown : Bracketed opening closing c.host ip) (range : c.port < 65536) :
    SocketAddress.parse? c.render =
      if opening = 0 ∧ closing = 0 ∨ ip.isV4 = false ∧ opening = 1 ∧ closing = 1 then some (.ofIp ip c.port)
      else none := by
  obtain ⟨text, read, shape⟩ := shown
  have apart : '[' ∉ text.toList := fun member => absurd (Ip.glyphs_of_parse? read _ member) (by decide)
  have rendered := toList_render shape apart
  -- Only eight groups have colons, so only they are given brackets.
  cases ip with
  | v4 a =>
    have four := Ip.readV4_of_parse? read
    rw [if_neg (fun both => Ip.colon_notMem_of_readV4 four both.1)] at rendered
    rw [SocketAddress.parse?_framed_v4 four range rendered]
    simp [Ip.isV4]
  | v6 a =>
    have six := Ip.readV6_of_parse? read
    have colon := Ip.colon_mem_of_readV6 six
    cases opening with
    | zero =>
      rw [if_pos ⟨colon, rfl⟩] at rendered
      rw [SocketAddress.parse?_framed_v6 six range rendered]
      simp
    | succ opening =>
      rw [if_neg (fun both => absurd both.2 (Nat.succ_ne_zero opening))] at rendered
      rw [SocketAddress.parse?_framed_v6 six range rendered]
      simp [Ip.isV4]

/-- The text of a client is read as the address to connect to exactly if its host is an address as it may stand before
a port. Any other host that counts as an address, with brackets that are not a pair or that are about four octets, makes
a text that is not read at all; it is never read as another address. -/
theorem agrees_iff_regular (c : ClientAddress) (range : c.port < 65536) :
    (c.Agrees ↔ ∀ opening closing ip, Bracketed opening closing c.host ip → Regular c.host ip) ∧
    ∀ a b, c.socketAddress? = some a → SocketAddress.parse? c.render = some b → b = a := by
  refine ⟨⟨fun agrees opening closing ip shown => ?_, fun regular a found => ?_⟩, fun a b found read => ?_⟩
  · have read := agrees _ (socketAddress?_eq_some_iff.mpr ⟨opening, closing, ip, shown, rfl⟩)
    rw [parse?_render shown range] at read
    split_ifs at read with fits
    rcases fits with ⟨rfl, rfl⟩ | ⟨long, rfl, rfl⟩
    · exact Or.inl shown
    · exact Or.inr ⟨long, shown⟩
  · obtain ⟨opening, closing, ip, shown, rfl⟩ := socketAddress?_eq_some_iff.mp found
    rcases regular opening closing ip shown with bare | ⟨long, enclosed⟩
    · simpa using parse?_render bare range
    · simpa [long] using parse?_render enclosed range
  · obtain ⟨opening, closing, ip, shown, rfl⟩ := socketAddress?_eq_some_iff.mp found
    rw [parse?_render shown range] at read
    split_ifs at read
    exact (Option.some.inj read).symm

/-- The brackets that a host comes with serve in its text as well. -/
theorem agrees_loopback :
    let client : ClientAddress := ⟨"[::1]", 8200⟩
    client.port < 65536 ∧ client.socketAddress? = some (.ofIp (.v6 1) 8200) ∧ client.Agrees := by
  intro client
  have range : client.port < 65536 := by decide
  have enclosed : Bracketed 1 1 client.host (.v6 1) := ⟨"::1", by decide +kernel, by decide⟩
  refine ⟨range, socketAddress?_eq_some_iff.mpr ⟨1, 1, _, enclosed, rfl⟩,
    (agrees_iff_regular client range).1.mpr fun opening closing ip shown => ?_⟩
  obtain rfl := enclosed.unique shown
  exact Or.inr ⟨rfl, enclosed⟩

/-- One bracket behind four octets is passed over for the address, but it stays in the text. -/
theorem not_agrees_lone_bracket :
    let client : ClientAddress := ⟨"1.2.3.4]", 4444⟩
    client.socketAddress? = some (.ofIp (.v4 0x01020304) 4444) ∧ client.render = "1.2.3.4]:4444" ∧
      ¬ client.Agrees := by
  intro client
  have found : client.socketAddress? = some (.ofIp (.v4 0x01020304) 4444) := by decide +kernel
  have unread : SocketAddress.parse? client.render = none := by decide +kernel
  refine ⟨found, by decide +kernel, fun agrees => ?_⟩
  cases unread.symm.trans (agrees _ found)

end ServiceKit.ClientAddress
