import Attribution.Proofs.Endpoint.Grammar

/-!
# Written endpoints are read back

What is written for an endpoint denotes it, and reading finds what a text denotes. So every endpoint
is read back from its text, whatever its address, and no two endpoints have the same text. The
socket address alone tells endpoints of one protocol apart; for this it does not matter that a scope
could be written too, since endpoints have none.
-/

namespace Attribution

namespace SocketAddress

theorem parse?_text_eq (socket : SocketAddress) : parse? socket.text = some socket := by
  rw [parse?, text, String.toList_ofList]
  exact ofChars?_eq_some_iff.2 socket.denotes_chars

theorem text_eq_iff {one other : SocketAddress} : one.text = other.text ↔ one = other := by
  refine ⟨fun same => ?_, congrArg text⟩
  have back := one.parse?_text_eq
  rw [same, parse?_text_eq] at back
  exact (Option.some.inj back).symm

end SocketAddress

namespace Endpoint

variable {one other : Endpoint}

theorem denotes_chars (endpoint : Endpoint) : Denotes endpoint.chars endpoint := by
  obtain ⟨address, port, protocol⟩ := endpoint
  have written := SocketAddress.denotes_chars (.of address port)
  have named := Denotes.named written.slash_not_mem written protocol.denotes_chars
  rwa [SocketAddress.address_of, SocketAddress.port_of] at named

theorem parse_text_eq (endpoint : Endpoint) : parse endpoint.text = .ok endpoint := by
  rw [parse_eq_ok_iff, text, String.toList_ofList]
  exact endpoint.denotes_chars

theorem text_eq_iff : one.text = other.text ↔ one = other := by
  refine ⟨fun same => ?_, congrArg text⟩
  have back := one.parse_text_eq
  rw [same, parse_text_eq] at back
  exact (Except.ok.inj back).symm

theorem socketAddress_eq_iff :
    one.socketAddress = other.socketAddress ↔
      one.address = other.address ∧ one.port = other.port := by
  constructor
  · intro same
    have address := congrArg SocketAddress.address same
    have port := congrArg SocketAddress.port same
    simp only [socketAddress, SocketAddress.address_of, SocketAddress.port_of] at address port
    exact ⟨address, port⟩
  · rintro ⟨address, port⟩
    rw [socketAddress, socketAddress, address, port]

/-- Every endpoint is read back from what is written for it. So endpoints with the same text are the
same, and so are endpoints of the same protocol with the same text for their socket addresses. -/
theorem parse_text (endpoint : Endpoint) :
    parse endpoint.text = .ok endpoint ∧
      ∀ other : Endpoint, (endpoint.text = other.text ↔ endpoint = other) ∧
        (endpoint.socketAddress.text = other.socketAddress.text ∧
          endpoint.protocol = other.protocol ↔ endpoint = other) := by
  refine ⟨endpoint.parse_text_eq, fun other => ⟨text_eq_iff, ?_⟩⟩
  rw [SocketAddress.text_eq_iff, socketAddress_eq_iff]
  cases endpoint
  cases other
  simp only [mk.injEq, and_assoc]

end Endpoint

end Attribution
