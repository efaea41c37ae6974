import Ws63Examples.Softap.Network

/-! What the echo service returns, and what its counters count. -/

namespace Ws63Examples.Softap

open Execution Word

/-- What one call can do. -/
inductive Echoed (s : AccessPoint) (accepts : Bool) : AccessPoint × List Effect → Prop
  | idle (empty : s.echo.rx = []) : Echoed s accepts (s, [])
  | truncated (datagram : Datagram) (rx : List Datagram) (next : s.echo.rx = datagram :: rx)
      (long : 256 < datagram.payload.length) :
      Echoed s accepts ({ s with echo := { s.echo with rx := rx } }, [])
  | refused (datagram : Datagram) (rx : List Datagram) (next : s.echo.rx = datagram :: rx)
      (full : accepts = false) :
      Echoed s accepts ({ s with
        echo := { s.echo with rx := rx }
        diagnostics := { s.diagnostics with
          echoRx := saturatingAdd u32Max s.diagnostics.echoRx 1 } },
        [.recv .echo datagram, .sendSlice .echo datagram false])
  | returned (datagram : Datagram) (rx : List Datagram) (next : s.echo.rx = datagram :: rx)
      (room : accepts = true) :
      Echoed s accepts ({ s with
        echo := ⟨rx, s.echo.tx ++ [datagram]⟩
        diagnostics := { s.diagnostics with
          echoRx := saturatingAdd u32Max s.diagnostics.echoRx 1
          echoTx := saturatingAdd u32Max s.diagnostics.echoTx 1 } },
        [.recv .echo datagram, .sendSlice .echo datagram true])

theorem echo_cases (s : AccessPoint) (accepts : Bool) :
    Echoed s accepts (serviceEcho s accepts).1 := by
  unfold serviceEcho UdpSocket.recvSlice UdpSocket.recv
  cases next : s.echo.rx with
  | nil => exact .idle next
  | cons datagram rx =>
    by_cases long : datagram.payload.length ≤ 256
    · simp only [if_pos long]
      cases accepts with
      | false => exact .refused datagram rx next rfl
      | true => exact .returned datagram rx next rfl
    · simp only [if_neg long]
      exact .truncated datagram rx next (Nat.lt_of_not_le long)

/-- The echo counters after a history of calls. -/
structure EchoTallied (out : List Effect) (d : NetworkDiagnostics) : Prop where
  rx : d.echoRx = min (received .echo out).length u32Max
  tx : d.echoTx = min (sends .echo true out).length u32Max
  attempts : (sends .echo true out).length ≤ (received .echo out).length

theorem begin_echo_tallied : EchoTallied [] .init := ⟨rfl, rfl, le_rfl⟩

theorem EchoTallied.pass {out more : List Effect} {d d' : NetworkDiagnostics}
    (tallied : EchoTallied out d) (unheard : received .echo more = [])
    (unsent : sends .echo true more = []) (same : d'.echoRx = d.echoRx ∧ d'.echoTx = d.echoTx) :
    EchoTallied (out ++ more) d' := by
  constructor <;>
    simp only [received_append, sends_append, unheard, unsent, List.append_nil, same.1, same.2]
  · exact tallied.rx
  · exact tallied.tx
  · exact tallied.attempts

theorem echo_tallied {out more : List Effect} {s t : AccessPoint} {accepts : Bool}
    (h : Echoed s accepts (t, more)) (tallied : EchoTallied out s.diagnostics) :
    EchoTallied (out ++ more) t.diagnostics := by
  cases h with
  | idle | truncated => exact tallied.pass rfl rfl ⟨rfl, rfl⟩
  | refused datagram =>
    constructor
    · rw [received_append, List.length_append, tallied.rx]
      exact saturatingAdd_clipped _ _ _
    · rw [sends_append, List.length_append]
      exact tallied.tx
    · rw [sends_append, received_append, List.length_append, List.length_append]
      exact Nat.le_succ_of_le tallied.attempts
  | returned datagram =>
    constructor
    · rw [received_append, List.length_append, tallied.rx]
      exact saturatingAdd_clipped _ _ _
    · rw [sends_append, List.length_append, tallied.tx]
      exact saturatingAdd_clipped _ _ _
    · rw [sends_append, received_append, List.length_append, List.length_append]
      exact Nat.succ_le_succ tallied.attempts

theorem replyType_echo {messageType answer : DhcpMessageType} {d d' : NetworkDiagnostics}
    (h : replyType messageType d = some (answer, d')) :
    d'.echoRx = d.echoRx ∧ d'.echoTx = d.echoTx := by
  cases messageType with
  | discover | request =>
    cases h
    exact ⟨rfl, rfl⟩
  | _ => cases h

theorem countReply_echo (d : NetworkDiagnostics) (address : Ipv4Address) (id : UInt32) :
    (d.countReply address id).echoRx = d.echoRx ∧ (d.countReply address id).echoTx = d.echoTx := by
  unfold NetworkDiagnostics.countReply
  split <;> exact ⟨rfl, rfl⟩

/-- The DHCP service leaves the echo service alone. -/
theorem service_dhcp_quiet (wire : DhcpWire) (s : AccessPoint) (accepts : Bool) :
    (serviceDhcp wire s accepts).1.echo = s.echo ∧
      received .echo (serviceDhcp wire s accepts).2 = [] ∧
      sends .echo true (serviceDhcp wire s accepts).2 = [] ∧
      (serviceDhcp wire s accepts).1.diagnostics.echoRx = s.diagnostics.echoRx ∧
      (serviceDhcp wire s accepts).1.diagnostics.echoTx = s.diagnostics.echoTx := by
  unfold serviceDhcp
  split
  · exact ⟨rfl, rfl, rfl, rfl, rfl⟩
  · dsimp only
    split
    · exact ⟨rfl, rfl, rfl, rfl, rfl⟩
    · split
      · exact ⟨rfl, rfl, rfl, rfl, rfl⟩
      · rename_i asked
        obtain ⟨rx, tx⟩ := replyType_echo asked
        split
        · exact ⟨rfl, rfl, rfl, rx, tx⟩
        · split
          · exact ⟨rfl, rfl, rfl, rx, tx⟩
          · exact ⟨rfl, rfl, rfl, (countReply_echo _ _ _).1.trans rx,
              (countReply_echo _ _ _).2.trans tx⟩

theorem step_echo_tallied {wire : DhcpWire} {out more : List Effect} {s t : AccessPoint}
    {input : AccessPoint.Input} (h : accessPoint wire s input = some (t, more))
    (tallied : EchoTallied out s.diagnostics) : EchoTallied (out ++ more) t.diagnostics := by
  cases input with
  | poll dhcp echo =>
    obtain ⟨rfl, rfl⟩ := answer_parts h
    exact tallied.pass rfl rfl ⟨rfl, rfl⟩
  | serviceDhcp accepts =>
    obtain ⟨-, unheard, unsent, same⟩ := service_dhcp_quiet wire s accepts
    rw [Option.some.inj h] at unheard unsent same
    exact tallied.pass unheard unsent same
  | serviceEcho accepts =>
    have echoed := echo_cases s accepts
    rw [Option.some.inj h] at echoed
    exact echo_tallied echoed tallied

end Ws63Examples.Softap
