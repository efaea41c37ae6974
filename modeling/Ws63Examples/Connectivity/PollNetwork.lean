import Ws63Examples.Connectivity.Events

/-! One poll of the stack and of its DHCP client. -/

namespace Ws63Examples.Connectivity

def Lease.cidr (lease : Lease) : Ipv4Cidr := ⟨lease.address, lease.prefixLen⟩

/-- What the runner owns of the network: the interface and its own lease. -/
structure Net (stack : Smoltcp) where
  iface : stack.Interface
  lease : Option Lease

variable {stack : Smoltcp}

/-- `none` is an `expect` that fired. -/
def pollNetwork (traffic : stack.Traffic) (event : Option DhcpEvent) (net : Net stack) :
    Option (Net stack × List Effect) :=
  let iface := stack.poll traffic net.iface
  match event with
  | some (.configured config) => do
    let next : Lease := {
      address := config.address.address
      prefixLen := config.address.prefixLen
      server := config.server
      router := config.router }
    let iface ← stack.install iface config
    let line :=
      if net.lease.isNone then .dhcpOk next.address next.prefixLen next.router else .dhcpRenewed
    return (⟨iface, some next⟩, [.write line])
  | some .deconfigured =>
    let hadLease := net.lease.isSome
    some (⟨stack.withdraw iface, none⟩, .write .dhcpDeconfigured ::
      if hadLease then [.resetDhcp, .write (.dhcpRestart .leaseLost)] else [])
  | none => some (⟨iface, net.lease⟩, [])

/-- The lease a configuration stands for. -/
def leaseOf (config : DhcpConfig) : Lease :=
  ⟨config.address.address, config.address.prefixLen, config.server, config.router⟩

/-- The station before its first lease, over the smallest stack. -/
def plainNet : Net plainStack := ⟨⟨[], none⟩, none⟩

/-- What an event does to a lease. -/
def leaseAfter (lease : Option Lease) : Option DhcpEvent → Option Lease
  | some (.configured config) => some (leaseOf config)
  | some .deconfigured => none
  | none => lease

/-- The interface carries what the lease says, and nothing without a lease. -/
def Net.Agrees (net : Net stack) : Prop :=
  match net.lease with
  | some lease => stack.Carries net.iface lease.cidr lease.router
  | none => stack.Bare net.iface

theorem Net.Agrees.carries {net : Net stack} (agrees : net.Agrees) {lease : Lease}
    (held : net.lease = some lease) : stack.Carries net.iface lease.cidr lease.router := by
  unfold Agrees at agrees
  rwa [held] at agrees

theorem Net.Agrees.bare {net : Net stack} (agrees : net.Agrees) (lost : net.lease = none) :
    stack.Bare net.iface := by
  unfold Agrees at agrees
  rwa [lost] at agrees

/-- Agreement, and a free slot for the default route. -/
structure Net.Sound (net : Net stack) : Prop where
  agrees : net.Agrees
  room : stack.Room net.iface

theorem pollNetwork_configured {traffic : stack.Traffic} {config : DhcpConfig} {net : Net stack}
    {j : stack.Interface} (h : stack.install (stack.poll traffic net.iface) config = some j) :
    pollNetwork traffic (some (.configured config)) net = some (⟨j, some (leaseOf config)⟩,
      [.write (if net.lease.isNone then
        .dhcpOk config.address.address config.address.prefixLen config.router
        else .dhcpRenewed)]) := by
  simp only [pollNetwork, h, Option.bind_eq_bind, Option.bind_some]
  rfl

/-- What a poll that does not panic can do. -/
inductive PollStep (traffic : stack.Traffic) (net : Net stack) :
    Option DhcpEvent → Net stack → List Effect → Prop
  | quiet : PollStep traffic net none ⟨stack.poll traffic net.iface, net.lease⟩ []
  | configured (config : DhcpConfig) (iface : stack.Interface)
      (installed : stack.install (stack.poll traffic net.iface) config = some iface) :
      PollStep traffic net (some (.configured config)) ⟨iface, some (leaseOf config)⟩
        [.write (if net.lease.isNone then
          .dhcpOk config.address.address config.address.prefixLen config.router
          else .dhcpRenewed)]
  | deconfigured :
      PollStep traffic net (some .deconfigured)
        ⟨stack.withdraw (stack.poll traffic net.iface), none⟩ (.write .dhcpDeconfigured ::
          if net.lease.isSome then [.resetDhcp, .write (.dhcpRestart .leaseLost)] else [])

theorem pollNetwork_cases {traffic : stack.Traffic} {event : Option DhcpEvent}
    {net net' : Net stack} {out : List Effect}
    (h : pollNetwork traffic event net = some (net', out)) :
    PollStep traffic net event net' out := by
  cases event with
  | none =>
    cases h
    exact .quiet
  | some event =>
    cases event with
    | configured config =>
      cases installed : stack.install (stack.poll traffic net.iface) config with
      | none => simp [pollNetwork, installed] at h
      | some iface =>
        rw [pollNetwork_configured installed] at h
        cases h
        exact .configured config iface installed
    | deconfigured =>
      cases h
      exact .deconfigured

/-- One poll: it does not panic, the lease follows the event and the
interface follows the lease. -/
theorem pollNetwork_spec (law : stack.Lawful) (traffic : stack.Traffic)
    (event : Option DhcpEvent) {net : Net stack} (sound : net.Sound) :
    ∃ net' out, pollNetwork traffic event net = some (net', out) ∧ net'.Sound ∧
      net'.lease = leaseAfter net.lease event := by
  have room : stack.Room (stack.poll traffic net.iface) :=
    sound.room.keep (law.poll traffic net.iface).2.2
  cases event with
  | none =>
    refine ⟨_, _, rfl, ⟨?_, room⟩, rfl⟩
    unfold Net.Agrees
    cases held : net.lease with
    | none => exact law.poll_bare traffic (sound.agrees.bare held)
    | some lease => exact law.poll_carries traffic (sound.agrees.carries held)
  | some event =>
    cases event with
    | configured config =>
      obtain ⟨j, hj, carries, same⟩ := law.install_spec room config
      exact ⟨_, _, pollNetwork_configured hj, ⟨carries, room.keep same⟩, rfl⟩
    | deconfigured =>
      obtain ⟨bare, same⟩ := law.withdraw_spec (stack.poll traffic net.iface)
      exact ⟨_, _, rfl, ⟨bare, room.keep same⟩, rfl⟩

/-- A poll resets the DHCP client exactly when it loses a held lease. -/
theorem pollNetwork_reset {traffic : stack.Traffic} {event : Option DhcpEvent}
    {net net' : Net stack} {out : List Effect}
    (h : pollNetwork traffic event net = some (net', out)) :
    .resetDhcp ∈ out ↔ event = some .deconfigured ∧ net.lease.isSome := by
  cases pollNetwork_cases h with
  | quiet | configured => simp
  | deconfigured => cases net.lease <;> simp

/-- A sequence of polls; the effects are left out. -/
def pollAll (net : Net stack) : List (stack.Traffic × Option DhcpEvent) → Option (Net stack)
  | [] => some net
  | (traffic, event) :: calls => do
    let (net, _) ← pollNetwork traffic event net
    pollAll net calls

theorem pollAll_spec (law : stack.Lawful) (calls : List (stack.Traffic × Option DhcpEvent)) :
    ∀ net : Net stack, net.Sound → ∃ net', pollAll net calls = some net' ∧ net'.Sound ∧
      net'.lease = (calls.map Prod.snd).foldl leaseAfter net.lease := by
  induction calls with
  | nil => exact fun _ sound => ⟨_, rfl, sound, rfl⟩
  | cons call calls ih =>
    intro net sound
    obtain ⟨traffic, event⟩ := call
    obtain ⟨mid, out, hmid, sound_mid, lease_mid⟩ := pollNetwork_spec law traffic event sound
    obtain ⟨net', hnet', sound', lease'⟩ := ih mid sound_mid
    refine ⟨net', ?_, sound', ?_⟩
    · simp only [pollAll, hmid, Option.bind_eq_bind, Option.bind_some]
      exact hnet'
    · rw [lease', lease_mid]
      rfl

def serverAfter (server : Option Ipv4Address) : Option DhcpEvent → Option Ipv4Address
  | some (.configured config) => some config.server
  | _ => server

/-- The server of the last configuration among the events. -/
def lastServer (events : List (Option DhcpEvent)) : Option Ipv4Address :=
  events.foldl serverAfter none

/-- A held lease names the server of the last configuration. -/
theorem foldl_lease_server (events : List (Option DhcpEvent)) :
    ∀ (lease : Option Lease) (server : Option Ipv4Address),
      (∀ l, lease = some l → server = some l.server) →
      ∀ l, events.foldl leaseAfter lease = some l →
        events.foldl serverAfter server = some l.server := by
  induction events with
  | nil => exact fun _ _ h => h
  | cons event events ih =>
    intro lease server h
    apply ih
    cases event with
    | none => exact h
    | some event =>
      cases event with
      | configured config =>
        rintro l ⟨⟩
        rfl
      | deconfigured =>
        rintro l ⟨⟩

end Ws63Examples.Connectivity
