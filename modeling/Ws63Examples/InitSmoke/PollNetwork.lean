import Ws63Examples.Connectivity.PollNetwork

/-! The smoke test's copy of `poll_network`, and what both copies keep. -/

namespace Ws63Examples.InitSmoke

structure Lease where
  address : Ipv4Address
  prefixLen : UInt8
  router : Option Ipv4Address
  deriving DecidableEq, Repr

inductive DhcpLine where
  | dhcpOk (address : Ipv4Address) (prefixLen : UInt8) (router : Option Ipv4Address)
  | dhcpRenewed
  | dhcpDeconfigured
  deriving DecidableEq, Repr

structure Net (stack : Smoltcp) where
  iface : stack.Interface
  lease : Option Lease

variable {stack : Smoltcp}

/-- `none` is an `expect` that fired. -/
def pollNetwork (traffic : stack.Traffic) (event : Option DhcpEvent) (net : Net stack) :
    Option (Net stack × List DhcpLine) :=
  let iface := stack.poll traffic net.iface
  match event with
  | some (.configured config) => do
    let next : Lease := {
      address := config.address.address
      prefixLen := config.address.prefixLen
      router := config.router }
    let iface ← stack.install iface config
    let line :=
      if net.lease.isNone then .dhcpOk next.address next.prefixLen next.router else .dhcpRenewed
    return (⟨iface, some next⟩, [line])
  | some .deconfigured => some (⟨stack.withdraw iface, none⟩, [.dhcpDeconfigured])
  | none => some (⟨iface, net.lease⟩, [])

def pollAll (net : Net stack) : List (stack.Traffic × Option DhcpEvent) → Option (Net stack)
  | [] => some net
  | (traffic, event) :: calls => do
    let (net, _) ← pollNetwork traffic event net
    pollAll net calls

def dropServer (lease : Connectivity.Lease) : Lease :=
  ⟨lease.address, lease.prefixLen, lease.router⟩

/-- The station's state as this copy would hold it. -/
def project (net : Connectivity.Net stack) : Net stack :=
  ⟨net.iface, net.lease.map dropServer⟩

/-- The copies make the same step, the server apart. -/
theorem pollNetwork_project (traffic : stack.Traffic) (event : Option DhcpEvent)
    (net : Connectivity.Net stack) :
    (pollNetwork traffic event (project net)).map Prod.fst =
      (Connectivity.pollNetwork traffic event net).map fun r => project r.1 := by
  cases event with
  | none => rfl
  | some event =>
    cases event with
    | configured config =>
      simp only [pollNetwork, Connectivity.pollNetwork, project]
      cases stack.install (stack.poll traffic net.iface) config <;> rfl
    | deconfigured => rfl

theorem pollAll_project (calls : List (stack.Traffic × Option DhcpEvent)) :
    ∀ net : Connectivity.Net stack,
      pollAll (project net) calls = (Connectivity.pollAll net calls).map project := by
  induction calls with
  | nil => exact fun _ => rfl
  | cons call calls ih =>
    intro net
    obtain ⟨traffic, event⟩ := call
    have one := pollNetwork_project traffic event net
    simp only [pollAll, Connectivity.pollAll, Option.bind_eq_bind]
    cases ours : pollNetwork traffic event (project net) with
    | none =>
      cases theirs : Connectivity.pollNetwork traffic event net with
      | none => rfl
      | some r => simp [ours, theirs] at one
    | some r =>
      cases theirs : Connectivity.pollNetwork traffic event net with
      | none => simp [ours, theirs] at one
      | some r' =>
        rw [ours, theirs] at one
        have same : r.1 = project r'.1 := Option.some.inj one
        simp only [Option.bind_some, same]
        exact ih r'.1

open Connectivity

/-- Two sound states with one lease show one address list and one route. -/
theorem same_interface {net other : Connectivity.Net stack} (agrees : net.Agrees)
    (agrees' : other.Agrees) (same : other.lease = net.lease) :
    stack.ipAddrs other.iface = stack.ipAddrs net.iface ∧
      stack.defaultRoute other.iface = stack.defaultRoute net.iface := by
  cases held : net.lease with
  | none =>
    have one := agrees.bare held
    have two := agrees'.bare (same.trans held)
    exact ⟨two.1.trans one.1.symm, two.2.trans one.2.symm⟩
  | some lease =>
    have one := agrees.carries held
    have two := agrees'.carries (same.trans held)
    exact ⟨two.1.trans one.1.symm, two.2.trans one.2.symm⟩

/-- A lease and a server are what the interface and the last server determine. -/
theorem lease_iff {net : Connectivity.Net stack} (agrees : net.Agrees)
    {server : Option Ipv4Address} (named : ∀ l, net.lease = some l → server = some l.server)
    (lease : Connectivity.Lease) :
    net.lease = some lease ↔
      stack.Carries net.iface lease.cidr lease.router ∧ server = some lease.server := by
  constructor
  · intro held
    exact ⟨agrees.carries held, named lease held⟩
  · rintro ⟨carries, hserver⟩
    cases held : net.lease with
    | none => exact absurd (agrees.bare held) carries.not_bare
    | some l =>
      obtain ⟨hcidr, hrouter⟩ := (agrees.carries held).unique carries
      have hsame := Option.some.inj ((named l held).symm.trans hserver)
      cases l
      cases lease
      simp only [Lease.cidr, Ipv4Cidr.mk.injEq] at hcidr hrouter hsame
      obtain ⟨rfl, rfl⟩ := hcidr
      rw [hrouter, hsame]

/-- After every sequence of polls the interface carries exactly the lease, a
lease and the last server determine each other, and the other copy agrees. -/
theorem poll_network_tracks_lease (law : stack.Lawful) {i i' : stack.Interface}
    (bare : stack.Bare i) (room : stack.Room i) (bare' : stack.Bare i') (room' : stack.Room i')
    (calls calls' : List (stack.Traffic × Option DhcpEvent))
    (same : calls'.map Prod.snd = calls.map Prod.snd) :
    ∃ net, Connectivity.pollAll ⟨i, none⟩ calls = some net ∧
      (∀ lease, net.lease = some lease ↔ stack.Carries net.iface lease.cidr lease.router ∧
        lastServer (calls.map Prod.snd) = some lease.server) ∧
      (net.lease = none ↔ stack.Bare net.iface) ∧
      ∃ net', InitSmoke.pollAll ⟨i', none⟩ calls' = some net' ∧
        stack.ipAddrs net'.iface = stack.ipAddrs net.iface ∧
        stack.defaultRoute net'.iface = stack.defaultRoute net.iface ∧
        net'.lease = net.lease.map dropServer := by
  obtain ⟨net, hnet, sound, hlease⟩ := pollAll_spec law calls ⟨i, none⟩ ⟨bare, room⟩
  obtain ⟨other, hother, sound', hlease'⟩ :=
    pollAll_spec law calls' ⟨i', none⟩ ⟨bare', room'⟩
  have one_lease : other.lease = net.lease := by rw [hlease', hlease, same]
  obtain ⟨addrs, route⟩ := same_interface sound.agrees sound'.agrees one_lease
  refine ⟨net, hnet, lease_iff sound.agrees ?_, ⟨sound.agrees.bare, ?_⟩, project other, ?_,
    addrs, route, ?_⟩
  · intro l held
    exact foldl_lease_server _ none none nofun l (hlease.symm.trans held)
  · intro empty
    cases held : net.lease with
    | none => rfl
    | some l => exact absurd empty (sound.agrees.carries held).not_bare
  · have copy := pollAll_project calls' ⟨i', none⟩
    rw [hother] at copy
    exact copy
  · rw [← one_lease]
    rfl

/-- Leased from 192.168.4.1, lost, and leased again with another router. -/
def leasedTwice : List (plainStack.Traffic × Option DhcpEvent) :=
  [((), some (.configured ⟨⟨⟨192, 168, 4, 2⟩, 24⟩, ⟨192, 168, 4, 1⟩, none⟩)), ((), none),
    ((), some .deconfigured),
    ((), some (.configured ⟨⟨⟨10, 0, 0, 7⟩, 8⟩, ⟨10, 0, 0, 1⟩, some ⟨10, 0, 0, 1⟩⟩))]

theorem poll_network_tracks_lease_twice :
    ∃ net, Connectivity.pollAll plainNet leasedTwice = some net ∧
      (net.lease = none ↔ plainStack.Bare net.iface) := by
  obtain ⟨net, hnet, -, hnone, -⟩ :=
    @poll_network_tracks_lease plainStack plainStack_lawful ⟨[], none⟩ ⟨[], none⟩
      ⟨rfl, rfl⟩ Nat.zero_lt_one ⟨rfl, rfl⟩ Nat.zero_lt_one leasedTwice leasedTwice rfl
  exact ⟨net, hnet, hnone⟩

/-- The interface does not know the server: it carries what a lease from
another server would say. -/
theorem interface_forgets_server :
    ∃ net, Connectivity.pollAll plainNet leasedTwice = some net ∧
      ¬ ∀ lease : Connectivity.Lease, net.lease = some lease ↔
        plainStack.Carries net.iface lease.cidr lease.router := by
  refine ⟨_, rfl, ?_⟩
  intro claimed
  have other := (claimed ⟨⟨10, 0, 0, 7⟩, 8, ⟨10, 0, 0, 9⟩, some ⟨10, 0, 0, 1⟩⟩).mpr ⟨rfl, rfl⟩
  exact absurd other (by decide)

end Ws63Examples.InitSmoke
