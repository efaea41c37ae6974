import Mathlib.Algebra.Order.Ring.Nat

/-!
# The network stack under the examples

The stack is not part of this repository. Its interface operations are a
parameter, `Smoltcp`, and `Smoltcp.Lawful` is what the code relies on.
-/

namespace Ws63Examples

structure Ipv4Address where
  a : UInt8
  b : UInt8
  c : UInt8
  d : UInt8
  deriving DecidableEq, Repr

namespace Ipv4Address

def unspecified : Ipv4Address := ⟨0, 0, 0, 0⟩

def octets (address : Ipv4Address) : List UInt8 := [address.a, address.b, address.c, address.d]

end Ipv4Address

structure Ipv4Cidr where
  address : Ipv4Address
  prefixLen : UInt8
  deriving DecidableEq, Repr

structure IpEndpoint where
  addr : Ipv4Address
  port : UInt16
  deriving DecidableEq, Repr

/-- A datagram at a UDP socket: its payload and the endpoint it came from, or
is going to. -/
structure Datagram where
  payload : List UInt8
  endpoint : IpEndpoint
  deriving DecidableEq, Repr

/-- `dhcpv4::Config`, as far as the examples read it. -/
structure DhcpConfig where
  address : Ipv4Cidr
  server : Ipv4Address
  router : Option Ipv4Address
  deriving DecidableEq, Repr

/-- `dhcpv4::Event` -/
inductive DhcpEvent where
  | configured (config : DhcpConfig)
  | deconfigured
  deriving DecidableEq, Repr

/-- The operations on an interface. `Traffic` is whatever one `Interface::poll`
meets: the time, the device and the sockets. -/
structure Smoltcp where
  Interface : Type
  Traffic : Type
  poll : Traffic → Interface → Interface
  ipAddrs : Interface → List Ipv4Cidr
  defaultRoute : Interface → Option Ipv4Address
  otherRoutes : Interface → List (Ipv4Cidr × Ipv4Address)
  routeSlots : Nat
  clearAddrs : Interface → Interface
  pushAddr : Interface → Ipv4Cidr → Option Interface
  addDefaultIpv4Route : Interface → Ipv4Address → Option Interface
  removeDefaultIpv4Route : Interface → Interface

namespace Smoltcp

variable (stack : Smoltcp)

/-- Both interfaces carry the same routes, the default route apart. -/
def SameOthers (i j : stack.Interface) : Prop := stack.otherRoutes i = stack.otherRoutes j

/-- The documented behaviour: polling keeps addresses and routes, one address
fits an empty list, a default route replaces the one before it and fits while
the other routes leave a slot. -/
structure Lawful : Prop where
  poll : ∀ t i, stack.ipAddrs (stack.poll t i) = stack.ipAddrs i ∧
    stack.defaultRoute (stack.poll t i) = stack.defaultRoute i ∧
    stack.SameOthers (stack.poll t i) i
  clear : ∀ i, stack.ipAddrs (stack.clearAddrs i) = [] ∧
    stack.defaultRoute (stack.clearAddrs i) = stack.defaultRoute i ∧
    stack.SameOthers (stack.clearAddrs i) i
  push : ∀ i cidr, stack.ipAddrs i = [] → ∃ j, stack.pushAddr i cidr = some j ∧
    stack.ipAddrs j = [cidr] ∧ stack.defaultRoute j = stack.defaultRoute i ∧
    stack.SameOthers j i
  add : ∀ i router, (stack.otherRoutes i).length < stack.routeSlots →
    ∃ j, stack.addDefaultIpv4Route i router = some j ∧ stack.defaultRoute j = some router ∧
      stack.ipAddrs j = stack.ipAddrs i ∧ stack.SameOthers j i
  remove : ∀ i, stack.defaultRoute (stack.removeDefaultIpv4Route i) = none ∧
    stack.ipAddrs (stack.removeDefaultIpv4Route i) = stack.ipAddrs i ∧
    stack.SameOthers (stack.removeDefaultIpv4Route i) i

/-- What both copies of `poll_network` do to the interface on a new
configuration; `none` is one of the two `expect` calls firing. -/
def install (i : stack.Interface) (config : DhcpConfig) : Option stack.Interface := do
  let j ← stack.pushAddr (stack.clearAddrs i) config.address
  match config.router with
  | some router => stack.addDefaultIpv4Route j router
  | none => some (stack.removeDefaultIpv4Route j)

/-- What both copies do when the configuration is lost. -/
def withdraw (i : stack.Interface) : stack.Interface :=
  stack.removeDefaultIpv4Route (stack.clearAddrs i)

/-- Exactly one address and exactly this default route. -/
def Carries (i : stack.Interface) (cidr : Ipv4Cidr) (router : Option Ipv4Address) : Prop :=
  stack.ipAddrs i = [cidr] ∧ stack.defaultRoute i = router

def Bare (i : stack.Interface) : Prop := stack.ipAddrs i = [] ∧ stack.defaultRoute i = none

/-- One default route fits beside the others. -/
def Room (i : stack.Interface) : Prop := (stack.otherRoutes i).length < stack.routeSlots

variable {stack}

theorem Lawful.install_spec (law : stack.Lawful) {i : stack.Interface} (room : stack.Room i)
    (config : DhcpConfig) :
    ∃ j, stack.install i config = some j ∧ stack.Carries j config.address config.router ∧
      stack.SameOthers j i := by
  obtain ⟨no_addrs, -, others₁⟩ := law.clear i
  obtain ⟨j, hpush, addrs, -, others₂⟩ := law.push (stack.clearAddrs i) config.address no_addrs
  have others : stack.SameOthers j i := others₂.trans others₁
  cases hr : config.router with
  | none =>
    obtain ⟨no_route, same_addrs, others₃⟩ := law.remove j
    exact ⟨_, by simp [install, hpush, hr], ⟨same_addrs.trans addrs, no_route⟩,
      others₃.trans others⟩
  | some router =>
    have slot : (stack.otherRoutes j).length < stack.routeSlots := by rw [others]; exact room
    obtain ⟨k, hadd, route, same_addrs, others₃⟩ := law.add j router slot
    exact ⟨k, by simp [install, hpush, hr, hadd], ⟨same_addrs.trans addrs, route⟩,
      others₃.trans others⟩

theorem Lawful.withdraw_spec (law : stack.Lawful) (i : stack.Interface) :
    stack.Bare (stack.withdraw i) ∧ stack.SameOthers (stack.withdraw i) i := by
  obtain ⟨no_addrs, -, others₁⟩ := law.clear i
  obtain ⟨no_route, same_addrs, others₂⟩ := law.remove (stack.clearAddrs i)
  exact ⟨⟨same_addrs.trans no_addrs, no_route⟩, others₂.trans others₁⟩

theorem Lawful.poll_carries (law : stack.Lawful) (traffic : stack.Traffic) {i : stack.Interface}
    {cidr : Ipv4Cidr} {router : Option Ipv4Address} (h : stack.Carries i cidr router) :
    stack.Carries (stack.poll traffic i) cidr router := by
  obtain ⟨addrs, route, -⟩ := law.poll traffic i
  exact ⟨addrs.trans h.1, route.trans h.2⟩

theorem Lawful.poll_bare (law : stack.Lawful) (traffic : stack.Traffic) {i : stack.Interface}
    (h : stack.Bare i) : stack.Bare (stack.poll traffic i) := by
  obtain ⟨addrs, route, -⟩ := law.poll traffic i
  exact ⟨addrs.trans h.1, route.trans h.2⟩

theorem Carries.not_bare {i : stack.Interface} {cidr : Ipv4Cidr} {router : Option Ipv4Address}
    (h : stack.Carries i cidr router) : ¬ stack.Bare i := by
  intro bare
  have := h.1.symm.trans bare.1
  cases this

theorem Carries.unique {i : stack.Interface} {cidr cidr' : Ipv4Cidr}
    {router router' : Option Ipv4Address} (h : stack.Carries i cidr router)
    (h' : stack.Carries i cidr' router') : cidr = cidr' ∧ router = router' :=
  ⟨List.singleton_inj.mp (h.1.symm.trans h'.1), h.2.symm.trans h'.2⟩

theorem Room.keep {i j : stack.Interface} (room : stack.Room i) (same : stack.SameOthers j i) :
    stack.Room j := by
  unfold Room
  rw [same]
  exact room

end Smoltcp

/-- What one `Interface::poll` does to a socket. -/
structure UdpTraffic where
  arrived : List Datagram
  transmitted : Nat

def UdpTraffic.quiet : UdpTraffic := ⟨[], 0⟩

/-- A bound socket: what it has received and what it has yet to transmit. -/
structure UdpSocket where
  rx : List Datagram
  tx : List Datagram

namespace UdpSocket

def recv (socket : UdpSocket) : Option (Datagram × UdpSocket) :=
  match socket.rx with
  | [] => none
  | datagram :: rx => some (datagram, { socket with rx := rx })

/-- A datagram longer than the buffer is dropped and reported as an error. -/
def recvSlice (socket : UdpSocket) (capacity : Nat) : Option Datagram × UdpSocket :=
  match socket.recv with
  | none => (none, socket)
  | some (datagram, socket) =>
    (if datagram.payload.length ≤ capacity then some datagram else none, socket)

/-- `accepts` is the socket's answer; an error leaves it as it was. -/
def sendSlice (socket : UdpSocket) (payload : List UInt8) (endpoint : IpEndpoint)
    (accepts : Bool) : Option UdpSocket :=
  if accepts then some { socket with tx := socket.tx ++ [⟨payload, endpoint⟩] } else none

def poll (socket : UdpSocket) (traffic : UdpTraffic) : UdpSocket where
  rx := socket.rx ++ traffic.arrived
  tx := socket.tx.drop traffic.transmitted

end UdpSocket

/-- An interface with nothing but an address list and a default route. -/
structure PlainInterface where
  addrs : List Ipv4Cidr
  route : Option Ipv4Address

/-- The smallest stack that behaves as documented. -/
def plainStack : Smoltcp where
  Interface := PlainInterface
  Traffic := Unit
  poll := fun _ i => i
  ipAddrs := PlainInterface.addrs
  defaultRoute := PlainInterface.route
  otherRoutes := fun _ => []
  routeSlots := 1
  clearAddrs := fun i => { i with addrs := [] }
  pushAddr := fun i cidr => if i.addrs = [] then some { i with addrs := [cidr] } else none
  addDefaultIpv4Route := fun i router => some { i with route := some router }
  removeDefaultIpv4Route := fun i => { i with route := none }

theorem plainStack_lawful : plainStack.Lawful where
  poll := fun _ _ => ⟨rfl, rfl, rfl⟩
  clear := fun _ => ⟨rfl, rfl, rfl⟩
  push := fun i _ empty => ⟨_, if_pos (show PlainInterface.addrs i = [] from empty), rfl, rfl, rfl⟩
  add := fun _ _ _ => ⟨_, rfl, rfl, rfl, rfl⟩
  remove := fun _ => ⟨rfl, rfl, rfl⟩

end Ws63Examples
