import Airio.Transport

/-! socket2 as the `create_socket` functions of airio-tcp and airio-quic use it. A socket is the
family, type and protocol it was made with and the calls the system took on it, oldest first; the
system may refuse `Socket::new`, or any call given the socket it is made on. -/
namespace Airio

def SocketAddr.isIpv6 (address : SocketAddr) : Bool :=
  match address.ip with
  | .v4 _ => false
  | .v6 _ => true

inductive Domain where
  | ipv4
  | ipv6
  deriving DecidableEq, Repr

def Domain.forAddress (address : SocketAddr) : Domain :=
  match address.ip with
  | .v4 _ => .ipv4
  | .v6 _ => .ipv6

inductive SocketType where
  | stream
  | dgram
  deriving DecidableEq, Repr

inductive Protocol where
  | tcp
  | udp
  deriving DecidableEq, Repr

/-- The calls made on a socket after `Socket::new` by the two `create_socket`s and by airio-tcp's
`listen`. -/
inductive SocketCall where
  | setOnlyV6 (onlyV6 : Bool)
  | setTtl (ttl : UInt32)
  | setNodelay (nodelay : Bool)
  | setReuseAddress (reuse : Bool)
  | setNonblocking (nonblocking : Bool)
  | bind (address : SocketAddr)
  | listen (backlog : Int)
  deriving DecidableEq, Repr

structure Socket where
  domain : Domain
  ty : SocketType
  protocol : Option Protocol
  calls : List SocketCall
  deriving DecidableEq, Repr

/-- socket2 over the operating system: the error it gives `Socket::new`, or a call on a socket,
when it refuses them. -/
structure Socket2 (E : Type) where
  refusesNew : Domain → SocketType → Option Protocol → Option E
  refuses : Socket → SocketCall → Option E

namespace Socket2
variable {E : Type} (net : Socket2 E)

def new (domain : Domain) (ty : SocketType) (protocol : Option Protocol) : Except E Socket :=
  match net.refusesNew domain ty protocol with
  | some e => .error e
  | none => .ok ⟨domain, ty, protocol, []⟩

def call (socket : Socket) (c : SocketCall) : Except E Socket :=
  match net.refuses socket c with
  | some e => .error e
  | none => .ok { socket with calls := socket.calls ++ [c] }

end Socket2

end Airio
