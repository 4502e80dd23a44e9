import Airio.Quic
import Airio.Future.Util

/-! airio-quic's `Connecting`: the quinn handshake raced against `futures_timer::Delay` through
`futures::future::select`, then `remote_peer_id` on the connection the handshake gives; the dial
side of the QUIC transport, `Config::connect`; and the transport they complete, with what its
listener carries over every run. -/
namespace Airio

namespace Quic
variable {quinn : Quinn}

/-- What airio-quic's dial and handshake code needs beyond `Quinn`: the run of a
`quinn::Connecting` handshake; the run of `Delay::new(timeout)`; the calls `remote_peer_id`
makes (`peer_identity`, the `downcast` to rustls certificates, x509-parser's `from_der` with the
`Debug` text of its error, the raw public key, SHA-256 and `PeerId::from_bytes`); and the client
endpoint and `connect_with` of `Config::connect`. -/
structure Handshake (quinn : Quinn) : Type 1 where
  PeerId : Type
  Identity : Type
  Certificate : Type
  X509 : Type
  X509Error : Type
  Digest : Type
  handshake : quinn.Connecting → Fut (Except quinn.ConnectionError quinn.Connection)
  delay : Nat → Fut Unit
  peerIdentity : quinn.Connection → Option Identity
  downcast : Identity → Except Identity (List Certificate)
  fromDer : Certificate → Except X509Error X509
  debugX509Error : X509Error → String
  publicKeyRaw : X509 → List UInt8
  sha256 : List UInt8 → Digest
  fromBytes : Digest → PeerId
  newClientEndpoint : Socket → Except quinn.IoError quinn.Endpoint
  connectWith : quinn.Endpoint → SocketAddr → String → Except quinn.ConnectError quinn.Connecting

/-- `Result::expect`: the panic carries the message and the error's `Debug` text. -/
def expectOk {ε α : Type} (msg : String) (debug : ε → String) : Except ε α → Except String α
  | .ok a => .ok a
  | .error e => .error (msg ++ ": " ++ debug e)

/-- `remote_peer_id`: the SHA-256 of the public key of the first certificate the peer presented.
A `Box<dyn Any>` prints as `Any { .. }`. -/
def remotePeerId (hs : Handshake quinn) (connecting : quinn.Connection) :
    Except String hs.PeerId := do
  let identity ← expect "peer identity should be set by the remote peer" (hs.peerIdentity connecting)
  let certificates ← expectOk "peer identity should be set by the remote peer" (fun _ => "Any { .. }")
    (hs.downcast identity)
  let endEntity ← expect "peer identity should have at least one certificate" certificates.head?
  let cert ← expectOk "peer identity should have a valid X509 certificate" hs.debugX509Error
    (hs.fromDer endEntity)
  let digest := hs.sha256 (hs.publicKeyRaw cert)
  pure (hs.fromBytes digest)

abbrev Racing (quinn : Quinn) :=
  Futures.Select (Fut (Except quinn.ConnectionError quinn.Connection)) (Fut Unit)

/-- quinn once every peer presents one certificate: the handshake completes at once, and the
timeout fires on the second poll. -/
def oneCertificate : Handshake peerGone where
  PeerId := Unit
  Identity := Unit
  Certificate := Unit
  X509 := Unit
  X509Error := Unit
  Digest := Unit
  handshake _ := .ready (.ok ())
  delay _ := .pending (.ready ())
  peerIdentity _ := some ()
  downcast _ := .ok [()]
  fromDer _ := .ok ()
  debugX509Error _ := ""
  publicKeyRaw _ := []
  sha256 _ := ()
  fromBytes _ := ()
  newClientEndpoint _ := .ok ()
  connectWith _ _ _ := .ok ()

namespace Connecting

def start (hs : Handshake quinn) (self : Connecting quinn) : Racing quinn :=
  Futures.select (hs.handshake self.connecting) (hs.delay self.handshakeTimeout)

def poll (hs : Handshake quinn) :
    PollFn (Racing quinn) (Except (Error quinn) (hs.PeerId × Connection quinn)) := fun self => do
  let (r, connecting) ← Futures.Select.poll Fut.poll Fut.poll self
  match r with
  | .pending => pure (.pending, connecting)
  | .ready (.right _) => pure (.ready (.error .handshakeTimedOut), connecting)
  | .ready (.left (connection, _)) =>
    match connection with
    | .error e => pure (.ready (.error (.connection e)), connecting)
    | .ok connection =>
      let peerId ← remotePeerId hs connection
      let muxer := Connection.new connection
      pure (.ready (.ok (peerId, muxer)), connecting)

def outcome {PeerId : Type} (peer : quinn.Connection → PeerId) :
    Either (Except quinn.ConnectionError quinn.Connection) Unit →
      Except (Error quinn) (PeerId × Connection quinn)
  | .left (.ok connection) => .ok (peer connection, Connection.new connection)
  | .left (.error e) => .error (.connection e)
  | .right () => .error .handshakeTimedOut

variable {hs : Handshake quinn}

/-- `Connecting` runs as the race of the handshake and the delay, provided the peer id of the
connection can be read when the handshake wins. -/
theorem behaves (peer : quinn.Connection → hs.PeerId)
    (dh : Fut (Except quinn.ConnectionError quinn.Connection)) (dt : Fut Unit)
    (identified : dh.pendings ≤ dt.pendings → ∀ c, dh.result = .ok c → remotePeerId hs c = .ok (peer c)) :
    Behaves (poll hs) (Futures.select dh dt) ((Fut.race dh dt).map (outcome peer)) := by
  induction dh generalizing dt with
  | ready r =>
    rcases r with e | c
    · exact .ready (by rfl)
    · have polled : poll hs (Futures.select (.ready (.ok c)) dt) =
          .ok (.ready (.ok (peer c, Connection.new c)), ⟨none⟩) := by
        simp only [poll, Futures.Select.poll_ready_left, bind, Except.bind,
          identified (Nat.zero_le _) c rfl]
        rfl
      exact .ready polled
  | pending dh ih =>
    cases dt with
    | ready u => exact .ready (by rfl)
    | pending dt => exact .pending (by rfl) (ih dt fun le => identified (Nat.add_le_add_right le 1))

end Connecting

/-- The QUIC handshake races the timeout: over every run of the quinn handshake and of the
delay, `Connecting` is `Pending` until the first poll at which one of them is ready, the handshake
winning a tie. It then gives the handshake's error as `Connection(e)`, or the connection's peer id
with a fresh muxer, and `HandshakeTimedOut` when the delay came first. -/
theorem connecting_races_handshake_against_timeout (hs : Handshake quinn)
    (peer : quinn.Connection → hs.PeerId) (dh : Fut (Except quinn.ConnectionError quinn.Connection))
    (dt : Fut Unit)
    (identified : dh.pendings ≤ dt.pendings → ∀ c, dh.result = .ok c → remotePeerId hs c = .ok (peer c)) :
    ∃ d, Behaves (Connecting.poll hs) (Futures.select dh dt) d ∧
      d.pendings = Nat.min dh.pendings dt.pendings ∧
      d.result = if dh.pendings ≤ dt.pendings then
          (dh.result.map fun c => (peer c, Connection.new c)).mapError .connection
        else .error .handshakeTimedOut := by
  refine ⟨_, Connecting.behaves peer dh dt identified, by rw [Fut.pendings_map, Fut.pendings_race], ?_⟩
  rw [Fut.result_map, Fut.result_race]
  split
  · cases dh.result <;> rfl
  · rfl

theorem oneCertificate_connects :
    ((Fut.ready (.ok ()) : Fut (Except Unit Unit)).pendings ≤ (Fut.pending (.ready ()) : Fut Unit).pendings →
        ∀ c, (Fut.ready (.ok ()) : Fut (Except Unit Unit)).result = .ok c →
          remotePeerId oneCertificate c = .ok ()) ∧
      ∃ d, Behaves (Connecting.poll oneCertificate)
          (Futures.select (.ready (.ok ())) (.pending (.ready ()))) d ∧
        d.pendings = 0 ∧ d.result = .ok ((), Connection.new ()) :=
  ⟨fun _ _ _ => rfl,
    connecting_races_handshake_against_timeout oneCertificate (fun _ => ()) (.ready (.ok ()))
      (.pending (.ready ())) (fun _ _ _ => rfl)⟩

/-- `Config::connect`: a UDP socket at the unspecified address of the target's family, port 0;
a client endpoint over it; and quinn's `connect_with` to the target under the server name `l`. -/
def Config.connect (quinn : Quinn) (hs : Handshake quinn) (self : Config) (addr : SocketAddr) :
    Except (Error quinn) (Connecting quinn) := do
  let localListenAddr : SocketAddr := match addr.ip with
    | .v4 _ => ⟨.v4 0, 0⟩
    | .v6 _ => ⟨.v6 0, 0⟩
  let socket ← (createSocket quinn.socket2 localListenAddr).mapError .io
  let endpoint ← (hs.newClientEndpoint socket).mapError .io
  let connecting ← (hs.connectWith endpoint addr "l").mapError .connect
  pure ⟨connecting, self.handshakeTimeout⟩

/-- The QUIC transport of a config. `Connecting quinn` records the arguments of
`Connecting::new`, so each future is the select `Connecting::new` builds from them. -/
def transport (quinn : Quinn) (hs : Handshake quinn) (config : Config) :
    Transport (hs.PeerId × Connection quinn) (Error quinn) where
  Dialer := Racing quinn
  ListenerUpgrade := Racing quinn
  Listener := ListenerStream quinn
  listen := Config.listen quinn config
  connect addr := Connecting.start hs <$> Config.connect quinn hs config addr
  pollDialer := Connecting.poll hs
  pollUpgrade := Connecting.poll hs
  pollNext stream := (fun (r, stream) =>
    (r.map (Option.map (ListenerEvent.mapUpgrade (Connecting.start hs))), stream)) <$>
      ListenerStream.pollNext quinn stream

namespace ListenerStream

/-- A `poll_next` result as the listener at `localAddr` with timeout `timeout` gives it: an
`Incoming` at that local address, its `Connecting` raced against that timeout. -/
def Carries (localAddr : SocketAddr) (timeout : Nat) : Poll (Option (Event quinn)) → Prop
  | .ready (some (.incoming addr _ upgrade)) => addr = localAddr ∧ upgrade.handshakeTimeout = timeout
  | _ => True

theorem carries_incomingEvent (localAddr : SocketAddr) (timeout : Nat) (incoming : quinn.Incoming) :
    Carries localAddr timeout (.ready (some (incomingEvent quinn localAddr timeout incoming))) := by
  unfold incomingEvent
  split
  · exact ⟨rfl, rfl⟩
  · trivial

theorem pass_exit {self self' : ListenerStream quinn} {r : Poll (Option (Event quinn))}
    (left : pass quinn self = .ok (.exit (r, self'))) :
    self'.localAddr = self.localAddr ∧ self'.handshakeTimeout = self.handshakeTimeout ∧
      Carries self.localAddr self.handshakeTimeout r := by
  rcases pass_cases self with ⟨_, went⟩ | ⟨_, went⟩ | ⟨incoming, went⟩ | ⟨_, went⟩ <;>
    rw [left] at went <;> cases went
  · exact ⟨rfl, rfl, trivial⟩
  · exact ⟨rfl, rfl, carries_incomingEvent _ _ incoming⟩

theorem pollNext_carries {self self' : ListenerStream quinn} {r : Poll (Option (Event quinn))}
    (polled : pollNext quinn self = .ok (r, self')) :
    self'.localAddr = self.localAddr ∧ self'.handshakeTimeout = self.handshakeTimeout ∧
      Carries self.localAddr self.handshakeTimeout r := by
  obtain ⟨s₀, ⟨addr, timeout⟩, left⟩ := loop_exited_from
    (fun s : ListenerStream quinn => s.localAddr = self.localAddr ∧
      s.handshakeTimeout = self.handshakeTimeout)
    (fun s s' kept went => by
      rcases pass_cases s with ⟨_, other⟩ | ⟨_, other⟩ | ⟨_, other⟩ | ⟨_, other⟩ <;>
        rw [went] at other <;> cases other
      exact kept)
    ⟨rfl, rfl⟩ polled
  obtain ⟨addr', timeout', carries⟩ := pass_exit left
  exact ⟨addr'.trans addr, timeout'.trans timeout, addr ▸ timeout ▸ carries⟩

theorem pollsOf_carries (n : Nat) (self : ListenerStream quinn)
    {polls : List (Poll (Option (Event quinn)))} (ran : pollsOf (pollNext quinn) n self = .ok polls) :
    ∀ r ∈ polls, Carries self.localAddr self.handshakeTimeout r := by
  induction n generalizing self polls with
  | zero =>
    cases ran
    exact fun _ none => nomatch none
  | succ n ih =>
    rcases polled : pollNext quinn self with msg | ⟨r, self'⟩
    · simp only [pollsOf, polled] at ran
      cases ran
    rcases rest : pollsOf (pollNext quinn) n self' with msg | rest' <;>
      simp only [pollsOf, polled, rest, Functor.map, Except.map] at ran <;> cases ran
    obtain ⟨addr, timeout, carries⟩ := pollNext_carries polled
    exact List.forall_mem_cons.mpr ⟨carries, addr ▸ timeout ▸ ih self' rest⟩

end ListenerStream

theorem Config.connect_timeout {hs : Handshake quinn} {self : Config} {addr : SocketAddr}
    {connecting : Connecting quinn} (dialed : Config.connect quinn hs self addr = .ok connecting) :
    connecting.handshakeTimeout = self.handshakeTimeout := by
  obtain ⟨socket, -, rest⟩ := Except.bind_eq_ok.mp dialed
  obtain ⟨endpoint, -, rest⟩ := Except.bind_eq_ok.mp rest
  obtain ⟨c, -, made⟩ := Except.bind_eq_ok.mp rest
  cases made
  rfl

/-- Every connection of the QUIC transport, dialed or accepted, races its handshake against the
delay of the configured handshake timeout; and over every run of its listener, every `Incoming`
carries the address the socket was bound to, not the one asked for. -/
theorem quic_transport_races_configured_timeout (quinn : Quinn) (hs : Handshake quinn)
    (config : Config) :
    (∀ addr dialer, (transport quinn hs config).connect addr = .ok dialer →
      ∃ c, dialer = Futures.select (hs.handshake c) (hs.delay config.handshakeTimeout)) ∧
    ∀ addr stream, (transport quinn hs config).listen addr = .ok stream →
      ∀ n polls, pollsOf (transport quinn hs config).pollNext n stream = .ok polls →
        ∀ localAddr remoteAddr upgrade,
          .ready (some (.incoming localAddr remoteAddr upgrade)) ∈ polls →
          (∃ socket, createSocket quinn.socket2 addr = .ok socket ∧ quinn.localAddr socket = .ok localAddr) ∧
          ∃ c, upgrade = Futures.select (hs.handshake c) (hs.delay config.handshakeTimeout) := by
  refine ⟨fun addr dialer dialed => ?_, fun addr stream listened n polls ran => ?_⟩
  · obtain ⟨connecting, connected, rfl⟩ := Except.map_eq_ok.mp dialed
    exact ⟨connecting.connecting, by rw [← Config.connect_timeout connected]; rfl⟩
  · obtain ⟨socket, created, bound, -, shape⟩ := Config.listen_ok listened
    have timeout : stream.handshakeTimeout = config.handshakeTimeout :=
      congrArg ListenerStream.handshakeTimeout shape
    have forwards : Forwards (ListenerStream.pollNext quinn) (transport quinn hs config).pollNext
        (fun t s => True ∧ id t = s) (ListenerEvent.mapUpgrade (Connecting.start hs)) :=
      Forwards.of_eq (fun _ => True) id (fun _ s => s) _ (fun _ _ => rfl) (fun _ _ _ => trivial)
        fun _ _ => rfl
    rw [forwards.pollsOf n (s := stream) ⟨trivial, rfl⟩] at ran
    obtain ⟨innerPolls, inner, rfl⟩ := Except.map_eq_ok.mp ran
    intro localAddr remoteAddr upgrade mem
    obtain ⟨r, mem, mapped⟩ := List.mem_map.mp mem
    have carries := ListenerStream.pollsOf_carries n stream inner r mem
    rcases r with (_ | (_ | ⟨l, rem, c⟩ | _ | _)) | _ <;> cases mapped
    obtain ⟨rfl, carried⟩ := carries
    exact ⟨⟨socket, created, bound⟩, c.connecting, by rw [← timeout, ← carried]; rfl⟩

end Quic

end Airio
