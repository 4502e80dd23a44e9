import Airio.Socket

/-! airio-tcp and the airio-ws listener over it. The sockets are the operating system's: a dial's
run, the listening socket `listen` sets up (with the address it is bound to) and the successive
results of its `poll_accept` enter as what the system returns. Over socket2, the set-up is
`create_socket` and the calls of `listen`. -/
namespace Airio.Tcp

structure Config where
  ttl : Option UInt32
  nodelay : Bool
  backlog : UInt32
  deriving DecidableEq, Repr

def Config.new : Config := { ttl := none, nodelay := true, backlog := 1024 }

/-- `tokio::net::TcpListener`: the address its socket is bound to and its `poll_accept`
results, one per call. -/
structure TcpListener (S E : Type) where
  localAddr : SocketAddr
  accepts : Nat → Poll (Except E (S × SocketAddr))
  polled : Nat

def TcpListener.pollAccept (self : TcpListener S E) :
    Poll (Except E (S × SocketAddr)) × TcpListener S E :=
  (self.accepts self.polled, { self with polled := self.polled + 1 })

/-- The operating system: the run of `TcpStream::connect(addr)`, and the listening socket that
`create_socket`, `bind`, `listen` and `TcpListener::from_std` give for a config and an address. -/
structure Os (S E : Type) where
  connect : SocketAddr → Fut (Except E S)
  listen : Config → SocketAddr → Except E (TcpListener S E)

structure ListenStream (S E : Type) where
  listenerAddr : SocketAddr
  listener : TcpListener S E
  pendingEvent : Option (ListenerEvent (Ready (Except E S)) E)

def ListenStream.new (listener : TcpListener S E) (listenerAddr : SocketAddr) : ListenStream S E :=
  let listenedEvent := ListenerEvent.listened listenerAddr
  { listenerAddr, listener, pendingEvent := some listenedEvent }

def ListenStream.pollNext : PollFn (ListenStream S E) (Option (ListenerEvent (Ready (Except E S)) E)) :=
  fun self =>
    match self.pendingEvent with
    | some event => .ok (.ready (some event), { self with pendingEvent := none })
    | none =>
      let (r, listener) := self.listener.pollAccept
      let self := { self with listener }
      match r with
      | .ready (.ok (stream, remoteAddr)) =>
        .ok (.ready (some (.incoming self.listenerAddr remoteAddr ⟨some (.ok stream)⟩)), self)
      | .ready (.error e) => .ok (.ready (some (.error e)), self)
      | .pending => .ok (.pending, self)

def Config.listen (os : Os S E) (self : Config) (addr : SocketAddr) : Except E (ListenStream S E) := do
  let listener ← os.listen self addr
  pure (ListenStream.new listener addr)

def Config.connect (os : Os S E) (_self : Config) (addr : SocketAddr) : Except E (Fut (Except E S)) :=
  .ok (os.connect addr)

def Config.createSocket (net : Socket2 E) (self : Config) (socketAddr : SocketAddr) :
    Except E Socket := do
  let socket ← net.new (Domain.forAddress socketAddr) .stream (some .tcp)
  let socket ← if socketAddr.isIpv6 then net.call socket (.setOnlyV6 true) else pure socket
  let socket ← match self.ttl with
    | some ttl => net.call socket (.setTtl ttl)
    | none => pure socket
  let socket ← net.call socket (.setNodelay self.nodelay)
  let socket ← net.call socket (.setReuseAddress true)
  let socket ← net.call socket (.setNonblocking true)
  pure socket

/-- `backlog as _` where `Socket::listen` takes a `c_int`: the 32 bits read as a signed number. -/
def asCInt (backlog : UInt32) : Int := backlog.toBitVec.toInt

def Config.listenSocket (net : Socket2 E) (fromStd : Socket → Except E (TcpListener S E))
    (self : Config) (addr : SocketAddr) : Except E (TcpListener S E) := do
  let socket ← self.createSocket net addr
  let socket ← net.call socket (.bind addr)
  let socket ← net.call socket (.listen (asCInt self.backlog))
  let socket ← net.call socket (.setNonblocking true)
  let listener ← fromStd socket
  pure listener

/-- The operating system over socket2, with tokio's `TcpStream::connect` runs. -/
def Os.ofSocket2 (net : Socket2 E) (fromStd : Socket → Except E (TcpListener S E))
    (connect : SocketAddr → Fut (Except E S)) : Os S E where
  connect := connect
  listen self addr := self.listenSocket net fromStd addr

def transport (os : Os S E) (config : Config) : Transport S E where
  Dialer := Fut (Except E S)
  ListenerUpgrade := Ready (Except E S)
  Listener := ListenStream S E
  listen := config.listen os
  connect := config.connect os
  pollDialer := Fut.poll
  pollUpgrade := Ready.poll
  pollNext := ListenStream.pollNext

theorem pollNext_new (listener : TcpListener S E) (addr : SocketAddr) :
    ListenStream.pollNext (ListenStream.new listener addr) =
      .ok (.ready (some (.listened addr)), ⟨addr, listener, none⟩) := rfl

def acceptEvent (listenerAddr : SocketAddr) :
    Poll (Except E (S × SocketAddr)) → Poll (Option (ListenerEvent (Ready (Except E S)) E))
  | .ready (.ok (stream, remoteAddr)) =>
    .ready (some (.incoming listenerAddr remoteAddr ⟨some (.ok stream)⟩))
  | .ready (.error e) => .ready (some (.error e))
  | .pending => .pending

theorem pollNext_after (self : ListenStream S E) (sent : self.pendingEvent = none) :
    ListenStream.pollNext self = .ok (acceptEvent self.listenerAddr (self.listener.accepts self.listener.polled),
      { self with listener := self.listener.pollAccept.2 }) := by
  rcases self with ⟨listenerAddr, listener, _ | _⟩
  · simp only [ListenStream.pollNext, TcpListener.pollAccept]
    rcases listener.accepts listener.polled with (e | ⟨stream, remoteAddr⟩) | _ <;> rfl
  · cases sent

theorem pollsOf_after (n : Nat) (self : ListenStream S E) (sent : self.pendingEvent = none) :
    pollsOf ListenStream.pollNext n self =
      .ok ((List.range' self.listener.polled n).map fun k =>
        acceptEvent self.listenerAddr (self.listener.accepts k)) := by
  induction n generalizing self with
  | zero => rfl
  | succ n ih =>
    simp only [pollsOf, pollNext_after self sent]
    rw [ih { self with listener := self.listener.pollAccept.2 } sent]
    rfl

/-- A TCP listen stream yields `Listened(listener_addr)`, then one event per `poll_accept` result
of its listener, in order: every connection accepted is handed out once, as a ready upgrade. -/
theorem pollsOf_new (listener : TcpListener S E) (addr : SocketAddr) (n : Nat) :
    pollsOf ListenStream.pollNext (n + 1) (ListenStream.new listener addr) =
      .ok (.ready (some (.listened addr)) ::
        (List.range' listener.polled n).map fun k => acceptEvent addr (listener.accepts k)) := by
  simp only [pollsOf, pollNext_new, pollsOf_after n ⟨addr, listener, none⟩ rfl]
  rfl

namespace Ws

structure ListenStream (K S E : Type) where
  config : K
  inner : Tcp.ListenStream S E

/-- `handshake` builds the boxed future that runs async-tungstenite's
`accept_async_with_config` over a TCP upgrade; `fromIo` is `tungstenite::Error::from`. -/
def ListenStream.pollNext (handshake : K → Ready (Except E S) → W) (fromIo : E → R) :
    PollFn (ListenStream K S E) (Option (ListenerEvent W R)) := fun self => do
  let config := self.config
  let (r, inner) ← Tcp.ListenStream.pollNext self.inner
  let self := { self with inner }
  match r with
  | .ready (some event) => pure (.ready (some ((event.mapUpgrade (handshake config)).mapErr fromIo)), self)
  | .ready none => pure (.ready none, self)
  | .pending => pure (.pending, self)

def Config.listen (os : Os S E) (fromIo : E → R) (tcp : Tcp.Config) (websocket : K)
    (addr : SocketAddr) : Except R (ListenStream K S E) := do
  let listener ← (tcp.listen os addr).mapError fromIo
  pure ⟨websocket, listener⟩

theorem forwards (handshake : K → Ready (Except E S) → W) (fromIo : E → R) (config : K) :
    Forwards Tcp.ListenStream.pollNext (ListenStream.pollNext handshake fromIo)
      (fun self inner => self.config = config ∧ self.inner = inner)
      (ListenerEvent.lift (fun _ _ => handshake config) fromIo) :=
  Forwards.of_eq (fun self : ListenStream K S E => self.config = config) ListenStream.inner
    (fun self inner => { self with inner }) _ (fun _ _ => rfl) (fun _ _ kept => kept)
    fun self kept => by
      subst kept
      simp only [ListenStream.pollNext, bind, Except.bind, pure, Except.pure]
      rcases Tcp.ListenStream.pollNext self.inner with msg | ⟨(_ | _) | _, inner⟩
      · rfl
      · rfl
      · rename_i event
        cases event with
        | closed result => cases result <;> rfl
        | _ => rfl
      · rfl

end Ws

/-- The failing input of the bound-address check: an operating system that binds a listener
asked for port 0 to port 49152, and accepts nothing yet. -/
def ephemeral : Os Unit Unit where
  connect _ := .ready (.error ())
  listen _ addr := .ok ⟨{ addr with port := if addr.port = 0 then 49152 else addr.port },
    fun _ => .pending, 0⟩

/-- Listening on `127.0.0.1:0`, the socket is bound to `127.0.0.1:49152`, yet the TCP stream, and
the WebSocket stream over it, announce `Listened(127.0.0.1:0)`: `Config::listen` hands
`ListenStream::new` the requested address, not the bound one. -/
theorem tcp_listened_requested_port :
    ∃ stream, Config.new.listen ephemeral ⟨.v4 0x7f000001, 0⟩ = .ok stream ∧
      stream.listener.localAddr = ⟨.v4 0x7f000001, 49152⟩ ∧
      (ListenStream.pollNext stream).map Prod.fst = .ok (.ready (some (.listened ⟨.v4 0x7f000001, 0⟩))) ∧
      (Ws.ListenStream.pollNext (K := Unit) (W := Unit) (fun _ _ => ()) id ⟨(), stream⟩).map Prod.fst =
        .ok (.ready (some (.listened ⟨.v4 0x7f000001, 0⟩))) :=
  ⟨_, rfl, rfl, rfl, rfl⟩

end Airio.Tcp
