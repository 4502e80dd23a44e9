import Airio.Tcp
import Airio.Future.Util
import Airio.Transport.Stack

/-! airio-ws's `Transport` over airio-tcp. A dial is the TCP dial, then async-tungstenite's client
handshake over the stream it gives; every connection the listener hands out is the TCP one, then
the server handshake. Both futures are built the same way, with futures-util's `map_err`,
`and_then` and two `map_ok`s, so they are one chain here, which runs as the TCP run followed by
the handshake's run. The URI builder, the two handshakes and the stream wrappers
(`BytesWebSocketStream`, whose `framed` module is not in the repository, and `RwStreamSink`) enter
as what they return. -/
namespace Airio.Tcp.Ws

/-- async-tungstenite and the stream wrappers, over the TCP stream `S` with its error `E` and the
WebSocket config `K`. -/
structure Tungstenite (K S E : Type) : Type 1 where
  Error : Type
  Uri : Type
  WebSocketStream : Type
  Response : Type
  BytesWebSocketStream : Type
  RwStreamSink : Type
  fromIo : E → Error
  display : SocketAddr → String
  build : String → String → String → Except Error Uri
  clientAsyncWithConfig : Uri → S → Option K → Fut (Except Error (WebSocketStream × Response))
  acceptAsyncWithConfig : S → Option K → Fut (Except Error WebSocketStream)
  bytesWebSocketStream : WebSocketStream → BytesWebSocketStream
  rwStreamSink : BytesWebSocketStream → RwStreamSink

variable {K S E σ H : Type}

/-- The boxed future both sides build over a TCP future `σ`, for a handshake that gives `H`:
`map_err(Error::from).and_then(handshake).map_ok(wrap).map_ok(RwStreamSink::new)`. -/
abbrev Chain (tg : Tungstenite K S E) (σ H : Type) :=
  Futures.Map
    (Futures.Map
      (Futures.TryFlatten
        (Futures.Map (MapErr σ E tg.Error) (Except tg.Error S)
          (Except tg.Error (Fut (Except tg.Error H))))
        (Fut (Except tg.Error H)))
      (Except tg.Error H) (Except tg.Error tg.BytesWebSocketStream))
    (Except tg.Error tg.BytesWebSocketStream) (Except tg.Error tg.RwStreamSink)

def chain (tg : Tungstenite K S E) (inner : σ) (handshake : S → Fut (Except tg.Error H))
    (wrap : H → tg.BytesWebSocketStream) : Chain tg σ H :=
  .incomplete
    (.incomplete
      (.first (.incomplete (.incomplete inner tg.fromIo) (Except.map handshake)))
      (Except.map wrap))
    (Except.map tg.rwStreamSink)

def Chain.poll (tg : Tungstenite K S E) (pollInner : PollFn σ (Except E S)) :
    PollFn (Chain tg σ H) (Except tg.Error tg.RwStreamSink) :=
  Futures.Map.poll
    (Futures.Map.poll (Futures.TryFlatten.poll (Futures.Map.poll (MapErr.poll pollInner)) Fut.poll))

/-- The run of a chain over the TCP run `d`: the TCP error converted, or, from the poll at which
`d` gives a stream, the handshake's run over it with its stream wrapped. -/
def Chain.run (tg : Tungstenite K S E) (handshake : S → Fut (Except tg.Error H))
    (wrap : H → tg.BytesWebSocketStream) (d : Fut (Except E S)) :
    Fut (Except tg.Error tg.RwStreamSink) :=
  d.bind fun
    | .error e => .ready (.error (tg.fromIo e))
    | .ok stream => (handshake stream).map (Except.map (tg.rwStreamSink ∘ wrap))

private theorem chain_spec_eq (tg : Tungstenite K S E) (handshake : S → Fut (Except tg.Error H))
    (wrap : H → tg.BytesWebSocketStream) (d : Fut (Except E S)) :
    ((Futures.TryFlatten.spec ((d.map (Except.mapError tg.fromIo)).map (Except.map handshake)) id).map
        (Except.map wrap)).map (Except.map tg.rwStreamSink) = Chain.run tg handshake wrap d := by
  induction d with
  | ready r =>
    cases r with
    | error e => rfl
    | ok stream =>
      show ((handshake stream).map _).map _ = (handshake stream).map _
      rw [Fut.map_map]
      exact congrArg (Fut.map · _) (funext fun x => by cases x <;> rfl)
  | pending next ih => simpa [Futures.TryFlatten.spec, Chain.run] using ih

/-- A chain over a TCP future that runs as `d` runs as `Chain.run`: the combinators add no poll
and lose none. -/
theorem Chain.behaves (tg : Tungstenite K S E) {pollInner : PollFn σ (Except E S)} {s : σ}
    {d : Fut (Except E S)} (handshake : S → Fut (Except tg.Error H))
    (wrap : H → tg.BytesWebSocketStream) (runs : Behaves pollInner s d) :
    Behaves (Chain.poll tg pollInner) (chain tg s handshake wrap) (Chain.run tg handshake wrap d) :=
  chain_spec_eq tg handshake wrap d ▸
    Futures.Map.behaves _ (Futures.Map.behaves _
      (Futures.TryFlatten.behaves id
        (Futures.Map.behaves _ (MapErr.behaves tg.fromIo runs)) Fut.behaves_poll))

abbrev Dialer (tg : Tungstenite K S E) := Chain tg (Fut (Except E S)) (tg.WebSocketStream × tg.Response)

abbrev ListenerUpgrade (tg : Tungstenite K S E) := Chain tg (Ready (Except E S)) tg.WebSocketStream

def Config.connect (os : Os S E) (tg : Tungstenite K S E) (tcp : Tcp.Config) (websocket : K)
    (addr : SocketAddr) : Except tg.Error (Dialer tg) := do
  let dialer ← (tcp.connect os addr).mapError tg.fromIo
  let config := websocket
  let request ← tg.build "ws" (tg.display addr) "/"
  pure (chain tg dialer (fun stream => tg.clientAsyncWithConfig request stream (some config))
    fun (s, _) => tg.bytesWebSocketStream s)

def upgrade (tg : Tungstenite K S E) (config : K) (u : Ready (Except E S)) : ListenerUpgrade tg :=
  chain tg u (fun stream => tg.acceptAsyncWithConfig stream (some config)) tg.bytesWebSocketStream

def transport (os : Os S E) (tg : Tungstenite K S E) (tcp : Tcp.Config) (websocket : K) :
    Transport tg.RwStreamSink tg.Error where
  Dialer := Dialer tg
  ListenerUpgrade := ListenerUpgrade tg
  Listener := ListenStream K S E
  listen := Config.listen os tg.fromIo tcp websocket
  connect := Config.connect os tg tcp websocket
  pollDialer := Chain.poll tg Fut.poll
  pollUpgrade := Chain.poll tg Ready.poll
  pollNext := ListenStream.pollNext (upgrade tg) tg.fromIo

theorem connect_eq (os : Os S E) (tg : Tungstenite K S E) (tcp : Tcp.Config) (websocket : K)
    (addr : SocketAddr) :
    Config.connect os tg tcp websocket addr =
      (fun request => chain tg (os.connect addr)
          (fun stream => tg.clientAsyncWithConfig request stream (some websocket))
          fun (s, _) => tg.bytesWebSocketStream s) <$> tg.build "ws" (tg.display addr) "/" := by
  simp only [Config.connect, Tcp.Config.connect]
  cases tg.build "ws" (tg.display addr) "/" <;> rfl

theorem connect_ok {os : Os S E} {tg : Tungstenite K S E} {tcp : Tcp.Config} {websocket : K}
    {addr : SocketAddr} {dialer : Dialer tg}
    (dialed : (transport os tg tcp websocket).connect addr = .ok dialer) :
    ∃ request, tg.build "ws" (tg.display addr) "/" = .ok request ∧
      Behaves (transport os tg tcp websocket).pollDialer dialer
        (Chain.run tg (fun stream => tg.clientAsyncWithConfig request stream (some websocket))
          (fun (s, _) => tg.bytesWebSocketStream s) (os.connect addr)) := by
  obtain ⟨request, built, rfl⟩ :=
    Except.map_eq_ok.mp ((connect_eq os tg tcp websocket addr).symm.trans dialed)
  exact ⟨request, built, Chain.behaves tg _ _ (Fut.behaves_poll _)⟩

/-- A WebSocket dial fails exactly where the URI of the address does not build, with that error:
the TCP `connect` never fails. Every dial future it returns runs as the TCP dial's run with its
error converted, then, from the poll at which the TCP stream is there, as the client handshake
over it, with its stream wrapped. -/
theorem ws_dial_runs_tcp_then_client_handshake (os : Os S E) (tg : Tungstenite K S E)
    (tcp : Tcp.Config) (websocket : K) (addr : SocketAddr) :
    (∀ e, (transport os tg tcp websocket).connect addr = .error e ↔
      tg.build "ws" (tg.display addr) "/" = .error e) ∧
    ∀ dialer, (transport os tg tcp websocket).connect addr = .ok dialer →
      ∃ request, tg.build "ws" (tg.display addr) "/" = .ok request ∧
        Behaves (transport os tg tcp websocket).pollDialer dialer
          (Chain.run tg (fun stream => tg.clientAsyncWithConfig request stream (some websocket))
            (fun (s, _) => tg.bytesWebSocketStream s) (os.connect addr)) := by
  refine ⟨fun e => ?_, fun _ dialed => connect_ok dialed⟩
  show Config.connect os tg tcp websocket addr = _ ↔ _
  rw [connect_eq]
  cases tg.build "ws" (tg.display addr) "/" with
  | error e' => exact ⟨fun h => by cases h; rfl, fun h => by cases h; rfl⟩
  | ok request => exact ⟨nofun, nofun⟩

theorem listen_ok {os : Os S E} {tg : Tungstenite K S E} {tcp : Tcp.Config} {websocket : K}
    {addr : SocketAddr} {stream : ListenStream K S E}
    (listened : (transport os tg tcp websocket).listen addr = .ok stream) :
    ∃ listener, os.listen tcp addr = .ok listener ∧
      stream = ⟨websocket, ListenStream.new listener addr⟩ := by
  obtain ⟨inner, opened, made⟩ := Except.bind_eq_ok.mp listened
  cases made
  obtain ⟨listener, set, made⟩ := Except.bind_eq_ok.mp (Except.mapError_eq_ok.mp opened)
  cases made
  exact ⟨listener, set, rfl⟩

def serverEvent (tg : Tungstenite K S E) (websocket : K) (addr : SocketAddr) :
    Poll (Except E (S × SocketAddr)) → Poll (Option (ListenerEvent (ListenerUpgrade tg) tg.Error))
  | .ready (.ok (s, remoteAddr)) =>
    .ready (some (.incoming addr remoteAddr (upgrade tg websocket ⟨some (.ok s)⟩)))
  | .ready (.error e) => .ready (some (.error (tg.fromIo e)))
  | .pending => .pending

theorem lift_acceptEvent (tg : Tungstenite K S E) (websocket : K) (addr : SocketAddr)
    (r : Poll (Except E (S × SocketAddr))) :
    (acceptEvent addr r).map (Option.map (ListenerEvent.lift (fun _ _ => upgrade tg websocket) tg.fromIo)) =
      serverEvent tg websocket addr r := by
  rcases r with (e | ⟨s, remoteAddr⟩) | _ <;> rfl

/-- The polls of a listener `listen` returned: `Listened(addr)`, then one event per
`poll_accept` result of the TCP listener the operating system set up, in order. -/
theorem pollsOf_listen {os : Os S E} {tg : Tungstenite K S E} {tcp : Tcp.Config} {websocket : K}
    {addr : SocketAddr} {stream : ListenStream K S E}
    (listened : (transport os tg tcp websocket).listen addr = .ok stream) (n : Nat) :
    ∃ listener, os.listen tcp addr = .ok listener ∧
      pollsOf (transport os tg tcp websocket).pollNext (n + 1) stream =
        .ok (.ready (some (.listened addr)) ::
          (List.range' listener.polled n).map fun k => serverEvent tg websocket addr (listener.accepts k)) := by
  obtain ⟨listener, opened, rfl⟩ := listen_ok listened
  have forwarded := (forwards (upgrade tg) tg.fromIo websocket).pollsOf (n + 1)
    (t := ⟨websocket, ListenStream.new listener addr⟩) ⟨rfl, rfl⟩
  rw [pollsOf_new] at forwarded
  refine ⟨listener, opened, forwarded.trans ?_⟩
  simp only [Functor.map, Except.map, List.map_cons, List.map_map, Function.comp_def, lift_acceptEvent]
  rfl

/-- A WebSocket listener yields `Listened` with the address it was asked for, then one event per
`poll_accept` result of the TCP listener, in order: `Pending` for `Pending`, the converted error
for an error, and for each accepted stream an `Incoming` at that address, with the peer's address
and the server handshake over that stream. Every such upgrade runs, from its first poll, as
async-tungstenite's server handshake over its stream, with the transport's WebSocket config. -/
theorem ws_listener_hands_out_server_handshakes (os : Os S E) (tg : Tungstenite K S E)
    (tcp : Tcp.Config) (websocket : K) (addr : SocketAddr) (stream : ListenStream K S E)
    (listened : (transport os tg tcp websocket).listen addr = .ok stream) (n : Nat) :
    ∃ listener, os.listen tcp addr = .ok listener ∧
      pollsOf (transport os tg tcp websocket).pollNext (n + 1) stream =
        .ok (.ready (some (.listened addr)) ::
          (List.range' listener.polled n).map fun k => serverEvent tg websocket addr (listener.accepts k)) ∧
      ∀ s, Behaves (transport os tg tcp websocket).pollUpgrade (upgrade tg websocket ⟨some (.ok s)⟩)
        ((tg.acceptAsyncWithConfig s (some websocket)).map
          (Except.map (tg.rwStreamSink ∘ tg.bytesWebSocketStream))) := by
  obtain ⟨listener, opened, polls⟩ := pollsOf_listen listened n
  exact ⟨listener, opened, polls, fun s => Chain.behaves tg _ _ (d := .ready (.ok s)) (.ready rfl)⟩

/-- An operating system over unit streams that binds each listener where asked and accepts one
connection at its first poll. -/
def acceptsOnce : Os Unit Unit where
  connect _ := .ready (.ok ())
  listen _ addr := .ok ⟨addr, fun polled => if polled = 0 then .ready (.ok ((), addr)) else .pending, 0⟩

/-- A tungstenite over unit values whose URIs build and whose handshakes complete at once. -/
def instant : Tungstenite Unit Unit Unit where
  Error := Unit
  Uri := Unit
  WebSocketStream := Unit
  Response := Unit
  BytesWebSocketStream := Unit
  RwStreamSink := Unit
  fromIo := id
  display _ := ""
  build _ _ _ := .ok ()
  clientAsyncWithConfig _ _ _ := .ready (.ok ((), ()))
  acceptAsyncWithConfig _ _ := .ready (.ok ())
  bytesWebSocketStream := id
  rwStreamSink := id

theorem acceptsOnce_hands_out_handshake :
    ∃ stream, (transport acceptsOnce instant Tcp.Config.new ()).listen ⟨.v4 0, 80⟩ = .ok stream ∧
      ∃ listener, acceptsOnce.listen Tcp.Config.new ⟨.v4 0, 80⟩ = .ok listener ∧
        pollsOf (transport acceptsOnce instant Tcp.Config.new ()).pollNext 3 stream =
          .ok (.ready (some (.listened ⟨.v4 0, 80⟩)) ::
            (List.range' listener.polled 2).map fun k =>
              serverEvent instant () ⟨.v4 0, 80⟩ (listener.accepts k)) ∧
        ∀ s, Behaves (transport acceptsOnce instant Tcp.Config.new ()).pollUpgrade
          (upgrade instant () ⟨some (.ok s)⟩)
          ((instant.acceptAsyncWithConfig s (some ())).map
            (Except.map (instant.rwStreamSink ∘ instant.bytesWebSocketStream))) :=
  ⟨_, rfl, ws_listener_hands_out_server_handshakes acceptsOnce instant Tcp.Config.new () ⟨.v4 0, 80⟩ _ rfl 2⟩

theorem conforms_served {a : SocketAddr} (tg : Tungstenite K S E) (websocket : K) (ks : List Nat)
    (accepts : Nat → Poll (Except E (S × SocketAddr))) :
    Conforms a (items (.ready (some (.listened a)) :: ks.map fun k => serverEvent tg websocket a (accepts k))) ∧
      ∀ event ∈ items (.ready (some (.listened a)) :: ks.map fun k => serverEvent tg websocket a (accepts k)),
        event.isClosed = false := by
  have quiet : ∀ event ∈ items (ks.map fun k => serverEvent tg websocket a (accepts k)),
      event.isListened = false ∧ event.isClosed = false := by
    intro event mem
    obtain ⟨r, inRest, picked⟩ := List.mem_filterMap.mp mem
    obtain ⟨k, -, rfl⟩ := List.mem_map.mp inRest
    revert picked
    rcases accepts k with (e | ⟨s, remoteAddr⟩) | _ <;> rintro ⟨⟩ <;> exact ⟨rfl, rfl⟩
  exact ⟨⟨_, rfl, fun e mem => (quiet e mem).1, closedLast_of_open fun e mem => (quiet e mem).2⟩,
    List.forall_mem_cons.mpr ⟨rfl, fun e mem => (quiet e mem).2⟩⟩

theorem conforms_lift {U E U' E' : Type} {a : SocketAddr} {polls : List (Poll (Option (ListenerEvent U E)))}
    (g : SocketAddr → SocketAddr → U → U') (ε : E → E')
    (shaped : Conforms a (items polls) ∧ ∀ event ∈ items polls, event.isClosed = false) :
    Conforms a (items (polls.map (Poll.map (Option.map (ListenerEvent.lift g ε))))) ∧
      ∀ event ∈ items (polls.map (Poll.map (Option.map (ListenerEvent.lift g ε)))),
        event.isClosed = false := by
  rw [items_map]
  refine ⟨conforms_map g ε shaped.1, fun event mem => ?_⟩
  obtain ⟨e, inside, rfl⟩ := List.mem_map.mp mem
  rw [isClosed_lift]
  exact shaped.2 e inside

/-- Every stack of the transport combinators over the WebSocket transport, such as the
`upgrade().authenticate(..).multiplex(..)` of the examples, listens exactly where the operating
system sets up the TCP listener, and its listener yields, over every run of the TCP accepts,
`Listened(addr)` first, then never another `Listened` and never `Closed`. -/
theorem ws_stack_listener_conforms {O' E' : Type} (os : Os S E) (tg : Tungstenite K S E)
    (tcp : Tcp.Config) (websocket : K) (addr : SocketAddr)
    (ls : Layers tg.RwStreamSink tg.Error O' E') :
    ((ls.apply (transport os tg tcp websocket)).listen addr).toBool = (os.listen tcp addr).toBool ∧
      ∀ listener, (ls.apply (transport os tg tcp websocket)).listen addr = .ok listener → ∀ n, ∃ polls,
        pollsOf (ls.apply (transport os tg tcp websocket)).pollNext (n + 1) listener = .ok polls ∧
        Conforms addr (items polls) ∧ ∀ event ∈ items polls, event.isClosed = false := by
  obtain ⟨g, R, listened, forwards⟩ := ls.listensAs (transport os tg tcp websocket)
  obtain ⟨wrap, opened, related⟩ := listened addr
  refine ⟨?_, fun listener ok n => ?_⟩
  · rw [opened]
    simp only [transport, Config.listen, Tcp.Config.listen]
    cases os.listen tcp addr <;> rfl
  · rw [opened] at ok
    obtain ⟨inner, inside, rfl⟩ := Except.map_eq_ok.mp ok
    obtain ⟨tcpListener, -, polled⟩ := pollsOf_listen (Except.mapError_eq_ok.mp inside) n
    exact ⟨_, by rw [forwards.pollsOf (n + 1) (related inner), polled]; rfl,
      conforms_lift g ls.err (conforms_served tg websocket _ _)⟩

/-- `ws::Config::new().upgrade().authenticate(auth).multiplex(mux)`, the stack the ws-echo
example dials with. -/
def echoStack {X P D M EA EM : Type} (os : Os S E) (tg : Tungstenite K S E) (tcp : Tcp.Config)
    (websocket : K) (auth : Stage X tg.RwStreamSink (P × D) EA) (mux : Stage X D M EM) :
    Transport (P × M) (Either (Either tg.Error (UpgradeError X EA)) (UpgradeError X EM)) :=
  AuthenticatedBuilder.multiplex (Builder.authenticate (transport os tg tcp websocket) auth) mux

/-- An authentication stage that negotiates `/auth` at once and gives the unit peer id. -/
def authReady : Stage Unit Unit (Unit × Unit) Empty := readyStage "/auth" fun io => ((), io)

/-- A muxer stage that negotiates `/mux` at once. -/
def muxReady : Stage Unit Unit Unit Empty := readyStage "/mux" id

/-- The dialing side of the ws-echo stack: a dial future `connect` returned runs the TCP dial, the
WebSocket client handshake with the request built from the address, then the authentication
stage and then the muxer stage, both through `new_outbound`. -/
theorem ws_echo_client_runs_every_stage {X P D M EA EM : Type} (os : Os S E)
    (tg : Tungstenite K S E) (tcp : Tcp.Config) (websocket : K)
    (auth : Stage X tg.RwStreamSink (P × D) EA) (mux : Stage X D M EM)
    (authRuns : ∀ role, auth.Runs role) (muxRuns : ∀ role, mux.Runs role) (addr : SocketAddr)
    (dialer : (echoStack os tg tcp websocket auth mux).Dialer)
    (dialed : (echoStack os tg tcp websocket auth mux).connect addr = .ok dialer) :
    ∃ request, tg.build "ws" (tg.display addr) "/" = .ok request ∧
      Behaves (echoStack os tg tcp websocket auth mux).pollDialer dialer
        (AuthenticatedBuilder.multiplexSpec mux .dialer
          (AndThenFuture.spec
            (Chain.run tg (fun stream => tg.clientAsyncWithConfig request stream (some websocket))
              (fun (s, _) => tg.bytesWebSocketStream s) (os.connect addr))
            (auth.spec .dialer))) := by
  obtain ⟨wrap, connected, runs⟩ :=
    ((Builder.authenticate_wraps (transport os tg tcp websocket) auth authRuns).trans
      (AuthenticatedBuilder.multiplex_wraps _ mux muxRuns)).connect addr
  unfold echoStack at dialed ⊢
  rw [connected] at dialed
  obtain ⟨inner, inside, rfl⟩ := Except.map_eq_ok.mp dialed
  obtain ⟨request, built, behaves⟩ := connect_ok (Except.mapError_eq_ok.mp inside)
  exact ⟨request, built, runs _ _ behaves⟩

theorem instant_echo_client_runs :
    (∀ role, authReady.Runs role) ∧ (∀ role, muxReady.Runs role) ∧
      ∃ dialer, (echoStack acceptsOnce instant Tcp.Config.new () authReady muxReady).connect
          ⟨.v4 0, 80⟩ = .ok dialer ∧
        ∃ request, instant.build "ws" (instant.display ⟨.v4 0, 80⟩) "/" = .ok request ∧
          Behaves (echoStack acceptsOnce instant Tcp.Config.new () authReady muxReady).pollDialer dialer
            (AuthenticatedBuilder.multiplexSpec muxReady .dialer
              (AndThenFuture.spec
                (Chain.run instant (fun stream => instant.clientAsyncWithConfig request stream (some ()))
                  (fun (s, _) => instant.bytesWebSocketStream s) (acceptsOnce.connect ⟨.v4 0, 80⟩))
                (authReady.spec .dialer))) :=
  ⟨readyStage_runs _ _, readyStage_runs _ _, _, rfl,
    ws_echo_client_runs_every_stage acceptsOnce instant Tcp.Config.new () authReady muxReady
      (readyStage_runs _ _) (readyStage_runs _ _) ⟨.v4 0, 80⟩ _ rfl⟩

end Airio.Tcp.Ws
