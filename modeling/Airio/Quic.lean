import Airio.Socket

/-! airio-quic: the stream muxer over a quinn connection and the listener stream over a quinn
endpoint. Each quinn future is stored inside a boxed `async move { ... .await }` block; what
quinn and the socket layer return enters as the environment `Quinn`. A quinn connection or
endpoint is shared state behind its handle, so successive `accept_bi`, `open_bi` and `accept`
futures made on one may run differently: they are indexed by how many came before, and the model
keeps these counts beside the fields of the Rust structs. -/
namespace Airio.Quic

/-- quinn and the socket layer, as far as airio-quic uses them. The `n`th `accept_bi`, `open_bi`
or `accept` future made on a connection or an endpoint, counting from 0, runs as `acceptBi c n`,
`openBi c n` or `accept e n`; `localAddr` is std's `UdpSocket::local_addr`, the address the
system bound the socket to. -/
structure Quinn : Type 1 where
  Connection : Type
  ConnectionError : Type
  ConnectError : Type
  IoError : Type
  ErrorKind : Type
  SendStream : Type
  RecvStream : Type
  Endpoint : Type
  Incoming : Type
  Connecting : Type
  acceptBi : Connection → Nat → Fut (Except ConnectionError (SendStream × RecvStream))
  openBi : Connection → Nat → Fut (Except ConnectionError (SendStream × RecvStream))
  closed : Connection → Fut ConnectionError
  isLocallyClosed : ConnectionError → Bool
  socket2 : Socket2 IoError
  localAddr : Socket → Except IoError SocketAddr
  newEndpoint : Socket → Except IoError Endpoint
  accept : Endpoint → Nat → Fut (Option Incoming)
  acceptIncoming : Incoming → Except ConnectionError Connecting
  remoteAddress : Connecting → SocketAddr

/-- quinn once the peer has gone: every `accept_bi` and `open_bi` fails at once, and the
endpoint, bound to `127.0.0.1:4433`, accepts nothing more. -/
def peerGone : Quinn where
  Connection := Unit
  ConnectionError := Unit
  ConnectError := Unit
  IoError := Unit
  ErrorKind := Unit
  SendStream := Unit
  RecvStream := Unit
  Endpoint := Unit
  Incoming := Unit
  Connecting := Unit
  acceptBi _ _ := .ready (.error ())
  openBi _ _ := .ready (.error ())
  closed _ := .ready ()
  isLocallyClosed _ := false
  socket2 := ⟨fun _ _ _ => none, fun _ _ => none⟩
  localAddr _ := .ok ⟨.v4 0x7f000001, 4433⟩
  newEndpoint _ := .ok ()
  accept _ _ := .ready none
  acceptIncoming _ := .error ()
  remoteAddress _ := ⟨.v4 0x7f000001, 4433⟩

variable {quinn : Quinn}

/-- airio-quic's `create_socket`: a UDP socket of the address's family, IPv6-only for an IPv6
address, bound to the address. -/
def createSocket {E : Type} (net : Socket2 E) (socketAddr : SocketAddr) : Except E Socket := do
  let socket ← net.new (Domain.forAddress socketAddr) .dgram (some .udp)
  let socket ← if socketAddr.isIpv6 then net.call socket (.setOnlyV6 true) else pure socket
  let socket ← net.call socket (.bind socketAddr)
  pure socket

inductive Error (quinn : Quinn) : Type where
  | connect (e : quinn.ConnectError)
  | connection (e : quinn.ConnectionError)
  | io (e : quinn.IoError)
  | handshakeTimedOut

structure Stream (quinn : Quinn) where
  send : quinn.SendStream
  recv : quinn.RecvStream
  closeResult : Option (Except quinn.ErrorKind Unit)

def Stream.new (send : quinn.SendStream) (recv : quinn.RecvStream) : Stream quinn :=
  { send, recv, closeResult := none }

/-- The boxed block `async move { connection.accept_bi().await }` (or `open_bi`), capturing the
connection and the index of the future it makes. -/
abbrev BiBlock (quinn : Quinn) :=
  AsyncBlock (quinn.Connection × Nat)
    (Fut (Except quinn.ConnectionError (quinn.SendStream × quinn.RecvStream)))

structure Connection (quinn : Quinn) where
  connection : quinn.Connection
  incoming : Option (BiBlock quinn)
  outgoing : Option (BiBlock quinn)
  closing : Option (AsyncBlock quinn.Connection (Fut quinn.ConnectionError))
  /-- How many `accept_bi` futures, and `open_bi` futures, the connection has made. -/
  accepted : Nat
  opened : Nat

namespace Connection

def new (connection : quinn.Connection) : Connection quinn :=
  { connection, incoming := none, outgoing := none, closing := none, accepted := 0, opened := 0 }

/-- One of the two stream slots of a connection: its block with the count of futures it made,
read and written back, with the laws of a record field. -/
structure Slot (quinn : Quinn) where
  get : Connection quinn → Option (BiBlock quinn) × Nat
  set : Connection quinn → Option (BiBlock quinn) × Nat → Connection quinn
  get_set : ∀ this slot, get (set this slot) = slot
  set_get : ∀ this, set this (get this) = this
  set_set : ∀ this slot slot', set (set this slot) slot' = set this slot'
  connection_set : ∀ this slot, (set this slot).connection = this.connection

def Slot.incoming : Slot quinn where
  get this := (this.incoming, this.accepted)
  set this slot := { this with incoming := slot.1, accepted := slot.2 }
  get_set _ _ := rfl
  set_get _ := rfl
  set_set _ _ _ := rfl
  connection_set _ _ := rfl

def Slot.outgoing : Slot quinn where
  get this := (this.outgoing, this.opened)
  set this slot := { this with outgoing := slot.1, opened := slot.2 }
  get_set _ _ := rfl
  set_get _ := rfl
  set_set _ _ _ := rfl
  connection_set _ _ := rfl

def Slot.getOrInsert (slot : Slot quinn) (this : Connection quinn) : BiBlock quinn × Nat :=
  match slot.get this with
  | (some block, made) => (block, made)
  | (none, made) => (.unresumed (this.connection, made), made + 1)

/-- The body `poll_inbound` and `poll_outbound` share: poll the slot's block, and clear the slot
once it gave a stream. -/
def pollStream (start : quinn.Connection → Nat →
      Fut (Except quinn.ConnectionError (quinn.SendStream × quinn.RecvStream)))
    (slot : Slot quinn) : PollFn (Connection quinn) (Except (Error quinn) (Stream quinn)) :=
  fun this => do
    let (block, made) := slot.getOrInsert this
    let (r, block) ← block.poll (fun captured => start captured.1 captured.2) Fut.poll
    let this := slot.set this (some block, made)
    match r with
    | .pending => pure (.pending, this)
    | .ready (.error e) => pure (.ready (.error (.connection e)), this)
    | .ready (.ok (send, recv)) =>
      let this := slot.set this (none, made)
      pure (.ready (.ok (Stream.new send recv)), this)

def pollInbound (quinn : Quinn) : PollFn (Connection quinn) (Except (Error quinn) (Stream quinn)) :=
  pollStream quinn.acceptBi Slot.incoming

def pollOutbound (quinn : Quinn) : PollFn (Connection quinn) (Except (Error quinn) (Stream quinn)) :=
  pollStream quinn.openBi Slot.outgoing

def pollClose (quinn : Quinn) : PollFn (Connection quinn) (Except (Error quinn) Unit) := fun this => do
  let closing := this.closing.getD (.unresumed this.connection)
  let (r, closing) ← closing.poll quinn.closed Fut.poll
  let this := { this with closing := some closing }
  match r with
  | .pending => pure (.pending, this)
  | .ready err =>
    if quinn.isLocallyClosed err then pure (.ready (.ok ()), this)
    else pure (.ready (.error (.connection err)), this)

def received : Except quinn.ConnectionError (quinn.SendStream × quinn.RecvStream) →
    Except (Error quinn) (Stream quinn)
  | .ok (send, recv) => .ok (Stream.new send recv)
  | .error e => .error (.connection e)

/-- What a slot's poller sees of the futures `k, …, k + m - 1` made on `connection`: each one's
`Pending`s, then the stream or the error it gives. -/
def served (start : quinn.Connection → Nat →
      Fut (Except quinn.ConnectionError (quinn.SendStream × quinn.RecvStream)))
    (connection : quinn.Connection) (k m : Nat) : List (Poll (Except (Error quinn) (Stream quinn))) :=
  (List.range' k m).flatMap fun n => (start connection n).polls.map (Poll.map received)

theorem served_succ (start : quinn.Connection → Nat →
      Fut (Except quinn.ConnectionError (quinn.SendStream × quinn.RecvStream)))
    (connection : quinn.Connection) (k m : Nat) :
    served start connection k (m + 1) =
      served start connection k m ++ (start connection (k + m)).polls.map (Poll.map received) := by
  rw [served, served, List.range'_concat, List.flatMap_append, List.flatMap_singleton, Nat.one_mul]

section Slot
variable (start : quinn.Connection → Nat →
    Fut (Except quinn.ConnectionError (quinn.SendStream × quinn.RecvStream))) {slot : Slot quinn}

theorem getOrInsert_live {this : Connection quinn} (live : (slot.get this).1 ≠ some .returned) :
    (slot.getOrInsert this).1 ≠ .returned := by
  unfold Slot.getOrInsert
  split
  · rename_i block made got
    rw [got] at live
    exact fun returned => live (congrArg some returned)
  · exact AsyncBlock.noConfusion

/-- What a poll of a slot that holds no returned block does: the block is polled and written
back with the count, and `Pending` leaves it waiting, a stream clears the slot, and an error
leaves the returned block in it. -/
theorem pollStream_cases (this : Connection quinn) (live : (slot.get this).1 ≠ some .returned) :
    ∃ made, (∃ d, pollStream start slot this = .ok (.pending, slot.set this (some (.suspended d), made))) ∨
      (∃ s, pollStream start slot this = .ok (.ready (.ok s), slot.set this (none, made))) ∨
      ∃ e, pollStream start slot this = .ok (.ready (.error e), slot.set this (some .returned, made)) := by
  have unfinished := getOrInsert_live live
  rcases taken : slot.getOrInsert this with ⟨block, made⟩
  rw [taken] at unfinished
  refine ⟨made, ?_⟩
  rcases AsyncBlock.poll_fut (fun captured => start captured.1 captured.2) block unfinished with
    ⟨d, polled⟩ | ⟨(e | ⟨send, recv⟩), polled⟩
  · exact .inl ⟨d, by simp only [pollStream, taken, polled]; rfl⟩
  · exact .inr (.inr ⟨_, by simp only [pollStream, taken, polled]; rfl⟩)
  · exact .inr (.inl ⟨_, by simp only [pollStream, taken, polled, slot.set_set]; rfl⟩)

/-- A slot left holding the returned block panics on the next poll: the `?` on an error returns
before the slot is cleared. -/
theorem pollStream_returned (this : Connection quinn) (returned : (slot.get this).1 = some .returned) :
    pollStream start slot this = .error "`async fn` resumed after completion" := by
  rcases got : slot.get this with ⟨_ | block, made⟩ <;> rw [got] at returned <;> cases returned
  simp [pollStream, Slot.getOrInsert, got, bind, Except.bind]

theorem pollStream_failed {this this' : Connection quinn} {err : Error quinn}
    (failed : pollStream start slot this = .ok (.ready (.error err), this')) :
    (slot.get this').1 = some .returned := by
  by_cases returned : (slot.get this).1 = some .returned
  · rw [pollStream_returned start this returned] at failed
    cases failed
  · obtain ⟨made, ⟨_, polled⟩ | ⟨_, polled⟩ | ⟨_, polled⟩⟩ := pollStream_cases start this returned <;>
      rw [polled] at failed <;> cases failed
    rw [slot.get_set]

end Slot

theorem pollClose_cases (this : Connection quinn) (live : this.closing ≠ some .returned) :
    (∃ d, pollClose quinn this = .ok (.pending, { this with closing := some (.suspended d) })) ∨
      ∃ r, pollClose quinn this = .ok (.ready r, { this with closing := some .returned }) := by
  have unfinished : this.closing.getD (.unresumed this.connection) ≠ .returned := by
    cases slot : this.closing with
    | none => simp
    | some block => simpa [slot] using live
  rcases AsyncBlock.poll_fut quinn.closed _ unfinished with ⟨d, polled⟩ | ⟨err, polled⟩
  · exact .inl ⟨d, by simp only [pollClose, polled]; rfl⟩
  · refine .inr ⟨if quinn.isLocallyClosed err then .ok () else .error (.connection err), ?_⟩
    simp only [pollClose, polled, bind, Except.bind, pure, Except.pure]
    split <;> rfl

inductive Call where
  | inbound
  | outbound
  | close
  deriving DecidableEq, Repr

inductive Outcome where
  | pending
  | ok
  | err
  deriving DecidableEq, Repr

def Outcome.of {ε α : Type} : Poll (Except ε α) → Outcome
  | .pending => .pending
  | .ready (.ok _) => .ok
  | .ready (.error _) => .err

def call (quinn : Quinn) : Call → Connection quinn → Except String (Outcome × Connection quinn)
  | .inbound, this => (fun (r, this) => (Outcome.of r, this)) <$> pollInbound quinn this
  | .outbound, this => (fun (r, this) => (Outcome.of r, this)) <$> pollOutbound quinn this
  | .close, this => (fun (r, this) => (Outcome.of r, this)) <$> pollClose quinn this

def finished : Call → Connection quinn → Bool
  | .inbound, this => AsyncBlock.isReturned this.incoming
  | .outbound, this => AsyncBlock.isReturned this.outgoing
  | .close, this => AsyncBlock.isReturned this.closing

def completes : Call → Outcome → Bool
  | .close, outcome => outcome != .pending
  | _, outcome => outcome == .err

/-! The contract the muxer keeps with its callers, stated over which slots have finished: a call
on a finished slot panics, and any other call returns an outcome and finishes its slot exactly
when that outcome completes it. -/
namespace Contract

def step (done : Call → Bool) (c : Call) (outcome : Outcome) : Option (Call → Bool) :=
  if done c then none else some fun other => if other = c then completes c outcome else done other

def run (done : Call → Bool) : List (Call × Outcome) → Option (Call → Bool)
  | [] => some done
  | (c, outcome) :: rest => (step done c outcome).bind (run · rest)

theorem step_keeps {done done' : Call → Bool} {c c' : Call} {outcome : Outcome}
    (stepped : step done c outcome = some done') (finished : done c' = true) : done' c' = true := by
  unfold step at stepped
  split at stepped
  · cases stepped
  · rename_i live
    cases stepped
    have other : c' ≠ c := fun same => live (same ▸ finished)
    simp only [if_neg other, finished]

end Contract

def runLive (quinn : Quinn) : List Call → Connection quinn → Except String (List Outcome)
  | [], _ => .ok []
  | c :: calls, this =>
    if finished c this then .ok []
    else match call quinn c this with
      | .error msg => .error msg
      | .ok (outcome, this') => (outcome :: ·) <$> runLive quinn calls this'

def run (quinn : Quinn) : List Call → Connection quinn →
    Except String (List Outcome × Connection quinn)
  | [], this => .ok ([], this)
  | c :: calls, this =>
    match call quinn c this with
    | .error msg => .error msg
    | .ok (outcome, this) =>
      match run quinn calls this with
      | .error msg => .error msg
      | .ok (outcomes, this) => .ok (outcome :: outcomes, this)

theorem call_finished {c : Call} {this : Connection quinn} (done : finished c this = true) :
    call quinn c this = .error "`async fn` resumed after completion" := by
  cases c <;> rw [finished, AsyncBlock.isReturned_iff] at done
  · simp only [call, pollInbound, pollStream_returned quinn.acceptBi this (show (Slot.incoming.get this).1 = some .returned from done)]; rfl
  · simp only [call, pollOutbound, pollStream_returned quinn.openBi this (show (Slot.outgoing.get this).1 = some .returned from done)]; rfl
  · simp only [call, pollClose, done, Option.getD_some, AsyncBlock.poll_returned]; rfl

/-- A call on a slot that has not finished never panics; it finishes its slot exactly when its
outcome completes it, and leaves the other two slots as they were. -/
theorem call_step (c : Call) (this : Connection quinn) (live : finished c this = false) :
    ∃ outcome this', call quinn c this = .ok (outcome, this') ∧
      finished c this' = completes c outcome ∧
      ∀ other, other ≠ c → finished other this' = finished other this := by
  cases c with
  | inbound =>
    obtain ⟨made, ⟨d, polled⟩ | ⟨s, polled⟩ | ⟨e, polled⟩⟩ :=
      pollStream_cases quinn.acceptBi this
        (show (Slot.incoming.get this).1 ≠ some .returned from AsyncBlock.ne_returned live) <;>
    refine ⟨_, _, by simp only [call, pollInbound, polled]; rfl, by rfl, fun other ne => ?_⟩ <;>
    cases other <;> first | rfl | exact absurd rfl ne
  | outbound =>
    obtain ⟨made, ⟨d, polled⟩ | ⟨s, polled⟩ | ⟨e, polled⟩⟩ :=
      pollStream_cases quinn.openBi this
        (show (Slot.outgoing.get this).1 ≠ some .returned from AsyncBlock.ne_returned live) <;>
    refine ⟨_, _, by simp only [call, pollOutbound, polled]; rfl, by rfl, fun other ne => ?_⟩ <;>
    cases other <;> first | rfl | exact absurd rfl ne
  | close =>
    rcases pollClose_cases this (AsyncBlock.ne_returned live) with ⟨d, polled⟩ | ⟨e | u, polled⟩ <;>
    refine ⟨_, _, by simp only [call, polled]; rfl, by rfl, fun other ne => ?_⟩ <;>
    cases other <;> first | rfl | exact absurd rfl ne

theorem call_error {c : Call} {this : Connection quinn} {msg : String}
    (failed : call quinn c this = .error msg) :
    finished c this = true ∧ msg = "`async fn` resumed after completion" := by
  cases done : finished c this
  · obtain ⟨_, _, called, -⟩ := call_step c this done
    rw [called] at failed
    cases failed
  · rw [call_finished done] at failed
    cases failed
    exact ⟨rfl, rfl⟩

theorem call_refines {c : Call} {this this' : Connection quinn} {outcome : Outcome}
    (called : call quinn c this = .ok (outcome, this')) :
    Contract.step (finished · this) c outcome = some (finished · this') := by
  cases done : finished c this
  · obtain ⟨_, _, called', finishes, frame⟩ := call_step c this done
    rw [called] at called'
    cases called'
    simp only [Contract.step, done, Bool.false_eq_true, if_false, Option.some.injEq]
    funext other
    by_cases same : other = c
    · rw [if_pos same, same, finishes]
    · rw [if_neg same, frame other same]
  · rw [call_finished done] at called
    cases called

/-- A run that returns refines a run of the contract on the outcomes it returned. -/
theorem run_refines {calls : List Call} {this this' : Connection quinn} {outcomes : List Outcome}
    (ran : run quinn calls this = .ok (outcomes, this')) :
    Contract.run (finished · this) (calls.zip outcomes) = some (finished · this') := by
  induction calls generalizing this outcomes with
  | nil =>
    cases ran
    rfl
  | cons c calls ih =>
    cases called : call quinn c this with
    | error msg => simp only [run, called] at ran; cases ran
    | ok step =>
      obtain ⟨outcome, this₁⟩ := step
      cases rest : run quinn calls this₁ with
      | error msg => simp only [run, called, rest] at ran; cases ran
      | ok tail =>
        simp only [run, called, rest] at ran
        cases ran
        rw [List.zip_cons_cons, Contract.run, call_refines called, Option.some_bind, ih rest]

theorem peerGone_run_refines :
    run peerGone [.inbound, .close] (new ()) =
        .ok ([.err, .err], ⟨(), some .returned, none, some .returned, 1, 0⟩) ∧
      Contract.run (finished · (new () : Connection peerGone)) ([.inbound, .close].zip [.err, .err]) =
        some (finished · (⟨(), some .returned, none, some .returned, 1, 0⟩ : Connection peerGone)) :=
  ⟨rfl, run_refines rfl⟩

/-- Once a slot has finished, every run that calls it again panics, whatever calls on the other
slots come first. -/
theorem run_finished {c : Call} {this : Connection quinn} (done : finished c this = true)
    {calls : List Call} (again : c ∈ calls) :
    run quinn calls this = .error "`async fn` resumed after completion" := by
  induction calls generalizing this with
  | nil => cases again
  | cons c' calls ih =>
    rcases called : call quinn c' this with msg | ⟨outcome, this₁⟩
    · simp only [run, called, (call_error called).2]
    · have stays : finished c this₁ = true := Contract.step_keeps (call_refines called) done
      have later : c ∈ calls := by
        rcases List.mem_cons.mp again with same | later
        · subst same
          rw [call_finished done] at called
          cases called
        · exact later
      simp only [run, called, ih stays later]

theorem peerGone_inbound_again_panics :
    finished .inbound (⟨(), some .returned, none, none, 1, 0⟩ : Connection peerGone) = true ∧
      Call.inbound ∈ [.close, .inbound] ∧
      run peerGone [.close, .inbound] ⟨(), some .returned, none, none, 1, 0⟩ =
        .error "`async fn` resumed after completion" :=
  ⟨rfl, by simp, @run_finished peerGone .inbound ⟨(), some .returned, none, none, 1, 0⟩ rfl _ (by simp)⟩

/-- However the three calls interleave, a run never panics before it makes a call on a finished
slot. -/
theorem runLive_ok (calls : List Call) (this : Connection quinn) :
    ∃ outcomes, runLive quinn calls this = .ok outcomes := by
  induction calls generalizing this with
  | nil => exact ⟨[], rfl⟩
  | cons c calls ih =>
    cases done : finished c this
    · obtain ⟨outcome, this', called, -⟩ := call_step c this done
      obtain ⟨outcomes, ran⟩ := ih this'
      exact ⟨outcome :: outcomes, by simp only [runLive, done, called, ran]; rfl⟩
    · exact ⟨[], by simp only [runLive, done]; rfl⟩

end Connection

/-- `airio_quic::Connecting` as `Connecting::new` builds it: the quinn handshake and the timeout
it is raced against. -/
structure Connecting (quinn : Quinn) where
  connecting : quinn.Connecting
  handshakeTimeout : Nat

/-- Of `airio_quic::Config`'s fields, what `listen` and `connect` read besides quinn's own
configs. -/
structure Config where
  handshakeTimeout : Nat

/-- `Config::new` is `todo!()`. -/
def Config.new : Except String Config := .error "not yet implemented"

/-- The listener: the bound address, the endpoint, the boxed block
`async move { endpoint.accept().await }` capturing the endpoint and the index of the future it
makes, and how many `accept` futures it has made. -/
structure ListenerStream (quinn : Quinn) where
  localAddr : SocketAddr
  endpoint : quinn.Endpoint
  accept : AsyncBlock (quinn.Endpoint × Nat) (Fut (Option quinn.Incoming))
  handshakeTimeout : Nat
  accepts : Nat

def Config.listen (quinn : Quinn) (self : Config) (addr : SocketAddr) :
    Except (Error quinn) (ListenerStream quinn) := do
  let socket ← (createSocket quinn.socket2 addr).mapError .io
  let localAddr ← (quinn.localAddr socket).mapError .io
  let endpoint ← (quinn.newEndpoint socket).mapError .io
  let accept := AsyncBlock.unresumed (endpoint, 0)
  pure { localAddr, endpoint, accept, handshakeTimeout := self.handshakeTimeout, accepts := 1 }

theorem Config.listen_ok {self : Config} {addr : SocketAddr} {stream : ListenerStream quinn}
    (listened : Config.listen quinn self addr = .ok stream) :
    ∃ socket, createSocket quinn.socket2 addr = .ok socket ∧ quinn.localAddr socket = .ok stream.localAddr ∧
      quinn.newEndpoint socket = .ok stream.endpoint ∧
      stream = ⟨stream.localAddr, stream.endpoint, .unresumed (stream.endpoint, 0), self.handshakeTimeout, 1⟩ := by
  obtain ⟨socket, created, rest⟩ := Except.bind_eq_ok.mp listened
  obtain ⟨localAddr, bound, rest⟩ := Except.bind_eq_ok.mp rest
  obtain ⟨endpoint, made, rest⟩ := Except.bind_eq_ok.mp rest
  cases rest
  exact ⟨socket, Except.mapError_eq_ok.mp created, Except.mapError_eq_ok.mp bound,
    Except.mapError_eq_ok.mp made, rfl⟩

namespace ListenerStream

abbrev Event (quinn : Quinn) := ListenerEvent (Connecting quinn) (Error quinn)

abbrev Step (quinn : Quinn) :=
  Pass (ListenerStream quinn) (Poll (Option (Event quinn)) × ListenerStream quinn)

def pass (quinn : Quinn) (self : ListenerStream quinn) : Except String (Step quinn) := do
  let (r, accept) ← self.accept.poll (fun captured => quinn.accept captured.1 captured.2) Fut.poll
  let self := { self with accept }
  match r with
  | .ready (some incoming) =>
    let endpoint := self.endpoint
    let self := { self with accept := .unresumed (endpoint, self.accepts), accepts := self.accepts + 1 }
    match quinn.acceptIncoming incoming with
    | .ok connecting =>
      let event := ListenerEvent.incoming self.localAddr (quinn.remoteAddress connecting)
        ⟨connecting, self.handshakeTimeout⟩
      pure (.exit (.ready (some event), self))
    | .error e => pure (.exit (.ready (some (.error (.connection e))), self))
  | .ready none => pure (.again self)
  | .pending => pure (.exit (.pending, self))

def rank (self : ListenerStream quinn) : Nat :=
  match self.accept with
  | .returned => 0
  | _ => 1

def incomingEvent (quinn : Quinn) (localAddr : SocketAddr) (timeout : Nat) (incoming : quinn.Incoming) :
    Event quinn :=
  match quinn.acceptIncoming incoming with
  | .ok connecting => .incoming localAddr (quinn.remoteAddress connecting) ⟨connecting, timeout⟩
  | .error e => .error (.connection e)

theorem incomingEvent_ne_listened {localAddr : SocketAddr} {timeout : Nat} {incoming : quinn.Incoming}
    (addr : SocketAddr) : incomingEvent quinn localAddr timeout incoming ≠ .listened addr := by
  unfold incomingEvent
  split <;> exact ListenerEvent.noConfusion

section Pass
variable {self : ListenerStream quinn} {accept : AsyncBlock (quinn.Endpoint × Nat) (Fut (Option quinn.Incoming))}

theorem pass_pending
    (polled : self.accept.poll (fun captured => quinn.accept captured.1 captured.2) Fut.poll = .ok (.pending, accept)) :
    pass quinn self = .ok (.exit (.pending, { self with accept })) := by
  simp only [pass, polled, bind, Except.bind]
  rfl

theorem pass_some {incoming : quinn.Incoming}
    (polled : self.accept.poll (fun captured => quinn.accept captured.1 captured.2) Fut.poll =
      .ok (.ready (some incoming), accept)) :
    pass quinn self = .ok (.exit (.ready (some (incomingEvent quinn self.localAddr self.handshakeTimeout incoming)),
      { self with accept := .unresumed (self.endpoint, self.accepts), accepts := self.accepts + 1 })) := by
  simp only [pass, polled, bind, Except.bind, incomingEvent]
  cases quinn.acceptIncoming incoming <;> rfl

theorem pass_none
    (polled : self.accept.poll (fun captured => quinn.accept captured.1 captured.2) Fut.poll =
      .ok (.ready none, accept)) :
    pass quinn self = .ok (.again { self with accept }) := by
  simp only [pass, polled, bind, Except.bind]
  rfl

end Pass

/-- What one pass can do: panic, leave with `Pending`, leave with the event of an incoming
connection and a fresh accept block, or, after the accept block returned `None`, go round with it
returned. -/
theorem pass_cases (self : ListenerStream quinn) :
    (∃ msg, pass quinn self = .error msg) ∨
    (∃ accept, pass quinn self = .ok (.exit (.pending, { self with accept }))) ∨
    (∃ incoming, pass quinn self =
      .ok (.exit (.ready (some (incomingEvent quinn self.localAddr self.handshakeTimeout incoming)),
        { self with accept := .unresumed (self.endpoint, self.accepts), accepts := self.accepts + 1 }))) ∨
    (self.accept ≠ .returned ∧ pass quinn self = .ok (.again { self with accept := .returned })) := by
  rcases polled : self.accept.poll (fun captured => quinn.accept captured.1 captured.2) Fut.poll with
    msg | ⟨(_ | incoming) | _, accept⟩
  · exact .inl ⟨msg, by simp only [pass, polled, bind, Except.bind]⟩
  · obtain rfl := AsyncBlock.poll_ready_returned polled
    refine .inr (.inr (.inr ⟨fun returned => ?_, pass_none polled⟩))
    rw [returned] at polled
    cases polled
  · exact .inr (.inr (.inl ⟨incoming, pass_some polled⟩))
  · exact .inr (.inl ⟨accept, pass_pending polled⟩)

theorem pass_again {self self' : ListenerStream quinn}
    (went : pass quinn self = .ok (.again self')) :
    self.accept ≠ .returned ∧ self'.accept = .returned := by
  rcases pass_cases self with ⟨_, left⟩ | ⟨_, left⟩ | ⟨_, left⟩ | ⟨live, left⟩ <;>
    rw [went] at left <;> cases left
  exact ⟨live, rfl⟩

def pollNext (quinn : Quinn) : PollFn (ListenerStream quinn) (Option (Event quinn)) :=
  loop (pass quinn) rank fun _ _ went => by
    obtain ⟨before, after⟩ := pass_again went
    simp only [rank, after]
    exact Nat.zero_lt_one

theorem pass_never_listened (self : ListenerStream quinn) (r : Poll (Option (Event quinn)))
    (self' : ListenerStream quinn) (left : pass quinn self = .ok (.exit (r, self'))) :
    ∀ addr, r ≠ .ready (some (.listened addr)) := by
  intro addr listened
  subst listened
  rcases pass_cases self with ⟨_, went⟩ | ⟨_, went⟩ | ⟨incoming, went⟩ | ⟨_, went⟩ <;>
    rw [left] at went
  · cases went
  · cases went
  · simp only [Except.ok.injEq, Pass.exit.injEq, Prod.mk.injEq, Poll.ready.injEq, Option.some.injEq] at went
    exact incomingEvent_ne_listened addr went.1.symm
  · cases went

theorem pollNext_never_listened (self : ListenerStream quinn) (r : Poll (Option (Event quinn)))
    (self' : ListenerStream quinn) (polled : pollNext quinn self = .ok (r, self')) :
    ∀ addr, r ≠ .ready (some (.listened addr)) := by
  obtain ⟨s, left⟩ := loop_exited _ _ polled
  exact pass_never_listened s r self' left

/-- When the accept block returns `None` (the endpoint is closed), `continue` polls it again
and the poll panics. -/
theorem pollNext_none {self : ListenerStream quinn} {accept : AsyncBlock (quinn.Endpoint × Nat) (Fut (Option quinn.Incoming))}
    (polled : self.accept.poll (fun captured => quinn.accept captured.1 captured.2) Fut.poll =
      .ok (.ready none, accept)) :
    pollNext quinn self = .error "`async fn` resumed after completion" := by
  obtain rfl := AsyncBlock.poll_ready_returned polled
  rw [pollNext, loop_again (pass_none polled)]
  exact loop_error (by simp only [pass, AsyncBlock.poll_returned, bind, Except.bind])

/-- What the listener's poller sees of the endpoint's accept futures `k, …, k + m - 1`: each
one's `Pending`s, then the event of the connection it gives. -/
def served (quinn : Quinn) (self : ListenerStream quinn) (k m : Nat) : List (Poll (Option (Event quinn))) :=
  (List.range' k m).flatMap fun n => (quinn.accept self.endpoint n).polls.map
    (Poll.map (Option.map (incomingEvent quinn self.localAddr self.handshakeTimeout)))

theorem served_succ (quinn : Quinn) (self : ListenerStream quinn) (k m : Nat) :
    served quinn self k (m + 1) = served quinn self k m ++ (quinn.accept self.endpoint (k + m)).polls.map
      (Poll.map (Option.map (incomingEvent quinn self.localAddr self.handshakeTimeout))) := by
  rw [served, served, List.range'_concat, List.flatMap_append, List.flatMap_singleton, Nat.one_mul]

theorem pollNext_suspended (d : Fut (Option quinn.Incoming)) (self : ListenerStream quinn)
    (holds : self.accept = .suspended d) (gives : ∃ incoming, d.result = some incoming) :
    Polls (pollNext quinn) self
      (d.polls.map (Poll.map (Option.map (incomingEvent quinn self.localAddr self.handshakeTimeout))))
      { self with accept := .unresumed (self.endpoint, self.accepts), accepts := self.accepts + 1 } := by
  induction d generalizing self with
  | ready r =>
    obtain ⟨incoming, rfl⟩ := gives
    exact .cons (loop_exit (pass_some (by rw [holds]; rfl))) (.nil _)
  | pending next ih =>
    exact .cons (loop_exit (pass_pending (by rw [holds]; rfl)))
      (ih { self with accept := .suspended next } rfl gives)

theorem pollNext_fresh_eq (self : ListenerStream quinn) (k : Nat)
    (fresh : self.accept = .unresumed (self.endpoint, k)) :
    pollNext quinn self = pollNext quinn { self with accept := .suspended (quinn.accept self.endpoint k) } :=
  loop_congr (by simp only [pass, fresh]; rfl)

theorem pollNext_serves (m : Nat) (self : ListenerStream quinn) (k : Nat)
    (fresh : self.accept = .unresumed (self.endpoint, k)) (count : self.accepts = k + 1)
    (gives : ∀ i < m, ∃ incoming, (quinn.accept self.endpoint (k + i)).result = some incoming) :
    Polls (pollNext quinn) self (served quinn self k m)
      { self with accept := .unresumed (self.endpoint, k + m), accepts := k + m + 1 } := by
  induction m generalizing self k with
  | zero =>
    obtain ⟨localAddr, endpoint, accept, timeout, accepts⟩ := self
    simp only at fresh count
    subst fresh count
    exact .nil _
  | succ m ih =>
    have head := (pollNext_suspended _ { self with accept := .suspended (quinn.accept self.endpoint k) } rfl
      (gives 0 (Nat.zero_lt_succ m))).of_poll_eq (pollNext_fresh_eq self k fresh)
      (by cases quinn.accept self.endpoint k <;> exact List.cons_ne_nil _ _)
    rw [count] at head
    have tail := ih { self with accept := .unresumed (self.endpoint, k + 1), accepts := k + 1 + 1 } (k + 1)
      rfl rfl fun i lt => by
        show ∃ incoming, (quinn.accept self.endpoint (k + 1 + i)).result = some incoming
        rw [Nat.add_right_comm k 1 i]
        exact gives (i + 1) (Nat.succ_lt_succ lt)
    rw [Nat.add_right_comm k 1 m] at tail
    rw [served, List.range'_succ, List.flatMap_cons]
    exact head.append tail

/-- A listener whose accept block is suspended on a run that resolves `None` panics at the poll
where it resolves: `continue` polls the returned block again. -/
theorem pollNext_suspended_none (d : Fut (Option quinn.Incoming)) (self : ListenerStream quinn)
    (holds : self.accept = .suspended d) (closed : d.result = none) :
    pollsOf (pollNext quinn) d.polls.length self = .error "`async fn` resumed after completion" := by
  induction d generalizing self with
  | ready r =>
    cases closed
    simp only [Fut.polls, List.length_singleton, pollsOf, pollNext_none (by rw [holds]; rfl)]
  | pending next ih =>
    have polled : pollNext quinn self = .ok (.pending, { self with accept := .suspended next }) :=
      loop_exit (pass_pending (by rw [holds]; rfl))
    simp only [Fut.polls, List.length_cons, pollsOf, polled]
    rw [ih { self with accept := .suspended next } rfl closed]
    rfl

theorem pollNext_fresh_none (self : ListenerStream quinn) (k : Nat)
    (fresh : self.accept = .unresumed (self.endpoint, k))
    (closed : (quinn.accept self.endpoint k).result = none) :
    pollsOf (pollNext quinn) (quinn.accept self.endpoint k).polls.length self =
      .error "`async fn` resumed after completion" := by
  have suspended := pollNext_suspended_none _
    { self with accept := .suspended (quinn.accept self.endpoint k) } rfl closed
  obtain ⟨n, long⟩ : ∃ n, (quinn.accept self.endpoint k).polls.length = n + 1 := by
    cases quinn.accept self.endpoint k <;> exact ⟨_, rfl⟩
  rw [long] at suspended ⊢
  rw [pollsOf_congr (pollNext_fresh_eq self k fresh)]
  exact suspended

end ListenerStream

/-- After `poll_inbound` (or `poll_outbound`) returns an error, the next call panics: the `?`
returns before the slot is cleared, so the returned `async` block is polled again. A peer that
has gone makes the first call return the error. -/
theorem quic_poll_after_error_panics :
    (∀ (quinn : Quinn) (this this' : Connection quinn) (err : Error quinn),
      Connection.pollInbound quinn this = .ok (.ready (.error err), this') →
        Connection.pollInbound quinn this' = .error "`async fn` resumed after completion") ∧
    (∀ (quinn : Quinn) (this this' : Connection quinn) (err : Error quinn),
      Connection.pollOutbound quinn this = .ok (.ready (.error err), this') →
        Connection.pollOutbound quinn this' = .error "`async fn` resumed after completion") ∧
    Connection.pollInbound peerGone (Connection.new ()) =
      .ok (.ready (.error (.connection ())), ⟨(), some .returned, none, none, 1, 0⟩) ∧
    Connection.pollOutbound peerGone (Connection.new ()) =
      .ok (.ready (.error (.connection ())), ⟨(), none, some .returned, none, 0, 1⟩) := by
  refine ⟨fun quinn this this' err failed => ?_, fun quinn this this' err failed => ?_, rfl, rfl⟩
  · exact Connection.pollStream_returned _ this' (Connection.pollStream_failed _ failed)
  · exact Connection.pollStream_returned _ this' (Connection.pollStream_failed _ failed)

/-- The QUIC listener never yields `Listened`; and once the endpoint is closed, the accept block
returns `None`, `continue` polls it again and the poll panics. An endpoint closed before the first
poll makes the first `poll_next` panic. -/
theorem quic_listener_skips_listened_and_repolls :
    (∀ (quinn : Quinn) (self self' : ListenerStream quinn) r,
      ListenerStream.pollNext quinn self = .ok (r, self') → ∀ addr, r ≠ .ready (some (.listened addr))) ∧
    (∀ (quinn : Quinn) (config : Config) (addr : SocketAddr) (self : ListenerStream quinn),
      Config.listen quinn config addr = .ok self → quinn.accept self.endpoint 0 = .ready none →
        ListenerStream.pollNext quinn self = .error "`async fn` resumed after completion") ∧
    ∃ self, Config.listen peerGone ⟨10⟩ ⟨.v4 0x7f000001, 4433⟩ = .ok self ∧
      ListenerStream.pollNext peerGone self = .error "`async fn` resumed after completion" := by
  refine ⟨fun quinn self self' r polled => ListenerStream.pollNext_never_listened self r self' polled,
    fun quinn config addr self listened closed => ?_, _, rfl, ListenerStream.pollNext_none rfl⟩
  obtain ⟨-, -, -, -, fresh⟩ := Config.listen_ok listened
  have polled : self.accept.poll (fun captured => quinn.accept captured.1 captured.2) Fut.poll =
      .ok (.ready none, .returned) := by
    rw [fresh]
    show AsyncBlock.resume Fut.poll (quinn.accept self.endpoint 0) = _
    rw [closed]
    rfl
  exact ListenerStream.pollNext_none polled

/-- Over every run of the endpoint's `accept` futures, a QUIC listener hands out one event per
incoming connection, in the order the endpoint's successive futures give them: each future's
`Pending`s, then the `Incoming` (or the error of `Incoming::accept`) of the connection it gives.
The listener is left with a fresh block for the next future; and the first future that resolves
`None` makes `poll_next` panic at the poll where it resolves. -/
theorem quic_listener_serves_accepts_in_order (quinn : Quinn) (config : Config) (addr : SocketAddr)
    (self : ListenerStream quinn) (listened : Config.listen quinn config addr = .ok self) (m : Nat)
    (gives : ∀ i < m, ∃ incoming, (quinn.accept self.endpoint i).result = some incoming) :
    Polls (ListenerStream.pollNext quinn) self (ListenerStream.served quinn self 0 m)
        { self with accept := .unresumed (self.endpoint, m), accepts := m + 1 } ∧
      ((quinn.accept self.endpoint m).result = none →
        pollsOf (ListenerStream.pollNext quinn) (ListenerStream.served quinn self 0 (m + 1)).length self =
          .error "`async fn` resumed after completion") := by
  obtain ⟨-, -, -, -, shape⟩ := Config.listen_ok listened
  have runs := ListenerStream.pollNext_serves m self 0 (congrArg ListenerStream.accept shape)
    (congrArg ListenerStream.accepts shape) fun i lt => by
      rw [Nat.zero_add]
      exact gives i lt
  rw [Nat.zero_add] at runs
  refine ⟨runs, fun closed => ?_⟩
  have last : pollsOf (ListenerStream.pollNext quinn) (quinn.accept self.endpoint m).polls.length
      { self with accept := .unresumed (self.endpoint, m), accepts := m + 1 } =
      .error "`async fn` resumed after completion" :=
    ListenerStream.pollNext_fresh_none { self with accept := .unresumed (self.endpoint, m), accepts := m + 1 }
      m rfl closed
  rw [ListenerStream.served_succ, List.length_append, List.length_map, Nat.zero_add, runs.pollsOf_append,
    last]
  rfl

/-- quinn over an endpoint whose first `accept` gives a connection after one `Pending`, and whose
next one resolves `None`. -/
def oneIncoming : Quinn :=
  { peerGone with
    accept := fun _ n => if n = 0 then .pending (.ready (some ())) else .ready none
    acceptIncoming := fun _ => .ok () }

theorem oneIncoming_served_in_order :
    ∃ self, Config.listen oneIncoming ⟨10⟩ ⟨.v4 0x7f000001, 4433⟩ = .ok self ∧
      (∀ i < 1, ∃ incoming, (oneIncoming.accept self.endpoint i).result = some incoming) ∧
      Polls (ListenerStream.pollNext oneIncoming) self (ListenerStream.served oneIncoming self 0 1)
          { self with accept := .unresumed (self.endpoint, 1), accepts := 1 + 1 } ∧
        ((oneIncoming.accept self.endpoint 1).result = none →
          pollsOf (ListenerStream.pollNext oneIncoming) (ListenerStream.served oneIncoming self 0 (1 + 1)).length
              self = .error "`async fn` resumed after completion") :=
  have gives : ∀ i < 1, ∃ incoming, (oneIncoming.accept () i).result = some incoming := fun i lt => by
    obtain rfl : i = 0 := by omega
    exact ⟨(), rfl⟩
  ⟨_, rfl, gives, quic_listener_serves_accepts_in_order oneIncoming ⟨10⟩ ⟨.v4 0x7f000001, 4433⟩ _ rfl 1 gives⟩

end Airio.Quic
