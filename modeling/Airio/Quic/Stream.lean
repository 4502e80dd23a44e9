import Airio.Quic

/-! airio-quic's `Stream` as `AsyncRead` and `AsyncWrite`: reads, writes and flushes go to
quinn's two halves, and `poll_close` is made fusable by remembering the kind of the first close
result. Every later `poll_close` then gives a result of that kind without polling the send half,
and after a failed close every read reads nothing. -/
namespace Airio.Quic

/-- quinn's `SendStream` and `RecvStream` as `AsyncWrite` and `AsyncRead`, their errors already
turned into `io::Error`, and std's `io::Error::kind` and `From<ErrorKind> for io::Error`, which
gives an error of that kind. -/
structure StreamIo (quinn : Quinn) where
  pollRead : Nat → PollFn quinn.RecvStream (Except quinn.IoError (List UInt8))
  pollWrite : List UInt8 → PollFn quinn.SendStream (Except quinn.IoError Nat)
  pollFlush : PollFn quinn.SendStream (Except quinn.IoError Unit)
  pollClose : PollFn quinn.SendStream (Except quinn.IoError Unit)
  kind : quinn.IoError → quinn.ErrorKind
  ofKind : quinn.ErrorKind → quinn.IoError
  kind_ofKind : ∀ k, kind (ofKind k) = k

theorem StreamIo.mapError_kind_ofKind {quinn : Quinn} (io : StreamIo quinn)
    (c : Except quinn.ErrorKind Unit) : (c.mapError io.ofKind).mapError io.kind = c := by
  cases c with
  | error k => exact congrArg Except.error (io.kind_ofKind k)
  | ok u => rfl

theorem Except.map_snd_eq_ok {ε α β : Type} {x : Except ε (α × β)} {b : β}
    (mapped : Prod.snd <$> x = .ok b) : ∃ a, x = .ok (a, b) := by
  rcases x with e | ⟨a, b'⟩
  · cases mapped
  · cases mapped
    exact ⟨a, rfl⟩

namespace Stream
variable {quinn : Quinn} (io : StreamIo quinn)

/-- `poll_read`, with the bytes it puts in a buffer of `len` bytes: `Ok(0)` once a close has
failed, quinn's `poll_read` otherwise. -/
def pollRead (len : Nat) : PollFn (Stream quinn) (Except quinn.IoError (List UInt8)) := fun self =>
  match self.closeResult with
  | some (.error _) => pure (.ready (.ok []), self)
  | _ => do
    let (r, recv) ← io.pollRead len self.recv
    pure (r, { self with recv })

def pollSend {α : Type} (poll : PollFn quinn.SendStream α) : PollFn (Stream quinn) α := fun self => do
  let (r, send) ← poll self.send
  pure (r, { self with send })

def pollWrite (buf : List UInt8) : PollFn (Stream quinn) (Except quinn.IoError Nat) :=
  pollSend (io.pollWrite buf)

def pollFlush : PollFn (Stream quinn) (Except quinn.IoError Unit) :=
  pollSend io.pollFlush

def pollClose : PollFn (Stream quinn) (Except quinn.IoError Unit) := fun self =>
  match self.closeResult with
  | some closeResult => pure (.ready (closeResult.mapError io.ofKind), self)
  | none => do
    let (r, send) ← io.pollClose self.send
    let self := { self with send }
    match r with
    | .pending => pure (.pending, self)
    | .ready closeResult =>
      let self := { self with closeResult := some (closeResult.mapError io.kind) }
      pure (.ready closeResult, self)

inductive Op where
  | read (len : Nat)
  | write (buf : List UInt8)
  | flush
  | close

def step : Op → Stream quinn → Except String (Stream quinn)
  | .read len, self => Prod.snd <$> pollRead io len self
  | .write buf, self => Prod.snd <$> pollWrite io buf self
  | .flush, self => Prod.snd <$> pollFlush io self
  | .close, self => Prod.snd <$> pollClose io self

def run : List Op → Stream quinn → Except String (Stream quinn)
  | [], self => .ok self
  | op :: ops, self => step io op self >>= run ops

variable {io}

theorem pollSend_closeResult {α : Type} {poll : PollFn quinn.SendStream α} {self self' : Stream quinn}
    {r : Poll α} (polled : pollSend poll self = .ok (r, self')) : self'.closeResult = self.closeResult := by
  simp only [pollSend, bind, Except.bind, pure, Except.pure] at polled
  split at polled
  · cases polled
  · cases polled
    rfl

theorem pollRead_closeResult {len : Nat} {self self' : Stream quinn}
    {r : Poll (Except quinn.IoError (List UInt8))} (polled : pollRead io len self = .ok (r, self')) :
    self'.closeResult = self.closeResult := by
  unfold pollRead at polled
  split at polled
  · cases polled
    rfl
  · simp only [bind, Except.bind, pure, Except.pure] at polled
    split at polled
    · cases polled
    · cases polled
      rfl

theorem pollClose_cached {self : Stream quinn} {c : Except quinn.ErrorKind Unit}
    (cached : self.closeResult = some c) :
    pollClose io self = .ok (.ready (c.mapError io.ofKind), self) := by
  simp only [pollClose, cached]
  rfl

theorem pollClose_ready {self self' : Stream quinn} {r : Except quinn.IoError Unit}
    (polled : pollClose io self = .ok (.ready r, self')) :
    self'.closeResult = some (r.mapError io.kind) := by
  cases cached : self.closeResult with
  | some c =>
    rw [pollClose_cached cached] at polled
    cases polled
    rw [cached, io.mapError_kind_ofKind]
  | none =>
    simp only [pollClose, cached, bind, Except.bind, pure, Except.pure] at polled
    split at polled
    · cases polled
    · rename_i result _
      rcases result with ⟨_ | _, send⟩ <;> cases polled
      rfl

/-- No call forgets or changes a remembered close result. -/
theorem step_keeps {op : Op} {self self' : Stream quinn} {c : Except quinn.ErrorKind Unit}
    (cached : self.closeResult = some c) (stepped : step io op self = .ok self') :
    self'.closeResult = some c := by
  cases op <;> obtain ⟨_, polled⟩ := Except.map_snd_eq_ok stepped
  case read => rw [pollRead_closeResult polled, cached]
  case write | flush => rw [pollSend_closeResult polled, cached]
  case close =>
    rw [pollClose_cached cached] at polled
    cases polled
    exact cached

theorem run_keeps {ops : List Op} {self self' : Stream quinn} {c : Except quinn.ErrorKind Unit}
    (cached : self.closeResult = some c) (ran : run io ops self = .ok self') :
    self'.closeResult = some c := by
  induction ops generalizing self with
  | nil =>
    cases ran
    exact cached
  | cons op ops ih =>
    cases stepped : step io op self with
    | error msg =>
      simp only [run, stepped, bind, Except.bind] at ran
      cases ran
    | ok self₁ =>
      simp only [run, stepped, bind, Except.bind] at ran
      exact ih (step_keeps cached stepped) ran

/-- `poll_close` is fused: once it gave `Ready`, every later `poll_close`, after any calls, gives
`Ready` again with a result of the same kind, without polling the send half. Only the kind
survives: a later error is `io::Error::from(kind)`, not the first error. -/
theorem pollClose_fused {self self₁ self₂ : Stream quinn} {r : Except quinn.IoError Unit}
    {ops : List Op} (closed : pollClose io self = .ok (.ready r, self₁))
    (ran : run io ops self₁ = .ok self₂) :
    ∃ r', pollClose io self₂ = .ok (.ready r', self₂) ∧ r'.mapError io.kind = r.mapError io.kind :=
  ⟨_, pollClose_cached (run_keeps (pollClose_ready closed) ran), io.mapError_kind_ofKind _⟩

/-- quinn's stream halves once the peer has reset the stream: reads give nothing, writes and
flushes succeed, and `poll_close` fails. -/
def resetOnClose : StreamIo peerGone where
  pollRead _ recv := .ok (.ready (.ok []), recv)
  pollWrite buf send := .ok (.ready (.ok buf.length), send)
  pollFlush send := .ok (.ready (.ok ()), send)
  pollClose send := .ok (.ready (.error ()), send)
  kind _ := ()
  ofKind _ := ()
  kind_ofKind _ := rfl

theorem resetOnClose_close_fused :
    pollClose resetOnClose (Stream.new () ()) = .ok (.ready (.error ()), ⟨(), (), some (.error ())⟩) ∧
      run resetOnClose [.write [1], .close] ⟨(), (), some (.error ())⟩ = .ok ⟨(), (), some (.error ())⟩ ∧
      ∃ r', pollClose resetOnClose ⟨(), (), some (.error ())⟩ = .ok (.ready r', ⟨(), (), some (.error ())⟩) ∧
        r'.mapError resetOnClose.kind = (Except.error () : Except Unit Unit).mapError resetOnClose.kind :=
  ⟨rfl, rfl, @pollClose_fused peerGone resetOnClose (Stream.new () ()) _ _ _ [.write [1], .close] rfl rfl⟩

/-- After a close that failed, every later read, after any calls, gives `Ok(0)` without polling
the receive half. -/
theorem pollRead_after_failed_close {self self₁ self₂ : Stream quinn} {e : quinn.IoError}
    {ops : List Op} (len : Nat) (closed : pollClose io self = .ok (.ready (.error e), self₁))
    (ran : run io ops self₁ = .ok self₂) :
    pollRead io len self₂ = .ok (.ready (.ok []), self₂) := by
  simp only [pollRead, run_keeps (pollClose_ready closed) ran]
  rfl

theorem resetOnClose_reads_nothing :
    pollClose resetOnClose (Stream.new () ()) = .ok (.ready (.error ()), ⟨(), (), some (.error ())⟩) ∧
      run resetOnClose [.flush] ⟨(), (), some (.error ())⟩ = .ok ⟨(), (), some (.error ())⟩ ∧
      pollRead resetOnClose 16 ⟨(), (), some (.error ())⟩ = .ok (.ready (.ok []), ⟨(), (), some (.error ())⟩) :=
  ⟨rfl, rfl, @pollRead_after_failed_close peerGone resetOnClose (Stream.new () ()) _ _ _ [.flush] 16 rfl rfl⟩

end Stream

end Airio.Quic
