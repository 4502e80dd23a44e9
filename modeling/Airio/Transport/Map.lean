import Airio.Transport.AndThen

/-! `map`: each connection's output goes once, with its connected point, through a function.
Against `and_then` over a map future that is ready at once, `map` is the same machine, poll
for poll, its errors tagged `Left` there. -/
namespace Airio

/-- `transport::map::MapFuture`: the inner future, and the function with the connected point
until it has run. -/
structure MapFuture (σ O V : Type) where
  inner : σ
  args : Option ((O → ConnectedPoint → V) × ConnectedPoint)

namespace MapFuture
variable {σ O V E W : Type} {pollInner : PollFn σ (Except E O)}

def poll (pollInner : PollFn σ (Except E O)) : PollFn (MapFuture σ O V) (Except E V) :=
  fun self => do
    let (r, inner) ← pollInner self.inner
    let self := { self with inner }
    match r with
    | .pending => pure (.pending, self)
    | .ready (.error err) => pure (.ready (.error err), self)
    | .ready (.ok item) =>
      let (f, a) ← expect "MapFuture has already finished." self.args
      pure (.ready (.ok (f item a)), { self with args := none })

theorem poll_panicked {fut : σ} {msg : String}
    {args : Option ((O → ConnectedPoint → V) × ConnectedPoint)}
    (polled : pollInner fut = .error msg) : poll pollInner ⟨fut, args⟩ = .error msg := by
  simp [poll, polled, bind, Except.bind]

theorem poll_pending {fut fut' : σ} {args : Option ((O → ConnectedPoint → V) × ConnectedPoint)}
    (polled : pollInner fut = .ok (.pending, fut')) :
    poll pollInner ⟨fut, args⟩ = .ok (.pending, ⟨fut', args⟩) := by
  simp [poll, polled, bind, Except.bind, pure, Except.pure]

theorem poll_failed {fut fut' : σ} {e : E}
    {args : Option ((O → ConnectedPoint → V) × ConnectedPoint)}
    (polled : pollInner fut = .ok (.ready (.error e), fut')) :
    poll pollInner ⟨fut, args⟩ = .ok (.ready (.error e), ⟨fut', args⟩) := by
  simp [poll, polled, bind, Except.bind, pure, Except.pure]

theorem poll_ready {fut fut' : σ} {item : O} {f : O → ConnectedPoint → V}
    {point : ConnectedPoint} (polled : pollInner fut = .ok (.ready (.ok item), fut')) :
    poll pollInner ⟨fut, some (f, point)⟩ = .ok (.ready (.ok (f item point)), ⟨fut', none⟩) := by
  simp [poll, polled, bind, Except.bind, pure, Except.pure]

/-- The map future runs as the inner future with its output passed through `f` at the connected
point fixed when it was built, once. -/
theorem behaves {fut : σ} {d : Fut (Except E O)} (f : O → ConnectedPoint → V)
    (point : ConnectedPoint) (runs : Behaves pollInner fut d) :
    Behaves (poll pollInner) ⟨fut, some (f, point)⟩ (d.map (Except.map (f · point))) := by
  induction runs with
  | @ready fut fut' r polled =>
    rcases r with e | item
    · exact .ready (poll_failed polled)
    · exact .ready (poll_ready polled)
  | pending polled _ ih => exact .pending (poll_pending polled) ih

/-- In every state polled before `Ready` the function is still there: the
`MapFuture has already finished.` expect always finds it. -/
theorem pends_args {fut : σ} {f : O → ConnectedPoint → V} {point : ConnectedPoint}
    {self : MapFuture σ O V} (reached : Pends (poll pollInner) ⟨fut, some (f, point)⟩ self) :
    ∃ fut, self = ⟨fut, some (f, point)⟩ := by
  refine Pends.invariant (fun self : MapFuture σ O V => ∃ fut, self = ⟨fut, some (f, point)⟩)
    (fun s s' holds polled => ?_) ⟨fut, rfl⟩ reached
  obtain ⟨fut, rfl⟩ := holds
  rcases inner : pollInner fut with msg | ⟨(e | item) | _, fut'⟩
  · rw [poll_panicked inner] at polled; cases polled
  · rw [poll_failed inner] at polled; cases polled
  · rw [poll_ready inner] at polled; cases polled
  · rw [poll_pending inner] at polled; cases polled
    exact ⟨fut', rfl⟩

/-- The closure `(o, p) -> future::ready(Ok(f(o, p)))` that `map(f)` stands for under
`and_then`. -/
def readyOk (f : O → ConnectedPoint → V) : O → ConnectedPoint → Ready (Except W V) :=
  fun o p => ⟨some (.ok (f o p))⟩

/-- The `and_then` state a map future stands for: the same inner future, and `readyOk f` in
place of `f`. -/
def toAndThen (self : MapFuture σ O V) : AndThenFuture σ (Ready (Except W V)) O :=
  ⟨.left self.inner, self.args.map fun (f, point) => (readyOk f, point)⟩

/-- A map future that still holds its function polls in step with the `and_then` state it
stands for. -/
theorem lockstep_andThen (self : MapFuture σ O V) (holds : self.args.isSome) :
    Lockstep (fun (self : MapFuture σ O V) other => self.args.isSome ∧ other = self.toAndThen)
      (Except.mapError .left) (poll pollInner self)
      (AndThenFuture.poll pollInner Ready.poll (toAndThen (W := W) self)) := by
  rcases self with ⟨fut, _ | ⟨f, point⟩⟩
  · cases holds
  rcases inner : pollInner fut with msg | ⟨(e | item) | _, fut'⟩
  · simp only [toAndThen, Option.map_some', poll_panicked inner,
      AndThenFuture.poll_left_panicked inner, Lockstep]
  · simp only [toAndThen, Option.map_some', poll_failed inner,
      AndThenFuture.poll_left_failed inner, Lockstep]; rfl
  · simp only [toAndThen, Option.map_some', poll_ready inner,
      AndThenFuture.poll_left_ready inner, AndThenFuture.poll_right, readyOk]; rfl
  · simp only [toAndThen, Option.map_some', poll_pending inner,
      AndThenFuture.poll_left_pending inner, Lockstep]
    exact ⟨rfl, trivial⟩

end MapFuture

structure MapListener (L O V : Type) where
  inner : L
  func : O → ConnectedPoint → V

namespace MapListener
variable {L υ O V E : Type}

def pollNext (pollInner : PollFn L (Option (ListenerEvent υ E))) :
    PollFn (MapListener L O V) (Option (ListenerEvent (MapFuture υ O V) E)) := fun self => do
  let (r, inner) ← pollInner self.inner
  let self := { self with inner }
  match r with
  | .ready (some event) =>
    let event := match event with
      | .listened addr => .listened addr
      | .incoming localAddr remoteAddr upgrade =>
        .incoming localAddr remoteAddr
          ⟨upgrade, some (self.func, .listener localAddr remoteAddr)⟩
      | .closed result => .closed result
      | .error err => .error err
    pure (.ready (some event), self)
  | .ready none => pure (.ready none, self)
  | .pending => pure (.pending, self)

def wrap (func : O → ConnectedPoint → V) : ListenerEvent υ E → ListenerEvent (MapFuture υ O V) E :=
  ListenerEvent.lift (fun localAddr remoteAddr upgrade =>
    ⟨upgrade, some (func, .listener localAddr remoteAddr)⟩) id

theorem lift_comp_wrap {W : Type} (func : O → ConnectedPoint → V) :
    ListenerEvent.lift (fun _ _ => MapFuture.toAndThen (W := W)) (Either.left : E → Either E W) ∘
      wrap (υ := υ) func = AndThenListener.wrap (MapFuture.readyOk func) := by
  funext event
  simp only [Function.comp, wrap, AndThenListener.wrap, ListenerEvent.lift_lift]
  rfl

theorem forwards (pollInner : PollFn L (Option (ListenerEvent υ E)))
    (func : O → ConnectedPoint → V) :
    Forwards pollInner (pollNext pollInner)
      (fun self inner => self.func = func ∧ self.inner = inner) (wrap func) :=
  Forwards.of_eq (fun self : MapListener L O V => self.func = func) inner
    (fun self inner => { self with inner }) _
    (fun _ _ => rfl) (fun _ _ kept => kept) fun self kept => by
      subst kept
      simp only [pollNext, bind, Except.bind, pure, Except.pure]
      rcases pollInner self.inner with msg | ⟨(_ | _) | _, inner⟩
      · rfl
      · rfl
      · rename_i event
        cases event with
        | closed result => cases result <;> rfl
        | _ => rfl
      · rfl

end MapListener

namespace Map
variable {O V E : Type}

def connect (t : Transport O E) (func : O → ConnectedPoint → V) (addr : SocketAddr) :
    Except E (MapFuture t.Dialer O V) := do
  let dialer ← t.connect addr
  let connectedPoint := ConnectedPoint.dialer addr
  pure ⟨dialer, some (func, connectedPoint)⟩

def listen (t : Transport O E) (func : O → ConnectedPoint → V) (addr : SocketAddr) :
    Except E (MapListener t.Listener O V) := do
  let listener ← t.listen addr
  pure ⟨listener, func⟩

theorem connect_eq (t : Transport O E) (func : O → ConnectedPoint → V) (addr : SocketAddr) :
    connect t func addr = (fun dialer => ⟨dialer, some (func, .dialer addr)⟩) <$> t.connect addr := by
  simp only [connect, bind_pure_comp]

theorem listen_eq (t : Transport O E) (func : O → ConnectedPoint → V) (addr : SocketAddr) :
    listen t func addr = (fun listener => ⟨listener, func⟩) <$> t.listen addr := by
  rw [listen, bind_pure_comp]

end Map

def Transport.map {O V E : Type} (t : Transport O E) (func : O → ConnectedPoint → V) :
    Transport V E where
  Dialer := MapFuture t.Dialer O V
  ListenerUpgrade := MapFuture t.ListenerUpgrade O V
  Listener := MapListener t.Listener O V
  listen := Map.listen t func
  connect := Map.connect t func
  pollDialer := MapFuture.poll t.pollDialer
  pollUpgrade := MapFuture.poll t.pollUpgrade
  pollNext := MapListener.pollNext t.pollNext

/-- `Map(T, f)` is `AndThen(T, (o, p) -> future::ready(Ok(f(o, p))))` with its errors untagged:
`connect` and `listen` fail on the same calls, the listeners give the same events at the same
polls with each map future standing for the `and_then` one; every map future and the `and_then`
future it stands for, over every run of the inner future, are `Pending` on the same polls and
`Ready` on the same poll, `Ok(f(o, p))` on both or `Err(e)` against `Err(Left(e))`; and `f` runs
once, at the connected point fixed when the future was built, its expect never failing before
`Ready`. -/
theorem map_agrees_with_andThen_ready {O V E W : Type} (t : Transport O E)
    (f : O → ConnectedPoint → V) :
    (∀ addr, MapFuture.toAndThen <$> (Map.connect t f addr).mapError .left =
      AndThen.connect (W := W) t (MapFuture.readyOk (W := W) f) addr) ∧
    (∀ addr, (fun listener : MapListener t.Listener O V =>
        (⟨listener.inner, MapFuture.readyOk listener.func⟩ :
          AndThenListener t.Listener O (Ready (Except W V)))) <$>
        (Map.listen t f addr).mapError .left =
      AndThen.listen (W := W) t (MapFuture.readyOk f) addr) ∧
    (∀ (listener : t.Listener) (n : Nat),
      pollsOf (AndThenListener.pollNext (W := W) t.pollNext) n
          ⟨listener, MapFuture.readyOk (W := W) f⟩ =
        (List.map (Poll.map (Option.map
          (ListenerEvent.lift (fun _ _ => MapFuture.toAndThen (W := W)) .left)))) <$>
          pollsOf (MapListener.pollNext t.pollNext) n ⟨listener, f⟩) ∧
    ∀ {σ : Type} (pollInner : PollFn σ (Except E O)) (fut : σ) (point : ConnectedPoint),
      (∀ n, outcomes (AndThenFuture.poll (W := W) pollInner Ready.poll)
          n ⟨.left fut, some (MapFuture.readyOk (W := W) f, point)⟩ =
        (List.map (Poll.map (Except.mapError .left))) <$>
          outcomes (MapFuture.poll pollInner) n ⟨fut, some (f, point)⟩) ∧
      (∀ d, Behaves pollInner fut d →
        Behaves (MapFuture.poll pollInner) ⟨fut, some (f, point)⟩ (d.map (Except.map (f · point)))) ∧
      ∀ self, Pends (MapFuture.poll pollInner) ⟨fut, some (f, point)⟩ self →
        ∃ fut, self = ⟨fut, some (f, point)⟩ := by
  refine ⟨fun addr => ?_, fun addr => ?_, fun listener n => ?_, fun pollInner fut point =>
    ⟨fun n => outcomes_lockstep (R := fun (self : MapFuture _ O V) other =>
        self.args.isSome ∧ other = self.toAndThen (W := W))
        (fun self _ ⟨holds, related⟩ => related ▸ MapFuture.lockstep_andThen self holds) n
        ⟨rfl, rfl⟩,
      fun _ runs => MapFuture.behaves f point runs, fun _ reached => MapFuture.pends_args reached⟩⟩
  · rw [Map.connect_eq, AndThen.connect_eq]
    cases t.connect addr <;> rfl
  · rw [Map.listen_eq, AndThen.listen_eq]
    cases t.listen addr <;> rfl
  · rw [(AndThenListener.forwards t.pollNext (MapFuture.readyOk f)).pollsOf n ⟨rfl, rfl⟩,
      (MapListener.forwards t.pollNext f).pollsOf n ⟨rfl, rfl⟩]
    rw [Functor.map_map]
    congr 1
    funext polls
    rw [List.map_map, Poll.map_comp_map, Option.map_comp_map, MapListener.lift_comp_wrap]

end Airio
