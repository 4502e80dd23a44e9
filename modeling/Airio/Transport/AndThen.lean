import Airio.Transport

/-! `and_then`: each connection first awaits the inner transport's future, then the future the
map function builds from its output and the connected point. Errors are tagged with the side
that failed: `Left` for the inner transport, `Right` for the map future. -/
namespace Airio

/-- `AndThenFuture`: the inner future (`Left`) or the map future (`Right`), and the map function
with the connected point until the map future is built. -/
structure AndThenFuture (σ τ O : Type) where
  inner : Either σ τ
  args : Option ((O → ConnectedPoint → τ) × ConnectedPoint)

namespace AndThenFuture
variable {σ τ O V E W : Type} {pollInner : PollFn σ (Except E O)}
  {pollMap : PollFn τ (Except W V)}

abbrev Step (σ τ O E W V : Type) :=
  Pass (AndThenFuture σ τ O) (Poll (Except (Either E W) V) × AndThenFuture σ τ O)

def pass (pollInner : PollFn σ (Except E O)) (pollMap : PollFn τ (Except W V))
    (self : AndThenFuture σ τ O) : Except String (Step σ τ O E W V) :=
  match self.inner with
  | .left fut => do
    let (r, fut) ← pollInner fut
    let self := { self with inner := .left fut }
    match r with
    | .ready (.ok output) => do
      let (map, connectionPoint) ← expect "args should be set" self.args
      pure (.again { inner := .right (map output connectionPoint), args := none })
    | .ready (.error e) => pure (.exit (.ready (.error (.left e)), self))
    | .pending => pure (.exit (.pending, self))
  | .right fut => do
    let (r, fut) ← pollMap fut
    pure (.exit (r.map (·.mapError .right), { self with inner := .right fut }))

def rank (self : AndThenFuture σ τ O) : Nat :=
  match self.inner with
  | .left _ => 1
  | .right _ => 0

theorem pass_right (fut : τ) (args : Option ((O → ConnectedPoint → τ) × ConnectedPoint)) :
    pass (E := E) pollInner pollMap ⟨.right fut, args⟩ =
      (fun (r, fut) => .exit (r.map (·.mapError .right), ⟨.right fut, args⟩)) <$> pollMap fut := by
  simp only [pass, bind, Except.bind, pure, Except.pure]
  cases pollMap fut <;> rfl

theorem pass_left (fut : σ) (args : Option ((O → ConnectedPoint → τ) × ConnectedPoint)) :
    pass pollInner pollMap ⟨.left fut, args⟩ =
      (do
        let (r, fut) ← pollInner fut
        match r with
        | .ready (.ok output) => do
          let (map, connectionPoint) ← expect "args should be set" args
          pure (.again ⟨.right (map output connectionPoint), none⟩)
        | .ready (.error e) => pure (.exit (.ready (.error (.left e)), ⟨.left fut, args⟩))
        | .pending => pure (.exit (.pending, ⟨.left fut, args⟩)) :
        Except String (Step σ τ O E W V)) := rfl

/-- After the loop goes round, the next pass leaves it: a poll runs the body at most twice. -/
theorem pass_again {self self' : AndThenFuture σ τ O}
    (went : pass pollInner pollMap self = .ok (.again self')) :
    (∃ fut, self.inner = .left fut) ∧ ∃ fut, self'.inner = .right fut ∧ self'.args = none := by
  rcases self with ⟨fut | fut, args⟩
  · rw [pass_left] at went
    cases polled : pollInner fut with
    | error msg => simp [polled, bind, Except.bind] at went
    | ok p =>
      rcases p with ⟨(e | output) | _, fut'⟩ <;> rcases args with _ | ⟨map, point⟩ <;>
        simp [polled, bind, Except.bind, pure, Except.pure] at went
      exact ⟨⟨fut, rfl⟩, _, by rw [← went], by rw [← went]⟩
  · rw [pass_right] at went
    cases polled : pollMap fut <;> simp [polled, Functor.map, Except.map] at went

theorem pass_again_exits {self self' self'' : AndThenFuture σ τ O}
    (went : pass pollInner pollMap self = .ok (.again self')) :
    pass pollInner pollMap self' ≠ .ok (.again self'') := by
  obtain ⟨-, fut, now, -⟩ := pass_again went
  intro again
  obtain ⟨⟨_, was⟩, -⟩ := pass_again again
  rw [now] at was
  cases was

def poll (pollInner : PollFn σ (Except E O)) (pollMap : PollFn τ (Except W V)) :
    PollFn (AndThenFuture σ τ O) (Except (Either E W) V) :=
  loop (pass pollInner pollMap) rank fun _ _ went => by
    obtain ⟨⟨_, was⟩, _, now, _⟩ := pass_again went
    simp [rank, was, now]

theorem poll_right (fut : τ) (args : Option ((O → ConnectedPoint → τ) × ConnectedPoint)) :
    poll (E := E) pollInner pollMap ⟨.right fut, args⟩ =
      (fun (r, fut) => (r.map (·.mapError .right), ⟨.right fut, args⟩)) <$> pollMap fut := by
  unfold poll
  apply loop_of_exit
  rw [pass_right]
  cases pollMap fut <;> rfl

theorem poll_left_pending {fut fut' : σ} {args : Option ((O → ConnectedPoint → τ) × ConnectedPoint)}
    (polled : pollInner fut = .ok (.pending, fut')) :
    poll pollInner pollMap ⟨.left fut, args⟩ = .ok (.pending, ⟨.left fut', args⟩) :=
  loop_exit (by rw [pass_left, polled]; rfl)

theorem poll_left_failed {fut fut' : σ} {e : E}
    {args : Option ((O → ConnectedPoint → τ) × ConnectedPoint)}
    (polled : pollInner fut = .ok (.ready (.error e), fut')) :
    poll (W := W) (V := V) pollInner pollMap ⟨.left fut, args⟩ =
      .ok (.ready (.error (.left e)), ⟨.left fut', args⟩) :=
  loop_exit (by rw [pass_left, polled]; rfl)

theorem poll_left_ready {fut fut' : σ} {output : O} {map : O → ConnectedPoint → τ}
    {point : ConnectedPoint} (polled : pollInner fut = .ok (.ready (.ok output), fut')) :
    poll (E := E) pollInner pollMap ⟨.left fut, some (map, point)⟩ =
      poll pollInner pollMap ⟨.right (map output point), none⟩ :=
  loop_again (by rw [pass_left, polled]; rfl)

theorem poll_left_panicked {fut : σ} {msg : String}
    {args : Option ((O → ConnectedPoint → τ) × ConnectedPoint)}
    (polled : pollInner fut = .error msg) :
    poll (W := W) (V := V) pollInner pollMap ⟨.left fut, args⟩ = .error msg :=
  loop_error (by rw [pass_left, polled]; rfl)

theorem poll_right_stays {fut : τ} {args : Option ((O → ConnectedPoint → τ) × ConnectedPoint)}
    {r : Poll (Except (Either E W) V)} {self' : AndThenFuture σ τ O}
    (polled : poll pollInner pollMap ⟨.right fut, args⟩ = .ok (r, self')) :
    ∃ fut', self' = ⟨.right fut', args⟩ := by
  rw [poll_right] at polled
  rcases right : pollMap fut with msg | ⟨q, fut'⟩ <;> rw [right] at polled <;> cases polled
  exact ⟨fut', rfl⟩

theorem behaves_right {fut : τ} {d : Fut (Except W V)}
    (args : Option ((O → ConnectedPoint → τ) × ConnectedPoint)) (runs : Behaves pollMap fut d) :
    Behaves (poll (E := E) pollInner pollMap) ⟨.right fut, args⟩
      (d.map (Except.mapError .right)) :=
  Behaves.simulate (q := poll pollInner pollMap) (fun fut => ⟨.right fut, args⟩) _
    (fun _ _ polled => by rw [poll_right, polled]; rfl)
    (fun _ _ _ polled => ⟨_, by rw [poll_right, polled]; rfl⟩) runs

/-- What `and_then` is for: the inner run, then, only if it resolved `Ok(o)`, the run of the map
future built from `o`; a failure is tagged with the side that failed. -/
def spec (inner : Fut (Except E O)) (map : O → Fut (Except W V)) :
    Fut (Except (Either E W) V) :=
  inner.bind fun
    | .error e => .ready (.error (.left e))
    | .ok output => (map output).map (Except.mapError .right)

/-- The map future built from the output the inner run resolves to runs as `run`. -/
def Maps (pollMap : PollFn τ (Except W V)) (map : O → ConnectedPoint → τ)
    (point : ConnectedPoint) (inner : Fut (Except E O)) (run : O → Fut (Except W V)) : Prop :=
  ∀ output, inner.result = .ok output → Behaves pollMap (map output point) (run output)

theorem behaves {fut : σ} {d : Fut (Except E O)} {map : O → ConnectedPoint → τ}
    {point : ConnectedPoint} {run : O → Fut (Except W V)} (runs : Behaves pollInner fut d)
    (maps : Maps pollMap map point d run) :
    Behaves (poll pollInner pollMap) ⟨.left fut, some (map, point)⟩ (spec d run) := by
  induction runs with
  | @ready fut fut' r polled =>
    rcases r with e | output
    · exact .ready (poll_left_failed polled)
    · exact Behaves.of_poll_eq (poll_left_ready polled) (behaves_right none (maps output rfl))
  | pending polled _ ih => exact .pending (poll_left_pending polled) (ih maps)

/-- Before the composite resolves, the map function is still in `args` while the inner future
runs, and gone once the map future runs: the `args should be set` expect always finds it. -/
theorem pends_args {fut : σ} {map : O → ConnectedPoint → τ} {point : ConnectedPoint}
    {self : AndThenFuture σ τ O}
    (reached : Pends (poll pollInner pollMap) ⟨.left fut, some (map, point)⟩ self) :
    (∃ fut, self = ⟨.left fut, some (map, point)⟩) ∨ ∃ fut, self = ⟨.right fut, none⟩ := by
  refine Pends.invariant (fun self : AndThenFuture σ τ O =>
    (∃ fut, self = ⟨.left fut, some (map, point)⟩) ∨ ∃ fut, self = ⟨.right fut, none⟩)
    (fun s s' holds polled => ?_) (.inl ⟨fut, rfl⟩) reached
  rcases holds with ⟨fut, rfl⟩ | ⟨fut, rfl⟩
  · rcases inner : pollInner fut with msg | ⟨(e | output) | _, fut'⟩
    · rw [poll_left_panicked inner] at polled; cases polled
    · rw [poll_left_failed inner] at polled; cases polled
    · rw [poll_left_ready inner] at polled
      exact .inr (poll_right_stays polled)
    · rw [poll_left_pending inner] at polled
      cases polled
      exact .inl ⟨fut', rfl⟩
  · exact .inr (poll_right_stays polled)

end AndThenFuture

structure AndThenListener (L O τ : Type) where
  inner : L
  map : O → ConnectedPoint → τ

namespace AndThenListener
variable {L υ O τ E W : Type}

def pollNext (pollInner : PollFn L (Option (ListenerEvent υ E))) :
    PollFn (AndThenListener L O τ) (Option (ListenerEvent (AndThenFuture υ τ O) (Either E W))) :=
  fun self => do
    let (r, inner) ← pollInner self.inner
    let self := { self with inner }
    match r with
    | .ready (some event) =>
      let event := match event with
        | .listened addr => .listened addr
        | .incoming localAddr remoteAddr upgrade =>
          .incoming localAddr remoteAddr
            ⟨.left upgrade, some (self.map, .listener localAddr remoteAddr)⟩
        | .closed result => .closed (result.mapError .left)
        | .error err => .error (.left err)
      pure (.ready (some event), self)
    | .ready none => pure (.ready none, self)
    | .pending => pure (.pending, self)

def wrap (map : O → ConnectedPoint → τ) : ListenerEvent υ E → ListenerEvent (AndThenFuture υ τ O) (Either E W) :=
  ListenerEvent.lift (fun localAddr remoteAddr upgrade =>
    ⟨.left upgrade, some (map, .listener localAddr remoteAddr)⟩) .left

theorem forwards (pollInner : PollFn L (Option (ListenerEvent υ E))) (map : O → ConnectedPoint → τ) :
    Forwards pollInner (pollNext (W := W) pollInner)
      (fun self inner => self.map = map ∧ self.inner = inner) (wrap map) :=
  Forwards.of_eq (fun self : AndThenListener L O τ => self.map = map) inner
    (fun self inner => { self with inner }) _
    (fun _ _ => rfl) (fun _ _ kept => kept) fun self kept => by
      subst kept
      simp only [pollNext, bind, Except.bind, pure, Except.pure]
      rcases pollInner self.inner with msg | ⟨(_ | _) | _, inner⟩
      · rfl
      · rfl
      · rename_i event
        cases event with
        | closed result => cases result <;> rfl
        | _ => rfl
      · rfl

end AndThenListener

structure AndThen (T M : Type 1) where
  transport : T
  map : M

namespace AndThen
variable {O V E W τ : Type}

def connect (t : Transport O E) (map : O → ConnectedPoint → τ) (addr : SocketAddr) :
    Except (Either E W) (AndThenFuture t.Dialer τ O) := do
  let dialer ← (t.connect addr).mapError .left
  let connectedPoint := ConnectedPoint.dialer addr
  pure ⟨.left dialer, some (map, connectedPoint)⟩

def listen (t : Transport O E) (map : O → ConnectedPoint → τ) (addr : SocketAddr) :
    Except (Either E W) (AndThenListener t.Listener O τ) := do
  let listener ← (t.listen addr).mapError .left
  pure ⟨listener, map⟩

theorem connect_eq (t : Transport O E) (map : O → ConnectedPoint → τ) (addr : SocketAddr) :
    connect (W := W) t map addr =
      (fun dialer => ⟨.left dialer, some (map, .dialer addr)⟩) <$> (t.connect addr).mapError .left := by
  simp only [connect, bind_pure_comp]

theorem listen_eq (t : Transport O E) (map : O → ConnectedPoint → τ) (addr : SocketAddr) :
    listen (W := W) t map addr = (fun listener => ⟨listener, map⟩) <$> (t.listen addr).mapError .left := by
  rw [listen, bind_pure_comp]

end AndThen

/-- `AndThen(T, g)`: a failing `connect` or `listen` of `T` fails with `Left`; the future
`connect(addr)` returns and the one each `Incoming` of its listener carries hold `g` with the
connected point fixed then; and every such future runs as the inner future, then, only once that
resolved `Ok(o)` and in the same poll, as the future `g(o, point)`, errors tagged by side, with
`args` set in every state polled while the inner future runs, and no poll going round its loop
more than twice. -/
theorem andThen_runs_inner_then_map {O V E W τ : Type} (t : Transport O E)
    (map : O → ConnectedPoint → τ) (pollMap : PollFn τ (Except W V)) :
    (∀ addr, AndThen.connect (W := W) t map addr =
      (fun dialer => ⟨.left dialer, some (map, .dialer addr)⟩) <$> (t.connect addr).mapError .left) ∧
    (∀ addr, AndThen.listen (W := W) t map addr =
      (fun listener => ⟨listener, map⟩) <$> (t.listen addr).mapError .left) ∧
    Forwards t.pollNext (AndThenListener.pollNext (W := W) t.pollNext)
      (fun self inner => self.map = map ∧ self.inner = inner) (AndThenListener.wrap map) ∧
    ∀ {σ : Type} (pollInner : PollFn σ (Except E O)) (fut : σ) (d : Fut (Except E O))
      (point : ConnectedPoint) (run : O → Fut (Except W V)),
      Behaves pollInner fut d → AndThenFuture.Maps pollMap map point d run →
      Behaves (AndThenFuture.poll pollInner pollMap) ⟨.left fut, some (map, point)⟩
          (AndThenFuture.spec d run) ∧
        (∀ self, Pends (AndThenFuture.poll pollInner pollMap) ⟨.left fut, some (map, point)⟩ self →
          (∃ fut, self = ⟨.left fut, some (map, point)⟩) ∨ ∃ fut, self = ⟨.right fut, none⟩) ∧
        ∀ self self' self'', AndThenFuture.pass pollInner pollMap self = .ok (.again self') →
          AndThenFuture.pass pollInner pollMap self' ≠ .ok (.again self'') :=
  ⟨AndThen.connect_eq t map, AndThen.listen_eq t map, AndThenListener.forwards t.pollNext map,
    fun _ _ _ _ _ runs maps => ⟨AndThenFuture.behaves runs maps, fun _ reached =>
      AndThenFuture.pends_args reached, fun _ _ _ went => AndThenFuture.pass_again_exits went⟩⟩

def Transport.andThen {O V E W τ : Type} (t : Transport O E) (map : O → ConnectedPoint → τ)
    (pollMap : PollFn τ (Except W V)) : Transport V (Either E W) where
  Dialer := AndThenFuture t.Dialer τ O
  ListenerUpgrade := AndThenFuture t.ListenerUpgrade τ O
  Listener := AndThenListener t.Listener O τ
  listen := AndThen.listen t map
  connect := AndThen.connect t map
  pollDialer := AndThenFuture.poll t.pollDialer pollMap
  pollUpgrade := AndThenFuture.poll t.pollUpgrade pollMap
  pollNext := AndThenListener.pollNext t.pollNext

/-- `and_then(map)` runs each connection of `t` through `AndThenFuture.spec` with the run the map
future has at the connection's role, given that map futures built at a dialer point run as
`run .dialer o` and those built at a listener point as `run .listener o`. -/
theorem Transport.andThen_wraps {O V E W τ : Type} (t : Transport O E) (map : O → ConnectedPoint → τ)
    (pollMap : PollFn τ (Except W V)) (run : Endpoint → O → Fut (Except W V))
    (dialed : ∀ o addr, Behaves pollMap (map o (.dialer addr)) (run .dialer o))
    (accepted : ∀ o localAddr remoteAddr,
      Behaves pollMap (map o (.listener localAddr remoteAddr)) (run .listener o)) :
    Wraps t (t.andThen map pollMap) .left fun role d => AndThenFuture.spec d (run role) where
  connect addr := ⟨_, AndThen.connect_eq t map addr,
    fun _ _ runs => AndThenFuture.behaves runs fun o _ => dialed o addr⟩
  listen := ⟨fun localAddr remoteAddr upgrade =>
      ⟨.left upgrade, some (map, .listener localAddr remoteAddr)⟩,
    fun self inner => self.map = map ∧ self.inner = inner,
    fun addr => ⟨_, AndThen.listen_eq t map addr, fun _ => ⟨rfl, rfl⟩⟩,
    AndThenListener.forwards t.pollNext map,
    fun localAddr remoteAddr _ _ runs =>
      AndThenFuture.behaves runs fun o _ => accepted o localAddr remoteAddr⟩

end Airio
