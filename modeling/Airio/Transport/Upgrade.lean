import Airio.Transport.AndThen
import Airio.Upgrade.Apply

/-! The upgrade pipeline of `transport/upgrade.rs`: `authenticate` (an `and_then` whose map future
is an `UpgradeApply`), any number of `apply` (`WithUpgrade` and its `UpgradeFuture`), and
`multiplex` (an `and_then` whose map future is `Multiplex`). Each stage is an upgrade with the
negotiator it runs under; the pipeline runs the stages in order on each connection. -/
namespace Airio

inductive TransportUpgradeError (TE X UE : Type) where
  | transport (e : TE)
  | upgrade (e : UpgradeError X UE)

/-- One upgrade stage: the value `upgrade` of an `Upgrade<Negotiated<C>>` with output `D` and
error `E`, the negotiator it runs under, and the run of the upgrade future it builds on each
negotiated stream and info. The negotiator and that run are the environment's. -/
structure Stage (X C D E : Type) : Type 1 where
  I : Type
  N : Type
  U : Type
  F : Type
  sel : Select C I N X
  up : Upgrade U N I F D E
  upgrade : U
  run : N → I → Fut (Except E D)

namespace Stage
variable {X C D E : Type}

def apply (stage : Stage X C D E) (role : Endpoint) (io : C) :
    UpgradeApply X stage.I stage.N stage.U stage.F :=
  UpgradeApply.forRole role stage.sel stage.up io stage.upgrade

/-- The stage's upgrade futures run as `run`, on whatever stream it negotiates. -/
def Runs (stage : Stage X C D E) (role : Endpoint) : Prop :=
  ∀ io, UpgradeApply.Upgrades stage.up role stage.upgrade
    (stage.sel.start role io (stage.up.protocolInfo stage.upgrade)) stage.run

/-- The stage as the pipeline means it: negotiate on `io`, then run the upgrade. -/
def spec (stage : Stage X C D E) (role : Endpoint) (io : C) : Fut (Except (UpgradeError X E) D) :=
  UpgradeApply.spec (stage.sel.start role io (stage.up.protocolInfo stage.upgrade)) stage.run

theorem behaves {stage : Stage X C D E} {role : Endpoint} (runs : stage.Runs role) (io : C) :
    Behaves (UpgradeApply.poll stage.up) (stage.apply role io) (stage.spec role io) := by
  rw [apply, UpgradeApply.forRole_negotiating]
  exact UpgradeApply.negotiating_behaves _ (runs io)

end Stage

structure Authenticate (X I N U F : Type) where
  inner : UpgradeApply X I N U F

def Authenticate.poll {X I N U F O E : Type} (up : Upgrade U N I F O E) :
    PollFn (Authenticate X I N U F) (Except (UpgradeError X E) O) :=
  fun self => (fun (r, inner) => (r, ⟨inner⟩)) <$> UpgradeApply.poll up self.inner

theorem Authenticate.behaves {X C D E : Type} {stage : Stage X C D E} {role : Endpoint}
    (runs : stage.Runs role) (io : C) :
    Behaves (Authenticate.poll stage.up) ⟨stage.apply role io⟩ (stage.spec role io) := by
  have lifted := Behaves.simulate (q := Authenticate.poll stage.up) Authenticate.mk (fun r => r)
    (fun _ _ polled => by simp only [Authenticate.poll, polled]; rfl)
    (fun _ _ _ polled => ⟨_, by simp only [Authenticate.poll, polled]; rfl⟩) (Stage.behaves runs io)
  rwa [Fut.map_id] at lifted

def Builder.authenticateMap {X C D E P : Type} (stage : Stage X C (P × D) E) (io : C)
    (endpoint : ConnectedPoint) : Authenticate X stage.I stage.N stage.U stage.F :=
  let inner := if endpoint.isDialer then UpgradeApply.newOutbound stage.sel stage.up io stage.upgrade
    else UpgradeApply.newInbound stage.sel stage.up io stage.upgrade
  { inner }

def Builder.authenticate {X C D E P TE : Type} (t : Transport C TE) (stage : Stage X C (P × D) E) :
    Transport (P × D) (Either TE (UpgradeError X E)) :=
  t.andThen (Builder.authenticateMap stage) (Authenticate.poll stage.up)

/-- `authenticate` runs each raw connection, then the authentication stage on its stream. -/
theorem Builder.authenticate_wraps {X C D E P TE : Type} (t : Transport C TE)
    (stage : Stage X C (P × D) E) (runs : ∀ role, stage.Runs role) :
    Wraps t (Builder.authenticate t stage) .left
      fun role d => AndThenFuture.spec d (stage.spec role) :=
  t.andThen_wraps _ _ _ (fun o _ => Authenticate.behaves (runs .dialer) o)
    (fun o _ _ => Authenticate.behaves (runs .listener) o)

/-- `UpgradeFuture`: the inner future and the role, and the upgrade until the inner future gives
`(peer_id, io)` (`Left`), then the peer id with the stage's `UpgradeApply` (`Right`). -/
structure UpgradeFuture {X C D E : Type} (σ P : Type) (stage : Stage X C D E) where
  innerFut : σ
  role : Endpoint
  upgrade : Either (Option stage.U) (P × UpgradeApply X stage.I stage.N stage.U stage.F)

namespace UpgradeFuture
variable {X C D E σ P TE : Type} {stage : Stage X C D E} {pollInner : PollFn σ (Except TE (P × C))}

abbrev Step (σ P TE : Type) (stage : Stage X C D E) :=
  Pass (UpgradeFuture σ P stage)
    (Poll (Except (TransportUpgradeError TE X E) (P × D)) × UpgradeFuture σ P stage)

def pass (pollInner : PollFn σ (Except TE (P × C))) (stage : Stage X C D E)
    (this : UpgradeFuture σ P stage) : Except String (Step σ P TE stage) :=
  match this.upgrade with
  | .left up => do
    let (r, innerFut) ← pollInner this.innerFut
    let this := { this with innerFut }
    match r with
    | .pending => pure (.exit (.pending, this))
    | .ready (.error e) => pure (.exit (.ready (.error (.transport e)), this))
    | .ready (.ok (peerId, io)) => do
      let upgrade ← expect "upgrade should be set" up
      let upgrade := match this.role with
        | .dialer => UpgradeApply.newOutbound stage.sel stage.up io upgrade
        | .listener => UpgradeApply.newInbound stage.sel stage.up io upgrade
      pure (.again { this with upgrade := .right (peerId, upgrade) })
  | .right (i, up) => do
    let (r, up) ← UpgradeApply.poll stage.up up
    let this := { this with upgrade := .right (i, up) }
    match r with
    | .pending => pure (.exit (.pending, this))
    | .ready (.error e) => pure (.exit (.ready (.error (.upgrade e)), this))
    | .ready (.ok output) => pure (.exit (.ready (.ok (i, output)), this))

def rank (this : UpgradeFuture σ P stage) : Nat :=
  match this.upgrade with
  | .left _ => 1
  | .right _ => 0

def tagged (i : P) (r : Except (UpgradeError X E) D) : Except (TransportUpgradeError TE X E) (P × D) :=
  (r.map fun output => (i, output)).mapError .upgrade

theorem pass_right (innerFut : σ) (role : Endpoint) (i : P)
    (up : UpgradeApply X stage.I stage.N stage.U stage.F) :
    pass pollInner stage ⟨innerFut, role, .right (i, up)⟩ =
      (fun (r, up) => .exit (r.map (tagged i), ⟨innerFut, role, .right (i, up)⟩)) <$>
        UpgradeApply.poll stage.up up := by
  simp only [pass, bind, Except.bind, pure, Except.pure]
  rcases UpgradeApply.poll stage.up up with msg | ⟨(e | output) | _, up'⟩ <;> rfl

theorem pass_again {this this' : UpgradeFuture σ P stage}
    (went : pass pollInner stage this = .ok (.again this')) : rank this' < rank this := by
  rcases this with ⟨innerFut, role, up | ⟨i, up⟩⟩
  · simp only [pass, bind, Except.bind] at went
    split at went
    · cases went
    · rename_i p _
      rcases p with ⟨(e | ⟨peerId, io⟩) | _, innerFut'⟩
      · cases went
      · cases up with
        | none => cases went
        | some u =>
          simp only [expect, pure, Except.pure, Except.ok.injEq, Pass.again.injEq] at went
          rw [← went]
          exact Nat.zero_lt_one
      · cases went
  · rw [pass_right] at went
    cases polled : UpgradeApply.poll stage.up up <;> simp [polled, Functor.map, Except.map] at went

def poll (pollInner : PollFn σ (Except TE (P × C))) (stage : Stage X C D E) :
    PollFn (UpgradeFuture σ P stage) (Except (TransportUpgradeError TE X E) (P × D)) :=
  loop (pass pollInner stage) rank fun _ _ went => pass_again went

/-- What `apply` is for: the inner run, then, only if it gave `(p, io)`, the stage on `io`, with
`p` kept; failures tagged `Transport` or `Upgrade`. -/
def spec (stage : Stage X C D E) (role : Endpoint) (d : Fut (Except TE (P × C))) :
    Fut (Except (TransportUpgradeError TE X E) (P × D)) :=
  d.bind fun
    | .error e => .ready (.error (.transport e))
    | .ok (p, io) => (stage.spec role io).map (tagged p)

theorem behaves_right (innerFut : σ) (role : Endpoint) (i : P)
    {up : UpgradeApply X stage.I stage.N stage.U stage.F} {d : Fut (Except (UpgradeError X E) D)}
    (runs : Behaves (UpgradeApply.poll stage.up) up d) :
    Behaves (poll pollInner stage) ⟨innerFut, role, .right (i, up)⟩ (d.map (tagged i)) :=
  Behaves.simulate (q := poll pollInner stage)
    (fun up => (⟨innerFut, role, .right (i, up)⟩ : UpgradeFuture σ P stage)) _
    (fun _ _ polled => loop_exit (by rw [pass_right, polled]; rfl))
    (fun _ _ _ polled => ⟨_, loop_exit (by rw [pass_right, polled]; rfl)⟩) runs

/-- The future `apply` builds runs the inner future, then the stage's `UpgradeApply` for its
role on the stream the inner future gave, built in the same poll. -/
theorem behaves {role : Endpoint} (runs : stage.Runs role) {fut : σ} {d : Fut (Except TE (P × C))}
    (inner : Behaves pollInner fut d) :
    Behaves (poll pollInner stage) ⟨fut, role, .left (some stage.upgrade)⟩ (spec stage role d) := by
  induction inner with
  | @ready fut fut' r polled =>
    rcases r with e | ⟨p, io⟩
    · exact .ready (loop_exit (by simp only [pass, polled]; rfl))
    · have went : pass pollInner stage ⟨fut, role, .left (some stage.upgrade)⟩ =
          .ok (.again ⟨fut', role, .right (p, stage.apply role io)⟩) := by
        cases role <;> simp only [pass, polled] <;> rfl
      exact Behaves.of_poll_eq (loop_again went) (behaves_right fut' role p (Stage.behaves runs io))
  | pending polled _ ih => exact .pending (loop_exit (by simp only [pass, polled]; rfl)) ih

end UpgradeFuture

structure WithUpgrade.MapListener {X C D E : Type} (L : Type) (stage : Stage X C D E) where
  inner : L
  upgrade : stage.U

namespace WithUpgrade
variable {X C D E P TE L υ : Type} {stage : Stage X C D E}

def MapListener.pollNext (pollInner : PollFn L (Option (ListenerEvent υ TE))) :
    PollFn (MapListener L stage)
      (Option (ListenerEvent (UpgradeFuture υ P stage) (TransportUpgradeError TE X E))) :=
  fun self => do
    let (r, inner) ← pollInner self.inner
    let self := { self with inner }
    match r with
    | .ready (some event) =>
      let upgrade := self.upgrade
      let event := (event.mapUpgrade fun up =>
        ({ innerFut := up, role := .listener, upgrade := .left (some upgrade) } :
          UpgradeFuture υ P stage)).mapErr .transport
      pure (.ready (some event), self)
    | .ready none => pure (.ready none, self)
    | .pending => pure (.pending, self)

theorem MapListener.forwards (pollInner : PollFn L (Option (ListenerEvent υ TE))) (upgrade : stage.U) :
    Forwards pollInner (MapListener.pollNext (P := P) pollInner)
      (fun self inner => self.upgrade = upgrade ∧ self.inner = inner)
      (ListenerEvent.lift (fun _ _ up => ⟨up, .listener, .left (some upgrade)⟩) .transport) :=
  Forwards.of_eq (fun self : MapListener L stage => self.upgrade = upgrade) MapListener.inner
    (fun self inner => { self with inner }) _ (fun _ _ => rfl) (fun _ _ kept => kept)
    fun self kept => by
      subst kept
      simp only [MapListener.pollNext, bind, Except.bind, pure, Except.pure]
      rcases pollInner self.inner with msg | ⟨(_ | _) | _, inner⟩
      · rfl
      · rfl
      · simp only [ListenerEvent.mapErr_mapUpgrade]; rfl
      · rfl

def connect (t : Transport (P × C) TE) (stage : Stage X C D E) (addr : SocketAddr) :
    Except (TransportUpgradeError TE X E) (UpgradeFuture t.Dialer P stage) := do
  let fut ← (t.connect addr).mapError .transport
  pure { innerFut := fut, role := .dialer, upgrade := .left (some stage.upgrade) }

def listen (t : Transport (P × C) TE) (stage : Stage X C D E) (addr : SocketAddr) :
    Except (TransportUpgradeError TE X E) (MapListener t.Listener stage) := do
  let listener ← (t.listen addr).mapError .transport
  pure { inner := listener, upgrade := stage.upgrade }

theorem connect_eq (t : Transport (P × C) TE) (stage : Stage X C D E) (addr : SocketAddr) :
    connect t stage addr = (fun fut => ⟨fut, .dialer, .left (some stage.upgrade)⟩) <$>
      (t.connect addr).mapError .transport := by
  rw [connect, bind_pure_comp]

theorem listen_eq (t : Transport (P × C) TE) (stage : Stage X C D E) (addr : SocketAddr) :
    listen t stage addr = (fun listener => ⟨listener, stage.upgrade⟩) <$>
      (t.listen addr).mapError .transport := by
  rw [listen, bind_pure_comp]

end WithUpgrade

def Transport.withUpgrade {X C D E P TE : Type} (t : Transport (P × C) TE) (stage : Stage X C D E) :
    Transport (P × D) (TransportUpgradeError TE X E) where
  Dialer := UpgradeFuture t.Dialer P stage
  ListenerUpgrade := UpgradeFuture t.ListenerUpgrade P stage
  Listener := WithUpgrade.MapListener t.Listener stage
  listen := WithUpgrade.listen t stage
  connect := WithUpgrade.connect t stage
  pollDialer := UpgradeFuture.poll t.pollDialer stage
  pollUpgrade := UpgradeFuture.poll t.pollUpgrade stage
  pollNext := WithUpgrade.MapListener.pollNext t.pollNext

theorem Transport.withUpgrade_wraps {X C D E P TE : Type} (t : Transport (P × C) TE)
    (stage : Stage X C D E) (runs : ∀ role, stage.Runs role) :
    Wraps t (t.withUpgrade stage) .transport (UpgradeFuture.spec stage) where
  connect addr := ⟨_, WithUpgrade.connect_eq t stage addr,
    fun _ _ inner => UpgradeFuture.behaves (runs .dialer) inner⟩
  listen := ⟨fun _ _ up => ⟨up, .listener, .left (some stage.upgrade)⟩,
    fun self inner => self.upgrade = stage.upgrade ∧ self.inner = inner,
    fun addr => ⟨_, WithUpgrade.listen_eq t stage addr, fun _ => ⟨rfl, rfl⟩⟩,
    WithUpgrade.MapListener.forwards t.pollNext stage.upgrade,
    fun _ _ _ _ inner => UpgradeFuture.behaves (runs .listener) inner⟩

/-- `Multiplex`: the peer id until it is handed out, and the muxer stage's `UpgradeApply`. -/
structure Multiplex {X C M E : Type} (P : Type) (stage : Stage X C M E) where
  peerId : Option P
  upgrade : UpgradeApply X stage.I stage.N stage.U stage.F

namespace Multiplex
variable {X C M E P : Type} {stage : Stage X C M E}

def poll : PollFn (Multiplex P stage) (Except (UpgradeError X E) (P × M)) := fun this => do
  let (r, upgrade) ← UpgradeApply.poll stage.up this.upgrade
  let this := { this with upgrade }
  match r with
  | .pending => pure (.pending, this)
  | .ready (.error err) => pure (.ready (.error err), this)
  | .ready (.ok m) =>
    let i ← expect "Multiplex future polled after completion." this.peerId
    pure (.ready (.ok (i, m)), { this with peerId := none })

theorem behaves {up : UpgradeApply X stage.I stage.N stage.U stage.F} {d : Fut (Except (UpgradeError X E) M)}
    (i : P) (runs : Behaves (UpgradeApply.poll stage.up) up d) :
    Behaves (poll : PollFn (Multiplex P stage) _) ⟨some i, up⟩
      (d.map fun r => r.map fun m => (i, m)) :=
  Behaves.simulate (q := poll) (fun up => (⟨some i, up⟩ : Multiplex P stage)) _
    (fun _ _ polled => by simp only [poll, polled]; rfl)
    (fun _ _ r polled => by
      rcases r with e | m
      · exact ⟨_, by simp only [poll, polled]; rfl⟩
      · exact ⟨_, by simp only [poll, polled]; rfl⟩) runs

end Multiplex

def AuthenticatedBuilder.multiplexMap {X C M E P : Type} (stage : Stage X C M E) :
    P × C → ConnectedPoint → Multiplex P stage := fun (id, io) endpoint =>
  let upgrade := if endpoint.isDialer then UpgradeApply.newOutbound stage.sel stage.up io stage.upgrade
    else UpgradeApply.newInbound stage.sel stage.up io stage.upgrade
  { peerId := some id, upgrade }

/-- `Multiplexed<T>`: `T` itself. -/
def Transport.multiplexed {O E : Type} (t : Transport O E) : Transport O E where
  Dialer := t.Dialer
  ListenerUpgrade := t.ListenerUpgrade
  Listener := t.Listener
  listen := t.listen
  connect := t.connect
  pollDialer := t.pollDialer
  pollUpgrade := t.pollUpgrade
  pollNext := t.pollNext

def AuthenticatedBuilder.multiplex {X C M E P TE : Type} (t : Transport (P × C) TE)
    (stage : Stage X C M E) : Transport (P × M) (Either TE (UpgradeError X E)) :=
  (t.andThen (AuthenticatedBuilder.multiplexMap stage) Multiplex.poll).multiplexed

/-- What `multiplex` is for: the inner run, then the muxer stage on its stream, the peer id put on
the muxer. -/
def AuthenticatedBuilder.multiplexSpec {X C M E P TE : Type} (stage : Stage X C M E)
    (role : Endpoint) (d : Fut (Except TE (P × C))) : Fut (Except (Either TE (UpgradeError X E)) (P × M)) :=
  AndThenFuture.spec d fun (i, io) => (stage.spec role io).map fun r => r.map fun m => (i, m)

theorem AuthenticatedBuilder.multiplex_wraps {X C M E P TE : Type} (t : Transport (P × C) TE)
    (stage : Stage X C M E) (runs : ∀ role, stage.Runs role) :
    Wraps t (AuthenticatedBuilder.multiplex t stage) .left (multiplexSpec stage) :=
  t.andThen_wraps _ _ _ (fun (i, io) _ => Multiplex.behaves i (Stage.behaves (runs .dialer) io))
    (fun (i, io) _ _ => Multiplex.behaves i (Stage.behaves (runs .listener) io))

/-- The `apply` stages after authentication, in order, each upgrading the stream the one before
gave: from the stream `C` to the stream `O`. -/
inductive Applies (X : Type) : Type → Type → Type 1 where
  | nil (C : Type) : Applies X C C
  | cons {C D O E : Type} (stage : Stage X C D E) (rest : Applies X D O) : Applies X C O

namespace Applies
variable {X P : Type}

def Err : {C O : Type} → Applies X C O → Type → Type
  | _, _, nil _, TE => TE
  | _, _, cons (E := E) _ rest, TE => rest.Err (TransportUpgradeError TE X E)

def lift : {C O TE : Type} → (as : Applies X C O) → TE → as.Err TE
  | _, _, _, nil _, e => e
  | _, _, _, cons _ rest, e => rest.lift (.transport e)

def transport : {C O TE : Type} → (as : Applies X C O) → Transport (P × C) TE →
    Transport (P × O) (as.Err TE)
  | _, _, _, nil _, t => t
  | _, _, _, cons stage rest, t => rest.transport (t.withUpgrade stage)

/-- The stages in order on the inner run. -/
def spec : {C O TE : Type} → (as : Applies X C O) → Endpoint → Fut (Except TE (P × C)) →
    Fut (Except (as.Err TE) (P × O))
  | _, _, _, nil _, _, d => d
  | _, _, _, cons stage rest, role, d => rest.spec role (UpgradeFuture.spec stage role d)

def Runs : {C O : Type} → Applies X C O → Prop
  | _, _, nil _ => True
  | _, _, cons stage rest => (∀ role, stage.Runs role) ∧ rest.Runs

theorem wraps {C O TE : Type} (as : Applies X C O) (t : Transport (P × C) TE) (runs : as.Runs) :
    Wraps t (as.transport t) as.lift as.spec := by
  induction as generalizing TE with
  | nil => exact Wraps.refl t
  | cons stage rest ih => exact (t.withUpgrade_wraps stage runs.1).trans (ih _ runs.2)

end Applies

/-- `T.upgrade().authenticate(A).apply(U1)...apply(Un)`, and the same followed by `.multiplex(M)`:
`connect` and `listen` fail exactly when `T`'s do, with `T`'s error under the injections of every
stage; and every dialer future, and every upgrade an `Incoming` carries, runs the raw future, then
`A`, `U1`, ..., `Un` (and `M`) in order, each built only once the one before gave `Ok`, through
`new_outbound` for a dial and `new_inbound` for an `Incoming`; the peer id `A` gave is carried to
the end, and a stage's failure is tagged with that stage's injection. -/
theorem upgrade_pipeline_runs_stages_in_order {X C D O P TE EA : Type} (t : Transport C TE)
    (auth : Stage X C (P × D) EA) (applies : Applies X D O) (authRuns : ∀ role, auth.Runs role)
    (applyRuns : applies.Runs) :
    Wraps t (applies.transport (Builder.authenticate t auth)) (applies.lift ∘ Either.left)
        (fun role d => applies.spec role (AndThenFuture.spec d (auth.spec role))) ∧
      ∀ {M EM : Type} (mux : Stage X O M EM), (∀ role, mux.Runs role) →
        Wraps t (AuthenticatedBuilder.multiplex (applies.transport (Builder.authenticate t auth)) mux)
          (Either.left ∘ applies.lift ∘ Either.left)
          (fun role d => AuthenticatedBuilder.multiplexSpec mux role
            (applies.spec role (AndThenFuture.spec d (auth.spec role)))) := by
  have authenticated := (Builder.authenticate_wraps t auth authRuns).trans (applies.wraps _ applyRuns)
  exact ⟨authenticated, fun mux muxRuns =>
    authenticated.trans (AuthenticatedBuilder.multiplex_wraps _ mux muxRuns)⟩

/-- A transport whose every dial and accept gives the unit stream at once. -/
def instantUnit : Transport Unit Unit where
  Dialer := Fut (Except Unit Unit)
  ListenerUpgrade := Fut (Except Unit Unit)
  Listener := Unit
  listen _ := .ok ()
  connect _ := .ok (.ready (.ok ()))
  pollDialer := Fut.poll
  pollUpgrade := Fut.poll
  pollNext listener := .ok (.pending, listener)

/-- A stage that negotiates `name` at once, hands the stream on as `negotiated io`, and upgrades it
with `ReadyUpgrade`. -/
def readyStage {C D : Type} (name : String) (negotiated : C → D) : Stage Unit C D Empty where
  I := String
  N := D
  U := ReadyUpgrade String
  F := Ready (Except Empty D)
  sel := ⟨fun io _ => .ready (.ok (name, negotiated io)), fun io _ => .ready (.ok (name, negotiated io))⟩
  up := ReadyUpgrade.upgrade id
  upgrade := ⟨name⟩
  run stream _ := .ready (.ok stream)

theorem readyStage_runs {C D : Type} (name : String) (negotiated : C → D) (role : Endpoint) :
    (readyStage name negotiated).Runs role :=
  fun _ _ connection _ => ReadyUpgrade.behaves id role _ connection _

theorem instantUnit_pipeline :
    (∀ role, (readyStage "/auth" fun io : Unit => ((), io)).Runs role) ∧
      (Applies.cons (readyStage "/id" id) (.nil Unit)).Runs ∧
      Wraps instantUnit ((Applies.cons (readyStage "/id" id) (.nil Unit)).transport
          (Builder.authenticate instantUnit (readyStage "/auth" fun io : Unit => ((), io))))
        ((Applies.cons (readyStage "/id" id) (.nil Unit)).lift ∘ Either.left)
        (fun role d => (Applies.cons (readyStage "/id" id) (.nil Unit)).spec role
          (AndThenFuture.spec d ((readyStage "/auth" fun io : Unit => ((), io)).spec role))) :=
  have authRuns := readyStage_runs "/auth" (fun io : Unit => ((), io))
  have applyRuns : (Applies.cons (readyStage "/id" id) (.nil Unit)).Runs :=
    ⟨readyStage_runs "/id" id, trivial⟩
  ⟨authRuns, applyRuns,
    (upgrade_pipeline_runs_stages_in_order instantUnit _ _ authRuns applyRuns).1⟩

end Airio
