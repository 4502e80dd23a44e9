import Airio.Transport

/-! `map_err` and `boxed`: every error of the inner transport goes through one function once,
on all five paths (a failing `connect` or `listen`, a failing dialer or upgrade future, and a
listener's `Error` and `Closed(Err(_))`). `boxed` is `map_err(box_err)` behind trait objects. -/
namespace Airio

structure MapErrListener (L E R : Type) where
  inner : L
  map : E → R

namespace MapErrListener
variable {L υ E R : Type}

def pollNext (pollInner : PollFn L (Option (ListenerEvent υ E))) :
    PollFn (MapErrListener L E R) (Option (ListenerEvent (MapErr υ E R) R)) := fun self => do
  let (r, inner) ← pollInner self.inner
  let self := { self with inner }
  match r with
  | .ready (some event) => pure (.ready (some ((event.mapUpgradeErr self.map).mapErr self.map)), self)
  | .ready none => pure (.ready none, self)
  | .pending => pure (.pending, self)

theorem forwards (pollInner : PollFn L (Option (ListenerEvent υ E))) (map : E → R) :
    Forwards pollInner (pollNext pollInner)
      (fun self inner => self.map = map ∧ self.inner = inner)
      (ListenerEvent.lift (fun _ _ upgrade => .incomplete upgrade map) map) :=
  Forwards.of_eq (fun self : MapErrListener L E R => self.map = map) inner
    (fun self inner => { self with inner }) _
    (fun _ _ => rfl) (fun _ _ kept => kept) fun self kept => by
      subst kept
      simp only [pollNext, bind, Except.bind, pure, Except.pure]
      rcases pollInner self.inner with msg | ⟨(_ | _) | _, inner⟩
      · rfl
      · rfl
      · simp only [ListenerEvent.mapErr_mapUpgradeErr]; rfl
      · rfl

end MapErrListener

/-! The transport `transport::map_err::MapErr<T, TMap>`; its futures are `future::MapErr`. -/
namespace MapErr
variable {O E R : Type}

def connect (t : Transport O E) (func : E → R) (addr : SocketAddr) :
    Except R (MapErr t.Dialer E R) := do
  let map := func
  let dialer ← (t.connect addr).mapError map
  pure (.incomplete dialer func)

def listen (t : Transport O E) (func : E → R) (addr : SocketAddr) :
    Except R (MapErrListener t.Listener E R) := do
  let listener ← (t.listen addr).mapError func
  pure ⟨listener, func⟩

theorem connect_eq (t : Transport O E) (func : E → R) (addr : SocketAddr) :
    connect t func addr = (fun dialer => .incomplete dialer func) <$> (t.connect addr).mapError func := by
  simp only [connect, bind_pure_comp]

theorem listen_eq (t : Transport O E) (func : E → R) (addr : SocketAddr) :
    listen t func addr = (fun listener => ⟨listener, func⟩) <$> (t.listen addr).mapError func := by
  rw [listen, bind_pure_comp]

end MapErr

def Transport.mapErr {O E R : Type} (t : Transport O E) (func : E → R) : Transport O R where
  Dialer := MapErr t.Dialer E R
  ListenerUpgrade := MapErr t.ListenerUpgrade E R
  Listener := MapErrListener t.Listener E R
  listen := MapErr.listen t func
  connect := MapErr.connect t func
  pollDialer := MapErr.poll t.pollDialer
  pollUpgrade := MapErr.poll t.pollUpgrade
  pollNext := MapErrListener.pollNext t.pollNext

/-! `transport::boxed`: `Abstract` for every transport, with `box_err`, which is
`io::Error::other`, standing for its error map. A boxed future or stream is the one it boxes. -/
namespace Boxed
variable {O E IoError : Type}

def connect (t : Transport O E) (boxErr : E → IoError) (addr : SocketAddr) :
    Except IoError (MapErr t.Dialer E IoError) := do
  let fut ← (t.connect addr).mapError boxErr
  pure (.incomplete fut fun e => boxErr e)

theorem connect_eq (t : Transport O E) (boxErr : E → IoError) (addr : SocketAddr) :
    connect t boxErr addr = (fun fut => .incomplete fut boxErr) <$> (t.connect addr).mapError boxErr := by
  rw [connect, bind_pure_comp]

/-- The listener `listener.map(...)` of `Abstract::listen`: each event goes through
`map_upgrade_err(box_err)`, `map_err(box_err)` and `map_upgrade(Box::pin)`. -/
def pollNext {L υ : Type} (pollInner : PollFn L (Option (ListenerEvent υ E))) (boxErr : E → IoError) :
    PollFn L (Option (ListenerEvent (MapErr υ E IoError) IoError)) := fun stream => do
  let (r, stream) ← pollInner stream
  pure (r.map (Option.map fun event =>
    ((event.mapUpgradeErr boxErr).mapErr boxErr).mapUpgrade fun up => up), stream)

def listen (t : Transport O E) (boxErr : E → IoError) (addr : SocketAddr) :
    Except IoError t.Listener :=
  (t.listen addr).mapError boxErr

theorem forwards {L υ : Type} (pollInner : PollFn L (Option (ListenerEvent υ E)))
    (boxErr : E → IoError) :
    Forwards pollInner (pollNext pollInner boxErr) (fun self inner => True ∧ self = inner)
      (ListenerEvent.lift (fun _ _ upgrade => .incomplete upgrade boxErr) boxErr) :=
  Forwards.of_eq (fun _ => True) id (fun _ inner => inner) _ (fun _ _ => rfl) (fun _ _ _ => trivial)
    fun stream _ => by
      have boxed : (fun event : ListenerEvent υ E =>
          ((event.mapUpgradeErr boxErr).mapErr boxErr).mapUpgrade fun up => up) =
          ListenerEvent.lift (fun _ _ upgrade => .incomplete upgrade boxErr) boxErr := by
        funext event
        cases event <;> rfl
      simp only [pollNext, boxed, id_eq]
      cases pollInner stream <;> rfl

end Boxed

def Transport.boxed {O E IoError : Type} (t : Transport O E) (boxErr : E → IoError) :
    Transport O IoError where
  Dialer := MapErr t.Dialer E IoError
  ListenerUpgrade := MapErr t.ListenerUpgrade E IoError
  Listener := t.Listener
  listen := Boxed.listen t boxErr
  connect := Boxed.connect t boxErr
  pollDialer := MapErr.poll t.pollDialer
  pollUpgrade := MapErr.poll t.pollUpgrade
  pollNext := Boxed.pollNext t.pollNext boxErr

/-- What a transport over `t` with error map `f` must do: `connect` and `listen` fail exactly
when `t`'s do, with `f` of its error; its futures are `t`'s with each error mapped by `f` once;
its listener gives `t`'s events at the same polls, `Listened`, the addresses and `Closed(Ok(()))`
kept and each error mapped by `f` once. -/
structure MapsErrors {O E R : Type} (t : Transport O E) (f : E → R) (t' : Transport O R)
    (dialer : t.Dialer → t'.Dialer) (upgrade : t.ListenerUpgrade → t'.ListenerUpgrade)
    (listener : t.Listener → t'.Listener) : Prop where
  connect : ∀ addr, t'.connect addr = dialer <$> (t.connect addr).mapError f
  listen : ∀ addr, t'.listen addr = listener <$> (t.listen addr).mapError f
  dialerRuns : ∀ fut d, Behaves t.pollDialer fut d →
    Behaves t'.pollDialer (dialer fut) (d.map (Except.mapError f))
  upgradeRuns : ∀ fut d, Behaves t.pollUpgrade fut d →
    Behaves t'.pollUpgrade (upgrade fut) (d.map (Except.mapError f))
  forwards : Forwards t.pollNext t'.pollNext (fun self inner => self = listener inner)
    (ListenerEvent.lift (fun _ _ => upgrade) f)

/-- `map_err(f)` over any transport, and `boxed` with `f = box_err`, map every error of the inner
transport by `f` exactly once and keep everything else. -/
theorem mapErr_boxed_map_every_error {O E R : Type} (t : Transport O E) (f : E → R) :
    MapsErrors t f (t.mapErr f) (fun fut => .incomplete fut f) (fun fut => .incomplete fut f)
        (fun inner => ⟨inner, f⟩) ∧
      MapsErrors t f (t.boxed f) (fun fut => .incomplete fut f) (fun fut => .incomplete fut f) id := by
  refine ⟨⟨MapErr.connect_eq t f, MapErr.listen_eq t f, fun _ _ runs => MapErr.behaves f runs,
      fun _ _ runs => MapErr.behaves f runs, ?_⟩,
    ⟨Boxed.connect_eq t f, fun addr => (id_map _).symm, fun _ _ runs => MapErr.behaves f runs,
      fun _ _ runs => MapErr.behaves f runs, ?_⟩⟩
  · exact (MapErrListener.forwards t.pollNext f).congr fun self inner =>
      ⟨fun ⟨kept, got⟩ => by rw [← kept, ← got], fun same => by subst same; exact ⟨rfl, rfl⟩⟩
  · exact (Boxed.forwards t.pollNext f).congr fun _ _ => Iff.of_eq (true_and _)

end Airio
