import Airio.Future

/-! Addresses, roles and listener events, and the `Transport` capability with its
associated futures and listener stream. Every combinator of the crate is a function
from transports to transports over these. -/
namespace Airio

inductive IpAddr where
  | v4 (bits : UInt32)
  | v6 (bits : BitVec 128)
  deriving DecidableEq, Repr

structure SocketAddr where
  ip : IpAddr
  port : UInt16
  deriving DecidableEq, Repr

inductive Endpoint where
  | dialer
  | listener
  deriving DecidableEq, Repr

inductive ConnectedPoint where
  | dialer (addr : SocketAddr)
  | listener (localAddr remoteAddr : SocketAddr)
  deriving DecidableEq, Repr

def Endpoint.not : Endpoint → Endpoint
  | .dialer => .listener
  | .listener => .dialer

def Endpoint.isDialer : Endpoint → Bool
  | .dialer => true
  | .listener => false

def Endpoint.isListener : Endpoint → Bool
  | .dialer => false
  | .listener => true

def ConnectedPoint.isDialer : ConnectedPoint → Bool
  | .dialer _ => true
  | .listener _ _ => false

def ConnectedPoint.isListener : ConnectedPoint → Bool
  | .dialer _ => false
  | .listener _ _ => true

inductive ListenerEvent (U E : Type) where
  | listened (addr : SocketAddr)
  | incoming (localAddr remoteAddr : SocketAddr) (upgrade : U)
  | closed (result : Except E Unit)
  | error (err : E)

namespace ListenerEvent

def mapUpgrade (f : U → O) : ListenerEvent U E → ListenerEvent O E
  | listened addr => listened addr
  | incoming localAddr remoteAddr upgrade => incoming localAddr remoteAddr (f upgrade)
  | closed result => closed result
  | error err => error err

def mapErr (f : E → O) : ListenerEvent U E → ListenerEvent U O
  | listened addr => listened addr
  | incoming localAddr remoteAddr upgrade => incoming localAddr remoteAddr upgrade
  | closed result => closed (result.mapError f)
  | error err => error (f err)

def mapUpgradeErr (f : E → O) : ListenerEvent U E → ListenerEvent (MapErr U E O) E
  | listened addr => listened addr
  | incoming localAddr remoteAddr upgrade => incoming localAddr remoteAddr (.incomplete upgrade f)
  | closed result => closed result
  | error err => error err

/-- The one shape every listener combinator gives the events it forwards: the variant and the
addresses are kept, an `Incoming` upgrade is wrapped by `g` (which may read the addresses), and
the errors of `Error` and `Closed(Err(_))` are mapped by `ε`. -/
def lift (g : SocketAddr → SocketAddr → U → U') (ε : E → E') : ListenerEvent U E → ListenerEvent U' E'
  | listened addr => listened addr
  | incoming localAddr remoteAddr upgrade => incoming localAddr remoteAddr (g localAddr remoteAddr upgrade)
  | closed result => closed (result.mapError ε)
  | error err => error (ε err)

theorem lift_lift (g : SocketAddr → SocketAddr → U → U') (ε : E → E')
    (g' : SocketAddr → SocketAddr → U' → U'') (ε' : E' → E'') (ev : ListenerEvent U E) :
    (ev.lift g ε).lift g' ε' = ev.lift (fun l r => g' l r ∘ g l r) (ε' ∘ ε) := by
  cases ev with
  | closed result => cases result <;> rfl
  | _ => rfl

@[simp] theorem lift_id (ev : ListenerEvent U E) : ev.lift (fun _ _ upgrade => upgrade) id = ev := by
  cases ev with
  | closed result => cases result <;> rfl
  | _ => rfl

theorem mapErr_mapUpgrade (f : U → O) (ε : E → E') (ev : ListenerEvent U E) :
    (ev.mapUpgrade f).mapErr ε = ev.lift (fun _ _ => f) ε := by
  cases ev <;> rfl

theorem mapErr_mapUpgradeErr (ε : E → E') (ev : ListenerEvent U E) :
    (ev.mapUpgradeErr ε).mapErr ε = ev.lift (fun _ _ u => .incomplete u ε) ε := by
  cases ev <;> rfl

end ListenerEvent

/-- `airio_core::Transport` with its associated types: `listen` and `connect`, and the `poll`
of its dialer futures, of the upgrade futures its listener hands out, and of the listener. -/
structure Transport (O E : Type) : Type 1 where
  Dialer : Type
  ListenerUpgrade : Type
  Listener : Type
  listen : SocketAddr → Except E Listener
  connect : SocketAddr → Except E Dialer
  pollDialer : PollFn Dialer (Except E O)
  pollUpgrade : PollFn ListenerUpgrade (Except E O)
  pollNext : PollFn Listener (Option (ListenerEvent ListenerUpgrade E))

/-- A `poll_next` result of a stream that forwards another, against the inner stream's result
`inner`: the same panic, or the same poll with its event mapped by `φ`, ending in states related
by `R`. -/
def Forwarded (R : τ → σ → Prop) (φ : ListenerEvent U E → ListenerEvent U' E') :
    Except String (Poll (Option (ListenerEvent U' E')) × τ) →
      Except String (Poll (Option (ListenerEvent U E)) × σ) → Prop
  | .error msg', .error msg => msg' = msg
  | .ok (r', t), .ok (r, s) => r' = r.map (Option.map φ) ∧ R t s
  | _, _ => False

/-- The listener `pollOut` forwards `pollIn`: from related states, each `poll_next` is one
`poll_next` of the inner listener with its event mapped by `φ`. -/
def Forwards (pollIn : PollFn σ (Option (ListenerEvent U E)))
    (pollOut : PollFn τ (Option (ListenerEvent U' E'))) (R : τ → σ → Prop)
    (φ : ListenerEvent U E → ListenerEvent U' E') : Prop :=
  ∀ t s, R t s → Forwarded R φ (pollOut t) (pollIn s)

theorem Forwards.of_eq {pollIn : PollFn σ (Option (ListenerEvent U E))}
    {pollOut : PollFn τ (Option (ListenerEvent U' E'))} (keep : τ → Prop) (get : τ → σ)
    (set : τ → σ → τ) (φ : ListenerEvent U E → ListenerEvent U' E')
    (get_set : ∀ t s, get (set t s) = s) (keep_set : ∀ t s, keep t → keep (set t s))
    (polls : ∀ t, keep t →
      pollOut t = (fun (r, s) => (r.map (Option.map φ), set t s)) <$> pollIn (get t)) :
    Forwards pollIn pollOut (fun t s => keep t ∧ get t = s) φ := by
  rintro t s ⟨kept, rfl⟩
  rw [polls t kept]
  cases pollIn (get t) with
  | error msg => rfl
  | ok p => exact ⟨rfl, keep_set _ _ kept, get_set _ _⟩

theorem Forwarded.trans {R₁ : τ → σ → Prop} {R₂ : ρ → τ → Prop}
    {φ₁ : ListenerEvent U E → ListenerEvent U' E'} {φ₂ : ListenerEvent U' E' → ListenerEvent U'' E''}
    {x : Except String (Poll (Option (ListenerEvent U E)) × σ)}
    {y : Except String (Poll (Option (ListenerEvent U' E')) × τ)}
    {z : Except String (Poll (Option (ListenerEvent U'' E'')) × ρ)}
    (first : Forwarded R₁ φ₁ y x) (second : Forwarded R₂ φ₂ z y) :
    Forwarded (fun u s => ∃ t, R₂ u t ∧ R₁ t s) (φ₂ ∘ φ₁) z x := by
  rcases x with msg₁ | ⟨r₁, s'⟩ <;> rcases y with msg₂ | ⟨r₂, t'⟩ <;>
    rcases z with msg₃ | ⟨r₃, u'⟩ <;> simp only [Forwarded] at first second ⊢
  · exact second.trans first
  · obtain ⟨rfl, related₁⟩ := first
    obtain ⟨rfl, related₂⟩ := second
    exact ⟨by cases r₁ <;> simp [Option.map_map], t', related₂, related₁⟩

theorem Forwards.trans {p₁ : PollFn σ (Option (ListenerEvent U E))}
    {p₂ : PollFn τ (Option (ListenerEvent U' E'))} {p₃ : PollFn ρ (Option (ListenerEvent U'' E''))}
    {R₁ : τ → σ → Prop} {R₂ : ρ → τ → Prop} {φ₁ : ListenerEvent U E → ListenerEvent U' E'}
    {φ₂ : ListenerEvent U' E' → ListenerEvent U'' E''} (first : Forwards p₁ p₂ R₁ φ₁)
    (second : Forwards p₂ p₃ R₂ φ₂) :
    Forwards p₁ p₃ (fun u s => ∃ t, R₂ u t ∧ R₁ t s) (φ₂ ∘ φ₁) :=
  fun u s ⟨t, related₂, related₁⟩ => (first t s related₁).trans (second u t related₂)

theorem Forwards.congr {pollIn : PollFn σ (Option (ListenerEvent U E))}
    {pollOut : PollFn τ (Option (ListenerEvent U' E'))} {R R' : τ → σ → Prop}
    {φ : ListenerEvent U E → ListenerEvent U' E'} (forwards : Forwards pollIn pollOut R φ)
    (same : ∀ t s, R t s ↔ R' t s) : Forwards pollIn pollOut R' φ := by
  obtain rfl : R = R' := funext fun t => funext fun s => propext (same t s)
  exact forwards

theorem Forwards.self (poll : PollFn σ (Option (ListenerEvent U E))) :
    Forwards poll poll Eq (ListenerEvent.lift (fun _ _ upgrade => upgrade) id) := by
  rintro s _ rfl
  rcases poll s with msg | ⟨r, s'⟩
  · rfl
  · exact ⟨by rcases r with (_ | ev) | _ <;> simp, rfl⟩

/-- The results of `n` polls of a stream from `s`, stopping only at a panic. -/
def pollsOf (poll : PollFn σ α) : Nat → σ → Except String (List (Poll α))
  | 0, _ => .ok []
  | n + 1, s =>
    match poll s with
    | .error msg => .error msg
    | .ok (r, s') => (List.cons r) <$> pollsOf poll n s'

/-- Polling `s` once for each entry of `rs` returns exactly those results and leaves `t`. -/
inductive Polls (poll : PollFn σ α) : σ → List (Poll α) → σ → Prop
  | nil (s) : Polls poll s [] s
  | cons {s s' t r rs} (polled : poll s = .ok (r, s')) (rest : Polls poll s' rs t) :
      Polls poll s (r :: rs) t

namespace Polls
variable {poll : PollFn σ α}

theorem append {s t u : σ} {rs rs' : List (Poll α)} (first : Polls poll s rs t)
    (second : Polls poll t rs' u) : Polls poll s (rs ++ rs') u := by
  induction first with
  | nil => exact second
  | cons polled _ ih => exact .cons polled (ih second)

theorem of_poll_eq {s t u : σ} {rs : List (Poll α)} (same : poll t = poll s)
    (runs : Polls poll s rs u) (nonempty : rs ≠ []) : Polls poll t rs u := by
  cases runs with
  | nil => exact absurd rfl nonempty
  | cons polled rest => exact .cons (same.trans polled) rest

theorem pollsOf_append {s t : σ} {rs : List (Poll α)} (runs : Polls poll s rs t) (n : Nat) :
    pollsOf poll (rs.length + n) s = (rs ++ ·) <$> pollsOf poll n t := by
  induction runs with
  | nil =>
    rw [List.length_nil, Nat.zero_add]
    cases pollsOf poll n _ <;> rfl
  | cons polled _ ih =>
    rw [List.length_cons, Nat.add_right_comm]
    simp only [pollsOf, polled, ih]
    cases pollsOf poll n _ <;> rfl

end Polls

theorem pollsOf_congr {poll : PollFn σ α} {s t : σ} (same : poll t = poll s) (n : Nat) :
    pollsOf poll (n + 1) t = pollsOf poll (n + 1) s := by
  simp only [pollsOf, same]

/-- Over every run of `n` polls, a forwarding listener returns the inner listener's results with
each event mapped by `φ`: `Pending` and end of stream exactly when the inner one does. -/
theorem Forwards.pollsOf {pollIn : PollFn σ (Option (ListenerEvent U E))}
    {pollOut : PollFn τ (Option (ListenerEvent U' E'))} {R : τ → σ → Prop}
    {φ : ListenerEvent U E → ListenerEvent U' E'} (forwards : Forwards pollIn pollOut R φ)
    (n : Nat) {t : τ} {s : σ} (related : R t s) :
    pollsOf pollOut n t = (List.map (Poll.map (Option.map φ))) <$> pollsOf pollIn n s := by
  induction n generalizing t s with
  | zero => rfl
  | succ n ih =>
    have step := forwards t s related
    simp only [Airio.pollsOf]
    revert step
    generalize pollOut t = y
    generalize pollIn s = x
    rcases x with msg | ⟨r, s'⟩ <;> rcases y with msg' | ⟨r', t'⟩ <;> intro step <;>
      simp only [Forwarded] at step
    · rw [step]; rfl
    · obtain ⟨rfl, related'⟩ := step
      simp only
      rw [ih related']
      cases Airio.pollsOf pollIn n s' <;> rfl

@[simp] theorem Except.mapError_id (x : Except E α) : x.mapError id = x := by
  cases x <;> rfl

theorem Except.map_mapError_map (x : Except E α) (ε : E → E') (ε' : E' → E'') (f : α → β)
    (g : β → γ) : g <$> (f <$> x.mapError ε).mapError ε' = (g ∘ f) <$> x.mapError (ε' ∘ ε) := by
  cases x <;> rfl

/-- `t'` runs every connection of `t` through `S`: `connect` and `listen` fail exactly when `t`'s
do, with the error mapped by `ε`; a dialer future of `t` that runs as `d` is wrapped into one that
runs as `S .dialer d`; and the listener forwards `t`'s, each `Incoming` upgrade that runs as `d`
wrapped into one that runs as `S .listener d`. -/
structure Wraps (t : Transport O E) (t' : Transport O' E') (ε : E → E')
    (S : Endpoint → Fut (Except E O) → Fut (Except E' O')) : Prop where
  connect : ∀ addr, ∃ wrap : t.Dialer → t'.Dialer,
    t'.connect addr = wrap <$> (t.connect addr).mapError ε ∧
      ∀ fut d, Behaves t.pollDialer fut d → Behaves t'.pollDialer (wrap fut) (S .dialer d)
  listen : ∃ (g : SocketAddr → SocketAddr → t.ListenerUpgrade → t'.ListenerUpgrade)
      (R : t'.Listener → t.Listener → Prop),
    (∀ addr, ∃ wrap : t.Listener → t'.Listener,
      t'.listen addr = wrap <$> (t.listen addr).mapError ε ∧ ∀ listener, R (wrap listener) listener) ∧
    Forwards t.pollNext t'.pollNext R (ListenerEvent.lift g ε) ∧
    ∀ localAddr remoteAddr upgrade d, Behaves t.pollUpgrade upgrade d →
      Behaves t'.pollUpgrade (g localAddr remoteAddr upgrade) (S .listener d)

theorem Wraps.refl (t : Transport O E) : Wraps t t id fun _ d => d where
  connect addr := ⟨id, by cases t.connect addr <;> rfl, fun _ _ runs => runs⟩
  listen := ⟨fun _ _ upgrade => upgrade, Eq,
    fun addr => ⟨id, by cases t.listen addr <;> rfl, fun _ => rfl⟩, Forwards.self t.pollNext,
    fun _ _ _ _ runs => runs⟩

theorem Wraps.trans {t : Transport O E} {t' : Transport O' E'} {t'' : Transport O'' E''}
    {ε : E → E'} {ε' : E' → E''} {S : Endpoint → Fut (Except E O) → Fut (Except E' O')}
    {S' : Endpoint → Fut (Except E' O') → Fut (Except E'' O'')} (first : Wraps t t' ε S)
    (second : Wraps t' t'' ε' S') : Wraps t t'' (ε' ∘ ε) fun role d => S' role (S role d) where
  connect addr := by
    obtain ⟨wrap, connected, runs⟩ := first.connect addr
    obtain ⟨wrap', connected', runs'⟩ := second.connect addr
    exact ⟨wrap' ∘ wrap, by rw [connected', connected, Except.map_mapError_map],
      fun _ _ inner => runs' _ _ (runs _ _ inner)⟩
  listen := by
    obtain ⟨g, R, listened, forwards, runs⟩ := first.listen
    obtain ⟨g', R', listened', forwards', runs'⟩ := second.listen
    refine ⟨fun l r => g' l r ∘ g l r, fun u s => ∃ t, R' u t ∧ R t s, fun addr => ?_, ?_,
      fun _ _ _ _ inner => runs' _ _ _ _ (runs _ _ _ _ inner)⟩
    · obtain ⟨wrap, opened, related⟩ := listened addr
      obtain ⟨wrap', opened', related'⟩ := listened' addr
      exact ⟨wrap' ∘ wrap, by rw [opened', opened, Except.map_mapError_map],
        fun l => ⟨wrap l, related' _, related l⟩⟩
    · have lifted : ListenerEvent.lift g' ε' ∘ ListenerEvent.lift g ε =
          ListenerEvent.lift (fun l r => g' l r ∘ g l r) (ε' ∘ ε) :=
        funext (ListenerEvent.lift_lift g ε g' ε')
      exact lifted ▸ forwards.trans forwards'

end Airio
