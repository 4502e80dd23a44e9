/-! Futures as their one poller sees them. A future is its `poll` over the state its fields
hold, a panic is an `Except.error` carrying the panic message, and a future that resolves
is described by its run: the `Pending`s it returns, then its `Ready` value. -/
namespace Airio

inductive Poll (α : Type) where
  | ready (a : α)
  | pending
  deriving Repr, DecidableEq

def Poll.map (f : α → β) : Poll α → Poll β
  | .ready a => .ready (f a)
  | .pending => .pending

@[simp] theorem Poll.map_ready (f : α → β) (a : α) : (Poll.ready a).map f = .ready (f a) := rfl
@[simp] theorem Poll.map_pending (f : α → β) : (Poll.pending : Poll α).map f = .pending := rfl
@[simp] theorem Poll.map_comp_map (f : β → γ) (g : α → β) :
    Poll.map f ∘ Poll.map g = Poll.map (f ∘ g) := by
  funext r
  cases r <;> rfl

/-- `either::Either`, and `futures::future::Either` with the same two tags. -/
inductive Either (α β : Type) where
  | left (a : α)
  | right (b : β)
  deriving Repr, DecidableEq

def expect (msg : String) : Option α → Except String α
  | some a => .ok a
  | none => .error msg

@[simp] theorem expect_some (msg : String) (a : α) : expect msg (some a) = .ok a := rfl
@[simp] theorem expect_none (msg : String) : expect msg (none : Option α) = .error msg := rfl

theorem Except.bind_eq_ok {ε α β : Type} {x : Except ε α} {f : α → Except ε β} {b : β} :
    x >>= f = .ok b ↔ ∃ a, x = .ok a ∧ f a = .ok b := by
  cases x <;> simp [bind, Except.bind]

theorem Except.map_eq_ok {ε α β : Type} {x : Except ε α} {f : α → β} {b : β} :
    f <$> x = .ok b ↔ ∃ a, x = .ok a ∧ f a = b := by
  cases x <;> simp [Functor.map, Except.map]

theorem Except.mapError_eq_ok {ε ε' α : Type} {x : Except ε α} {f : ε → ε'} {a : α} :
    x.mapError f = .ok a ↔ x = .ok a := by
  cases x <;> simp [Except.mapError]

/-- `Future::poll` (or `Stream::poll_next`) over the state `σ` of the future's fields. -/
abbrev PollFn (σ α : Type) := σ → Except String (Poll α × σ)

/-- The run of a future that resolves: the `Pending`s its poller sees, then `Ready a`. -/
inductive Fut (α : Type) where
  | ready (a : α)
  | pending (next : Fut α)
  deriving Repr, DecidableEq

namespace Fut

def bind : Fut α → (α → Fut β) → Fut β
  | ready a, k => k a
  | pending next, k => pending (next.bind k)

def map (f : α → β) (d : Fut α) : Fut β := d.bind (ready ∘ f)

def result : Fut α → α
  | ready a => a
  | pending next => next.result

def poll : PollFn (Fut α) α
  | ready a => .ok (.ready a, ready a)
  | pending next => .ok (.pending, next)

@[simp] theorem bind_ready (a : α) (k : α → Fut β) : (ready a).bind k = k a := rfl
@[simp] theorem bind_pending (next : Fut α) (k : α → Fut β) :
    (pending next).bind k = pending (next.bind k) := rfl
@[simp] theorem map_ready (f : α → β) (a : α) : (ready a).map f = ready (f a) := rfl
@[simp] theorem map_pending (f : α → β) (next : Fut α) :
    (pending next).map f = pending (next.map f) := rfl
@[simp] theorem result_ready (a : α) : (ready a).result = a := rfl
@[simp] theorem result_pending (next : Fut α) : (pending next).result = next.result := rfl

@[simp] theorem map_id (d : Fut α) : d.map (fun a => a) = d := by
  induction d with
  | ready a => rfl
  | pending next ih => simp [ih]

theorem map_map (f : α → β) (g : β → γ) (d : Fut α) : (d.map f).map g = d.map (g ∘ f) := by
  induction d with
  | ready a => rfl
  | pending next ih => simp [ih]

def polls : Fut α → List (Poll α)
  | ready a => [.ready a]
  | pending next => .pending :: next.polls

end Fut

/-- Polling `s` again and again gives the run `d`: its `Pending`s, then its `Ready`, with no
panic on the way. -/
inductive Behaves (poll : PollFn σ α) : σ → Fut α → Prop
  | ready {s s' a} (polled : poll s = .ok (.ready a, s')) : Behaves poll s (.ready a)
  | pending {s s' d} (polled : poll s = .ok (.pending, s')) (rest : Behaves poll s' d) :
      Behaves poll s (.pending d)

/-- `t` is a state the poller meets after only `Pending`s from `s`: the states a future is
polled in before it resolves. -/
inductive Pends (poll : PollFn σ α) : σ → σ → Prop
  | refl (s) : Pends poll s s
  | step {s s' t} (polled : poll s = .ok (.pending, s')) (rest : Pends poll s' t) : Pends poll s t

def outcomes (poll : PollFn σ α) : Nat → σ → Except String (List (Poll α))
  | 0, _ => .ok []
  | n + 1, s =>
    match poll s with
    | .error msg => .error msg
    | .ok (.ready a, _) => .ok [.ready a]
    | .ok (.pending, s') => (List.cons .pending) <$> outcomes poll n s'

section Runs
variable {σ τ α β : Type} {poll : PollFn σ α} {q : PollFn τ β}

theorem Fut.behaves_poll (d : Fut α) : Behaves Fut.poll d d := by
  induction d with
  | ready a => exact .ready rfl
  | pending next ih => exact .pending rfl ih

theorem Behaves.of_poll_eq {s t : σ} {d : Fut α} (same : poll t = poll s)
    (runs : Behaves poll s d) : Behaves poll t d := by
  cases runs with
  | ready polled => exact .ready (same.trans polled)
  | pending polled rest => exact .pending (same.trans polled) rest

/-- A future that forwards each poll to an inner one, mapping its value by `f`, runs as the
inner run mapped by `f`. `wrap` places the inner state in the outer one. -/
theorem Behaves.simulate (wrap : σ → τ) (f : α → β)
    (onPending : ∀ s s', poll s = .ok (.pending, s') → q (wrap s) = .ok (.pending, wrap s'))
    (onReady : ∀ s s' a, poll s = .ok (.ready a, s') → ∃ t, q (wrap s) = .ok (.ready (f a), t))
    {s : σ} {d : Fut α} (runs : Behaves poll s d) : Behaves q (wrap s) (d.map f) := by
  induction runs with
  | ready polled =>
    obtain ⟨t, polled'⟩ := onReady _ _ _ polled
    exact .ready polled'
  | pending polled _ ih => exact .pending (onPending _ _ polled) ih

theorem Pends.trans {s t u : σ} (first : Pends poll s t) (second : Pends poll t u) :
    Pends poll s u := by
  induction first with
  | refl => exact second
  | step polled _ ih => exact .step polled (ih second)

theorem Pends.invariant (inv : σ → Prop)
    (keeps : ∀ s s', inv s → poll s = .ok (.pending, s') → inv s') {s t : σ}
    (start : inv s) (reached : Pends poll s t) : inv t := by
  induction reached with
  | refl => exact start
  | step polled _ ih => exact ih (keeps _ _ start polled)

end Runs

/-- One poll of two futures in step: the same panic, both `Pending` in states related by `R`,
or both `Ready` with the second value `f` of the first. -/
def Lockstep (R : σ → τ → Prop) (f : α → β) :
    Except String (Poll α × σ) → Except String (Poll β × τ) → Prop
  | .error msg, .error msg' => msg' = msg
  | .ok (.pending, s), .ok (.pending, t) => R s t
  | .ok (.ready a, _), .ok (.ready b, _) => b = f a
  | _, _ => False

/-- Two futures that poll in step from related states give the same outcomes, up to `f`, over
every number of polls: `Pending` on the same polls, `Ready` on the same poll. -/
theorem outcomes_lockstep {poll : PollFn σ α} {q : PollFn τ β} {R : σ → τ → Prop} {f : α → β}
    (step : ∀ s t, R s t → Lockstep R f (poll s) (q t)) (n : Nat) {s : σ} {t : τ}
    (related : R s t) : outcomes q n t = (List.map (Poll.map f)) <$> outcomes poll n s := by
  induction n generalizing s t with
  | zero => rfl
  | succ n ih =>
    have stepped := step s t related
    simp only [outcomes]
    revert stepped
    generalize poll s = x
    generalize q t = y
    rcases x with msg | ⟨_ | _, s'⟩ <;> rcases y with msg' | ⟨_ | _, t'⟩ <;> intro stepped <;>
      simp only [Lockstep] at stepped
    · rw [stepped]; rfl
    · rw [stepped]; rfl
    · dsimp only
      rw [ih stepped]
      cases outcomes poll n s' <;> rfl

/-- How one pass of a Rust `loop` body ends: `again s` goes round with the state `s`,
`exit r` leaves the loop returning `r`. -/
inductive Pass (σ β : Type) where
  | again (s : σ)
  | exit (r : β)

/-- A Rust `loop` over the body `pass`, which goes round again only while `rank` drops. -/
def loop (pass : σ → Except String (Pass σ β)) (rank : σ → Nat)
    (drops : ∀ s s', pass s = .ok (.again s') → rank s' < rank s) (s : σ) : Except String β :=
  match went : pass s with
  | .ok (.again s') =>
    have _ : rank s' < rank s := drops s s' went
    loop pass rank drops s'
  | .ok (.exit r) => .ok r
  | .error msg => .error msg
termination_by rank s

section Loop
variable {σ β : Type} {pass : σ → Except String (Pass σ β)} {rank : σ → Nat}
  {drops : ∀ s s', pass s = .ok (.again s') → rank s' < rank s}

theorem loop_again {s s' : σ} (went : pass s = .ok (.again s')) :
    loop pass rank drops s = loop pass rank drops s' := by
  rw [loop]
  split <;> simp_all

theorem loop_exit {s : σ} {r : β} (left : pass s = .ok (.exit r)) :
    loop pass rank drops s = .ok r := by
  rw [loop]
  split <;> simp_all

theorem loop_error {s : σ} {msg : String} (panicked : pass s = .error msg) :
    loop pass rank drops s = .error msg := by
  rw [loop]
  split <;> simp_all

theorem loop_congr {s t : σ} (same : pass t = pass s) :
    loop pass rank drops t = loop pass rank drops s := by
  rcases went : pass s with msg | s' | r
  · rw [loop_error went, loop_error (same.trans went)]
  · rw [loop_again went, loop_again (same.trans went)]
  · rw [loop_exit went, loop_exit (same.trans went)]

theorem loop_of_exit {s : σ} {x : Except String β} (exits : pass s = Pass.exit <$> x) :
    loop pass rank drops s = x := by
  cases x with
  | error msg => exact loop_error exits
  | ok r => exact loop_exit exits

theorem loop_exited (s : σ) (r : β) (done : loop pass rank drops s = .ok r) :
    ∃ s₀, pass s₀ = .ok (.exit r) := by
  generalize ranked : rank s = n
  induction n using Nat.strongRecOn generalizing s with
  | _ n ih =>
    cases went : pass s with
    | error msg => rw [loop_error went] at done; cases done
    | ok p =>
      cases p with
      | again s' =>
        rw [loop_again went] at done
        exact ih _ (ranked ▸ drops s s' went) s' done rfl
      | exit r' =>
        rw [loop_exit went] at done
        cases done
        exact ⟨s, went⟩

/-- Whatever the loop returns, it left from a state that keeps every invariant the passes going
round keep. -/
theorem loop_exited_from (inv : σ → Prop) (keeps : ∀ s s', inv s → pass s = .ok (.again s') → inv s')
    {s : σ} {r : β} (start : inv s) (done : loop pass rank drops s = .ok r) :
    ∃ s₀, inv s₀ ∧ pass s₀ = .ok (.exit r) := by
  generalize ranked : rank s = n
  induction n using Nat.strongRecOn generalizing s with
  | _ n ih =>
    cases went : pass s with
    | error msg => rw [loop_error went] at done; cases done
    | ok p =>
      cases p with
      | again s' =>
        rw [loop_again went] at done
        exact ih _ (ranked ▸ drops s s' went) (keeps s s' start went) done rfl
      | exit r' =>
        rw [loop_exit went] at done
        cases done
        exact ⟨s, start, went⟩

end Loop

structure Ready (α : Type) where
  value : Option α

def Ready.poll : PollFn (Ready α) α := fun self => do
  let a ← expect "Ready polled after completion" self.value
  pure (.ready a, ⟨none⟩)

structure Pending (α : Type) : Type

def Pending.poll : PollFn (Pending α) α := fun self => .ok (.pending, self)

/-- `futures::future::MapErr`, through the `future::Map` it is built on: `incomplete` holds the
inner future and the function until the inner future resolves. -/
inductive MapErr (σ E E' : Type) where
  | incomplete (future : σ) (f : E → E')
  | complete

def MapErr.poll (pollInner : PollFn σ (Except E O)) : PollFn (MapErr σ E E') (Except E' O)
  | .incomplete future f =>
    match pollInner future with
    | .error msg => .error msg
    | .ok (.pending, future) => .ok (.pending, .incomplete future f)
    | .ok (.ready r, _) => .ok (.ready (r.mapError f), .complete)
  | .complete => .error "Map must not be polled after it returned `Poll::Ready`"

theorem MapErr.behaves {pollInner : PollFn σ (Except E O)} {s : σ} {d : Fut (Except E O)}
    (f : E → E') (runs : Behaves pollInner s d) :
    Behaves (MapErr.poll pollInner) (.incomplete s f) (d.map (Except.mapError f)) :=
  Behaves.simulate (q := MapErr.poll pollInner) (fun s => .incomplete s f) _
    (fun _ _ polled => by simp [MapErr.poll, polled])
    (fun _ _ _ polled => ⟨MapErr.complete, by simp [MapErr.poll, polled]⟩) runs

/-- The state machine rustc makes of an `async move { fut.await }` block: not yet polled, holding
what it captured; waiting on the future it awaits; or returned, when a poll panics. -/
inductive AsyncBlock (κ σ : Type) where
  | unresumed (captured : κ)
  | suspended (awaiting : σ)
  | returned

namespace AsyncBlock
variable {κ σ α : Type}

def resume (pollAwaited : PollFn σ α) (awaiting : σ) : Except String (Poll α × AsyncBlock κ σ) :=
  match pollAwaited awaiting with
  | .error msg => .error msg
  | .ok (.pending, awaiting) => .ok (.pending, .suspended awaiting)
  | .ok (.ready a, _) => .ok (.ready a, .returned)

def poll (start : κ → σ) (pollAwaited : PollFn σ α) : PollFn (AsyncBlock κ σ) α
  | .unresumed captured => resume pollAwaited (start captured)
  | .suspended awaiting => resume pollAwaited awaiting
  | .returned => .error "`async fn` resumed after completion"

@[simp] theorem poll_returned (start : κ → σ) (pollAwaited : PollFn σ α) :
    poll start pollAwaited .returned = .error "`async fn` resumed after completion" := rfl

theorem poll_ready_returned {start : κ → σ} {pollAwaited : PollFn σ α} {block block' : AsyncBlock κ σ}
    {a : α} (polled : poll start pollAwaited block = .ok (.ready a, block')) : block' = .returned := by
  have resumed : ∀ awaiting, resume (κ := κ) pollAwaited awaiting = .ok (.ready a, block') →
      block' = .returned := by
    intro awaiting went
    unfold resume at went
    split at went <;> cases went
    rfl
  cases block with
  | unresumed captured => exact resumed _ polled
  | suspended awaiting => exact resumed _ polled
  | returned => cases polled

theorem behaves_suspended (start : κ → Fut α) (d : Fut α) :
    Behaves (poll start Fut.poll) (.suspended d) d := by
  induction d with
  | ready a => exact .ready rfl
  | pending next ih => exact .pending rfl ih

theorem behaves_unresumed (start : κ → Fut α) (captured : κ) :
    Behaves (poll start Fut.poll) (.unresumed captured) (start captured) :=
  (behaves_suspended start (start captured)).of_poll_eq (s := .suspended (start captured)) rfl

def isReturned : Option (AsyncBlock κ σ) → Bool
  | some .returned => true
  | _ => false

theorem isReturned_iff {slot : Option (AsyncBlock κ σ)} :
    isReturned slot = true ↔ slot = some .returned := by
  rcases slot with _ | (_ | _ | _) <;> simp [isReturned]

theorem ne_returned {slot : Option (AsyncBlock κ σ)} (live : isReturned slot = false) :
    slot ≠ some .returned := fun done => by
  rw [← isReturned_iff, live] at done
  cases done

/-- A block that awaits an environment's run resolves when the run does and never panics. -/
theorem poll_fut (start : κ → Fut α) (block : AsyncBlock κ (Fut α)) (live : block ≠ .returned) :
    (∃ d, poll start Fut.poll block = .ok (.pending, .suspended d)) ∨
      ∃ a, poll start Fut.poll block = .ok (.ready a, .returned) := by
  have resumed : ∀ d : Fut α, (∃ d', resume (κ := κ) Fut.poll d = .ok (.pending, .suspended d')) ∨
      ∃ a, resume (κ := κ) Fut.poll d = .ok (.ready a, .returned) := fun
    | .ready a => .inr ⟨a, rfl⟩
    | .pending d' => .inl ⟨d', rfl⟩
  cases block with
  | unresumed captured => exact resumed (start captured)
  | suspended awaiting => exact resumed awaiting
  | returned => exact absurd rfl live

end AsyncBlock

end Airio
