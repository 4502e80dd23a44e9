import Airio.Future

/-! The futures-util combinators airio's transports are built from: `select`, which airio-quic
races the handshake with, and `Map` and `TryFlatten`, which `map_ok` and `and_then` are, as
airio-ws chains them. Each comes with the run it has over the runs of the futures it holds. -/
namespace Airio

namespace Futures

structure Select (A B : Type) where
  inner : Option (A × B)

def select {A B : Type} (future1 : A) (future2 : B) : Select A B := ⟨some (future1, future2)⟩

namespace Select
variable {A B α β : Type}

/-- The first future is polled first, so it wins when both are ready at the same poll. -/
def poll (pollA : PollFn A α) (pollB : PollFn B β) :
    PollFn (Select A B) (Either (α × B) (β × A)) := fun self => do
  let (a, b) ← expect "cannot poll Select twice" self.inner
  let (ra, a) ← pollA a
  match ra with
  | .ready val => pure (.ready (.left (val, b)), ⟨none⟩)
  | .pending =>
    let (rb, b) ← pollB b
    match rb with
    | .ready val => pure (.ready (.right (val, a)), ⟨none⟩)
    | .pending => pure (.pending, select a b)

theorem poll_ready_left (a : α) (db : Fut β) :
    poll Fut.poll Fut.poll (select (.ready a) db) = .ok (.ready (.left (a, db)), ⟨none⟩) := rfl

end Select

end Futures

namespace Fut
variable {α β : Type}

def pendings : Fut α → Nat
  | ready _ => 0
  | pending next => next.pendings + 1

/-- The run of `select` over two runs: `Pending` while both are, then the first one's value if
it is ready, the second one's otherwise. -/
def race : Fut α → Fut β → Fut (Either α β)
  | ready a, _ => ready (.left a)
  | pending _, ready b => ready (.right b)
  | pending da, pending db => pending (race da db)

@[simp] theorem pendings_map (f : α → β) (d : Fut α) : (d.map f).pendings = d.pendings := by
  induction d with
  | ready a => rfl
  | pending next ih => rw [map_pending, pendings, ih, pendings]

@[simp] theorem result_map (f : α → β) (d : Fut α) : (d.map f).result = f d.result := by
  induction d with
  | ready a => rfl
  | pending next ih => simp only [map_pending, result_pending, ih]

theorem pendings_race (da : Fut α) (db : Fut β) :
    (race da db).pendings = Nat.min da.pendings db.pendings := by
  induction da generalizing db with
  | ready a => exact (Nat.zero_min _).symm
  | pending da ih =>
    cases db with
    | ready b => rfl
    | pending db => exact (congrArg (· + 1) (ih db)).trans (Nat.add_min_add_right _ _ 1).symm

theorem result_race (da : Fut α) (db : Fut β) :
    (race da db).result =
      if da.pendings ≤ db.pendings then .left da.result else .right db.result := by
  induction da generalizing db with
  | ready a => simp only [race, result_ready, pendings, Nat.zero_le, if_true]
  | pending da ih =>
    cases db with
    | ready b => rfl
    | pending db => simp only [race, result_pending, pendings, ih, Nat.add_le_add_iff_right]

end Fut

namespace Futures

/-- `futures::future::Map`, which `map_ok` is (`map_err` is the `MapErr` of the core model): the
future and the function until the future resolves. -/
inductive Map (σ α β : Type) where
  | incomplete (future : σ) (f : α → β)
  | complete

namespace Map
variable {σ α β : Type}

def poll (pollInner : PollFn σ α) : PollFn (Map σ α β) β
  | .incomplete future f =>
    match pollInner future with
    | .error msg => .error msg
    | .ok (.pending, future) => .ok (.pending, .incomplete future f)
    | .ok (.ready output, _) => .ok (.ready (f output), .complete)
  | .complete => .error "Map must not be polled after it returned `Poll::Ready`"

theorem behaves {pollInner : PollFn σ α} {s : σ} {d : Fut α} (f : α → β)
    (runs : Behaves pollInner s d) : Behaves (poll pollInner) (.incomplete s f) (d.map f) :=
  Behaves.simulate (q := poll pollInner) (fun s => .incomplete s f) f
    (fun _ _ polled => by simp [poll, polled])
    (fun _ _ _ polled => ⟨.complete, by simp [poll, polled]⟩) runs

end Map

/-- `futures::future::TryFlatten`, which `and_then` is: the first future, then the future its
`Ok` value is. -/
inductive TryFlatten (σ τ : Type) where
  | first (f : σ)
  | second (f : τ)
  | empty

namespace TryFlatten
variable {σ τ E α : Type}

def pollSecond (pollSnd : PollFn τ (Except E α)) (f : τ) :
    Except String (Poll (Except E α) × TryFlatten σ τ) :=
  match pollSnd f with
  | .error msg => .error msg
  | .ok (.pending, f) => .ok (.pending, .second f)
  | .ok (.ready output, _) => .ok (.ready output, .empty)

def poll (pollFst : PollFn σ (Except E τ)) (pollSnd : PollFn τ (Except E α)) :
    PollFn (TryFlatten σ τ) (Except E α)
  | .first f =>
    match pollFst f with
    | .error msg => .error msg
    | .ok (.pending, f) => .ok (.pending, .first f)
    | .ok (.ready (.ok f), _) => pollSecond pollSnd f
    | .ok (.ready (.error e), _) => .ok (.ready (.error e), .empty)
  | .second f => pollSecond pollSnd f
  | .empty => .error "TryFlatten polled after completion"

/-- The run of `and_then`: the first run, then, from the poll at which it resolves `Ok(f)`, the
run of `f`; an `Err` ends it. -/
def spec (first : Fut (Except E τ)) (second : τ → Fut (Except E α)) : Fut (Except E α) :=
  first.bind fun
    | .ok f => second f
    | .error e => .ready (.error e)

theorem behaves_second {pollFst : PollFn σ (Except E τ)} {pollSnd : PollFn τ (Except E α)}
    {f : τ} {d : Fut (Except E α)} (runs : Behaves pollSnd f d) :
    Behaves (poll pollFst pollSnd) (.second f) d := by
  induction runs with
  | ready polled => exact .ready (by simp only [poll, pollSecond, polled]; rfl)
  | pending polled _ ih => exact .pending (by simp only [poll, pollSecond, polled]) ih

/-- `and_then` runs as its first future, then as the future the first one's `Ok` value is. -/
theorem behaves {pollFst : PollFn σ (Except E τ)} {pollSnd : PollFn τ (Except E α)} {s : σ}
    {first : Fut (Except E τ)} (second : τ → Fut (Except E α)) (runs : Behaves pollFst s first)
    (runsSecond : ∀ f, Behaves pollSnd f (second f)) :
    Behaves (poll pollFst pollSnd) (.first s) (spec first second) := by
  induction runs with
  | @ready s s' r polled =>
    rcases r with e | f
    · exact .ready (by simp only [poll, polled]; rfl)
    · exact (behaves_second (runsSecond f)).of_poll_eq (by simp only [poll, polled])
  | pending polled _ ih => exact .pending (by simp only [poll, polled]) ih

end TryFlatten

end Futures

end Airio
