import Airio.Transport.Map
import Airio.Transport.MapErr
import Airio.Transport.Upgrade

/-! Stacks of transport combinators and what their listeners do. Every combinator's listener polls
the inner one once per `poll_next` and maps the event it gets by `ListenerEvent.lift`, so a whole
stack does too, with the composite error map; the shape of a listener's event sequence
(`Listened` first and once, `Closed` last) therefore carries through any stack. -/
namespace Airio

/-- The listener of `t'` forwards `t`'s with the error map `ε`: `listen` fails exactly when `t`'s
does, with the error mapped, and from the listener it returns, each `poll_next` is one of `t`'s,
the event mapped by `lift g ε`. -/
def ListensAs {O E O' E' : Type} (t : Transport O E) (t' : Transport O' E') (ε : E → E') : Prop :=
  ∃ (g : SocketAddr → SocketAddr → t.ListenerUpgrade → t'.ListenerUpgrade)
    (R : t'.Listener → t.Listener → Prop),
    (∀ addr, ∃ wrap : t.Listener → t'.Listener,
      t'.listen addr = wrap <$> (t.listen addr).mapError ε ∧ ∀ listener, R (wrap listener) listener) ∧
    Forwards t.pollNext t'.pollNext R (ListenerEvent.lift g ε)

namespace ListensAs
variable {O E O' E' O'' E'' : Type}

theorem refl (t : Transport O E) : ListensAs t t id :=
  ⟨fun _ _ upgrade => upgrade, Eq, fun addr => ⟨id, by cases t.listen addr <;> rfl, fun _ => rfl⟩,
    Forwards.self t.pollNext⟩

theorem trans {t : Transport O E} {t' : Transport O' E'} {t'' : Transport O'' E''} {ε : E → E'}
    {ε' : E' → E''} (first : ListensAs t t' ε) (second : ListensAs t' t'' ε') :
    ListensAs t t'' (ε' ∘ ε) := by
  obtain ⟨g, R, listened, forwards⟩ := first
  obtain ⟨g', R', listened', forwards'⟩ := second
  refine ⟨fun l r => g' l r ∘ g l r, fun u s => ∃ t, R' u t ∧ R t s, fun addr => ?_, ?_⟩
  · obtain ⟨wrap, opened, related⟩ := listened addr
    obtain ⟨wrap', opened', related'⟩ := listened' addr
    exact ⟨wrap' ∘ wrap, by rw [opened', opened, Except.map_mapError_map],
      fun l => ⟨wrap l, related' _, related l⟩⟩
  · have lifted : ListenerEvent.lift g' ε' ∘ ListenerEvent.lift g ε =
        ListenerEvent.lift (fun l r => g' l r ∘ g l r) (ε' ∘ ε) :=
      funext (ListenerEvent.lift_lift g ε g' ε')
    exact lifted ▸ forwards.trans forwards'

end ListensAs

section Layers
variable {O V E W R τ : Type}

theorem Transport.map_listensAs (t : Transport O E) (f : O → ConnectedPoint → V) :
    ListensAs t (t.map f) id :=
  ⟨fun localAddr remoteAddr upgrade => ⟨upgrade, some (f, .listener localAddr remoteAddr)⟩,
    fun self inner => self.func = f ∧ self.inner = inner,
    fun addr => ⟨_, by rw [Except.mapError_id]; exact Map.listen_eq t f addr, fun _ => ⟨rfl, rfl⟩⟩,
    MapListener.forwards t.pollNext f⟩

theorem Transport.andThen_listensAs (t : Transport O E) (map : O → ConnectedPoint → τ)
    (pollMap : PollFn τ (Except W V)) : ListensAs t (t.andThen map pollMap) .left :=
  ⟨fun localAddr remoteAddr upgrade => ⟨.left upgrade, some (map, .listener localAddr remoteAddr)⟩,
    fun self inner => self.map = map ∧ self.inner = inner,
    fun addr => ⟨_, AndThen.listen_eq t map addr, fun _ => ⟨rfl, rfl⟩⟩,
    AndThenListener.forwards t.pollNext map⟩

theorem Transport.mapErr_listensAs (t : Transport O E) (f : E → R) : ListensAs t (t.mapErr f) f :=
  ⟨fun _ _ upgrade => .incomplete upgrade f, fun self inner => self.map = f ∧ self.inner = inner,
    fun addr => ⟨_, MapErr.listen_eq t f addr, fun _ => ⟨rfl, rfl⟩⟩,
    MapErrListener.forwards t.pollNext f⟩

theorem Transport.boxed_listensAs (t : Transport O E) (boxErr : E → R) :
    ListensAs t (t.boxed boxErr) boxErr :=
  ⟨fun _ _ upgrade => .incomplete upgrade boxErr, fun self inner => True ∧ self = inner,
    fun _ => ⟨id, (id_map _).symm, fun _ => ⟨trivial, rfl⟩⟩, Boxed.forwards t.pollNext boxErr⟩

theorem Transport.withUpgrade_listensAs {X C D UE P : Type} (t : Transport (P × C) E)
    (stage : Stage X C D UE) : ListensAs t (t.withUpgrade stage) .transport :=
  ⟨fun _ _ up => ⟨up, .listener, .left (some stage.upgrade)⟩,
    fun self inner => self.upgrade = stage.upgrade ∧ self.inner = inner,
    fun addr => ⟨_, WithUpgrade.listen_eq t stage addr, fun _ => ⟨rfl, rfl⟩⟩,
    WithUpgrade.MapListener.forwards t.pollNext stage.upgrade⟩

end Layers

/-- A stack of the transport combinators over a transport with output `O` and error `E`, giving
one with output `O'` and error `E'`; the first layer is applied first. -/
inductive Layers : Type → Type → Type → Type → Type 1 where
  | nil (O E : Type) : Layers O E O E
  | map {O E V O' E' : Type} (f : O → ConnectedPoint → V) (rest : Layers V E O' E') :
      Layers O E O' E'
  | andThen {O E V W τ O' E' : Type} (map : O → ConnectedPoint → τ) (pollMap : PollFn τ (Except W V))
      (rest : Layers V (Either E W) O' E') : Layers O E O' E'
  | mapErr {O E R O' E' : Type} (f : E → R) (rest : Layers O R O' E') : Layers O E O' E'
  | withUpgrade {X P C D UE E O' E' : Type} (stage : Stage X C D UE)
      (rest : Layers (P × D) (TransportUpgradeError E X UE) O' E') : Layers (P × C) E O' E'
  | multiplexed {O E O' E' : Type} (rest : Layers O E O' E') : Layers O E O' E'
  | boxed {O E R O' E' : Type} (boxErr : E → R) (rest : Layers O R O' E') : Layers O E O' E'

namespace Layers

def apply : {O E O' E' : Type} → Layers O E O' E' → Transport O E → Transport O' E'
  | _, _, _, _, nil _ _, t => t
  | _, _, _, _, map f rest, t => rest.apply (t.map f)
  | _, _, _, _, andThen g pollMap rest, t => rest.apply (t.andThen g pollMap)
  | _, _, _, _, mapErr f rest, t => rest.apply (Transport.mapErr t f)
  | _, _, _, _, withUpgrade stage rest, t => rest.apply (t.withUpgrade stage)
  | _, _, _, _, multiplexed rest, t => rest.apply t.multiplexed
  | _, _, _, _, boxed boxErr rest, t => rest.apply (t.boxed boxErr)

def err : {O E O' E' : Type} → Layers O E O' E' → E → E'
  | _, _, _, _, nil _ _ => id
  | _, _, _, _, map _ rest => rest.err
  | _, _, _, _, andThen _ _ rest => rest.err ∘ .left
  | _, _, _, _, mapErr f rest => rest.err ∘ f
  | _, _, _, _, withUpgrade _ rest => rest.err ∘ .transport
  | _, _, _, _, multiplexed rest => rest.err
  | _, _, _, _, boxed boxErr rest => rest.err ∘ boxErr

theorem listensAs {O E O' E' : Type} (ls : Layers O E O' E') (t : Transport O E) :
    ListensAs t (ls.apply t) ls.err := by
  induction ls with
  | nil => exact ListensAs.refl t
  | map f rest ih => exact (t.map_listensAs f).trans (ih _)
  | andThen g pollMap rest ih => exact (t.andThen_listensAs g pollMap).trans (ih _)
  | mapErr f rest ih => exact (t.mapErr_listensAs f).trans (ih _)
  | withUpgrade stage rest ih => exact (t.withUpgrade_listensAs stage).trans (ih _)
  | multiplexed rest ih => exact (ListensAs.refl t).trans (ih t.multiplexed)
  | boxed boxErr rest ih => exact (t.boxed_listensAs boxErr).trans (ih _)

end Layers

/-- The events a run of `poll_next` yields: its `Ready(Some(_))` items. -/
def items {U E : Type} (polls : List (Poll (Option (ListenerEvent U E)))) : List (ListenerEvent U E) :=
  polls.filterMap fun
    | .ready (some event) => some event
    | _ => none

def ListenerEvent.isListened {U E : Type} : ListenerEvent U E → Bool
  | .listened _ => true
  | _ => false

def ListenerEvent.isClosed {U E : Type} : ListenerEvent U E → Bool
  | .closed _ => true
  | _ => false

/-- Nothing comes after a `Closed`: so there is at most one, and it is last. -/
def ClosedLast {U E : Type} : List (ListenerEvent U E) → Prop
  | [] => True
  | event :: rest => (event.isClosed = true → rest = []) ∧ ClosedLast rest

/-- The shape a listener's event sequence should have: `Listened(a)` first, no other `Listened`,
and a `Closed` only last. -/
def Conforms {U E : Type} (a : SocketAddr) (events : List (ListenerEvent U E)) : Prop :=
  ∃ rest, events = .listened a :: rest ∧ (∀ event ∈ rest, event.isListened = false) ∧ ClosedLast rest

section Shape
variable {U E U' E' : Type} (g : SocketAddr → SocketAddr → U → U') (ε : E → E')

@[simp] theorem isListened_lift (event : ListenerEvent U E) :
    (event.lift g ε).isListened = event.isListened := by
  cases event <;> rfl

@[simp] theorem isClosed_lift (event : ListenerEvent U E) :
    (event.lift g ε).isClosed = event.isClosed := by
  cases event <;> rfl

theorem items_map (polls : List (Poll (Option (ListenerEvent U E)))) :
    items (polls.map (Poll.map (Option.map (ListenerEvent.lift g ε)))) =
      (items polls).map (ListenerEvent.lift g ε) := by
  induction polls with
  | nil => rfl
  | cons r polls ih =>
    rcases r with (_ | event) | _ <;> simp only [items, List.map_cons, List.filterMap_cons] at ih ⊢
    · exact ih
    · simp only [Poll.map, Option.map_some', List.map_cons, ih]
    · exact ih

theorem closedLast_map {events : List (ListenerEvent U E)} (last : ClosedLast events) :
    ClosedLast (events.map (ListenerEvent.lift g ε)) := by
  induction events with
  | nil => trivial
  | cons event rest ih =>
    obtain ⟨ends, rest⟩ := last
    refine ⟨fun closed => ?_, ih rest⟩
    rw [ends (by simpa using closed), List.map_nil]

theorem closedLast_of_open {events : List (ListenerEvent U E)}
    (stays : ∀ event ∈ events, event.isClosed = false) : ClosedLast events := by
  induction events with
  | nil => trivial
  | cons event rest ih =>
    refine ⟨fun closed => ?_, ih fun e mem => stays e (List.mem_cons_of_mem _ mem)⟩
    rw [stays event (List.mem_cons_self _ _)] at closed
    cases closed

theorem conforms_map {a : SocketAddr} {events : List (ListenerEvent U E)}
    (conforms : Conforms a events) : Conforms a (events.map (ListenerEvent.lift g ε)) := by
  obtain ⟨rest, rfl, once, last⟩ := conforms
  exact ⟨rest.map (ListenerEvent.lift g ε), rfl,
    fun event member => by
      obtain ⟨inner, inside, rfl⟩ := List.mem_map.mp member
      simpa using once inner inside,
    closedLast_map g ε last⟩

end Shape

/-- Over any stack of `map`, `and_then`, `map_err`, `apply` (`WithUpgrade`), `Multiplexed` and
`boxed`: `listen` fails exactly when the inner `listen` does, its error under the stack's error
map; each `poll_next` of the listener it returns is one of the inner listener, `Pending` and
`Ready(None)` as they are and each event of the same variant, with the same addresses, `Ok(())`
of `Closed` kept and each error mapped; so, over every run, an inner sequence that starts with
`Listened(a)`, has no other `Listened` and a `Closed` only last gives an outer one of that shape. -/
theorem listener_stack_forwards {O E O' E' : Type} (ls : Layers O E O' E') (t : Transport O E) :
    ∃ (g : SocketAddr → SocketAddr → t.ListenerUpgrade → (ls.apply t).ListenerUpgrade)
      (R : (ls.apply t).Listener → t.Listener → Prop),
      (∀ addr, ∃ wrap : t.Listener → (ls.apply t).Listener,
        (ls.apply t).listen addr = wrap <$> (t.listen addr).mapError ls.err ∧
          ∀ listener, R (wrap listener) listener) ∧
      Forwards t.pollNext (ls.apply t).pollNext R (ListenerEvent.lift g ls.err) ∧
      ∀ outer inner, R outer inner → ∀ n polls a, pollsOf t.pollNext n inner = .ok polls →
        Conforms a (items polls) →
          pollsOf (ls.apply t).pollNext n outer =
              .ok (polls.map (Poll.map (Option.map (ListenerEvent.lift g ls.err)))) ∧
            Conforms a (items (polls.map (Poll.map (Option.map (ListenerEvent.lift g ls.err))))) := by
  obtain ⟨g, R, listened, forwards⟩ := ls.listensAs t
  refine ⟨g, R, listened, forwards, fun outer inner related n polls a polled conforms => ⟨?_, ?_⟩⟩
  · rw [forwards.pollsOf n related, polled]; rfl
  · rw [items_map]
    exact conforms_map g ls.err conforms

end Airio
