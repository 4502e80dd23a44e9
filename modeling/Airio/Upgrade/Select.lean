import Airio.Upgrade

/-! Upgrades that offer a choice. `SelectUpgrade(A, B)` offers the infos of both, `Either::Left(A)`
and `Either::Right(B)` those of the one present; the negotiated info, tagged `Left` or `Right`,
picks the upgrade that runs inside an `EitherFuture`. Nested to any depth, they form a tree whose
leaves are arbitrary upgrades. -/
namespace Airio

inductive EitherFuture (A B : Type) where
  | left (a : A)
  | right (b : B)

namespace EitherFuture
variable {A B TA TB EA EB : Type}

def poll (pollA : PollFn A (Except EA TA)) (pollB : PollFn B (Except EB TB)) :
    PollFn (EitherFuture A B) (Except (Either EA EB) (Either TA TB))
  | .left a => (fun (r, a) => (r.map fun x => (x.map .left).mapError .left, .left a)) <$> pollA a
  | .right b => (fun (r, b) => (r.map fun x => (x.map .right).mapError .right, .right b)) <$> pollB b

def tagLeft (x : Except EA TA) : Except (Either EA EB) (Either TA TB) := (x.map .left).mapError .left

def tagRight (x : Except EB TB) : Except (Either EA EB) (Either TA TB) :=
  (x.map .right).mapError .right

theorem behaves_left {pollA : PollFn A (Except EA TA)} (pollB : PollFn B (Except EB TB)) {a : A}
    {d : Fut (Except EA TA)} (runs : Behaves pollA a d) :
    Behaves (poll pollA pollB) (.left a) (d.map tagLeft) :=
  Behaves.simulate (q := poll pollA pollB) EitherFuture.left _
    (fun _ _ polled => by simp only [poll, polled]; rfl)
    (fun _ _ _ polled => ⟨_, by simp only [poll, polled]; rfl⟩) runs

theorem behaves_right (pollA : PollFn A (Except EA TA)) {pollB : PollFn B (Except EB TB)} {b : B}
    {d : Fut (Except EB TB)} (runs : Behaves pollB b d) :
    Behaves (poll pollA pollB) (.right b) (d.map tagRight) :=
  Behaves.simulate (q := poll pollA pollB) EitherFuture.right _
    (fun _ _ polled => by simp only [poll, polled]; rfl)
    (fun _ _ _ polled => ⟨_, by simp only [poll, polled]; rfl⟩) runs

end EitherFuture

def Either.asRef (asRefA : IA → String) (asRefB : IB → String) : Either IA IB → String
  | .left info => asRefA info
  | .right info => asRefB info

structure SelectUpgrade (A B : Type) where
  a : A
  b : B

section Combinators
variable {S UA IA FA TA EA UB IB FB TB EB : Type}

def SelectUpgrade.upgrade (a : Upgrade UA S IA FA TA EA) (b : Upgrade UB S IB FB TB EB) :
    Upgrade (SelectUpgrade UA UB) S (Either IA IB) (EitherFuture FA FB) (Either TA TB)
      (Either EA EB) where
  protocolInfo self := (a.protocolInfo self.a).map .left ++ (b.protocolInfo self.b).map .right
  asRef := Either.asRef a.asRef b.asRef
  upgradeInbound self stream
    | .left info => .left <$> a.upgradeInbound self.a stream info
    | .right info => .right <$> b.upgradeInbound self.b stream info
  upgradeOutbound self stream
    | .left info => .left <$> a.upgradeOutbound self.a stream info
    | .right info => .right <$> b.upgradeOutbound self.b stream info
  poll := EitherFuture.poll a.poll b.poll

/-- `impl Upgrade for Either<A, B>`: an info of the other side panics. -/
def Either.upgrade (a : Upgrade UA S IA FA TA EA) (b : Upgrade UB S IB FB TB EB) :
    Upgrade (Either UA UB) S (Either IA IB) (EitherFuture FA FB) (Either TA TB) (Either EA EB) where
  protocolInfo
    | .left a' => (a.protocolInfo a').map .left
    | .right b' => (b.protocolInfo b').map .right
  asRef := Either.asRef a.asRef b.asRef
  upgradeInbound
    | .left a', stream, .left info => .left <$> a.upgradeInbound a' stream info
    | .right b', stream, .right info => .right <$> b.upgradeInbound b' stream info
    | _, _, _ => .error "Invalid invocation of EitherUpgrade::upgrade_inbound"
  upgradeOutbound
    | .left a', stream, .left info => .left <$> a.upgradeOutbound a' stream info
    | .right b', stream, .right info => .right <$> b.upgradeOutbound b' stream info
    | _, _, _ => .error "Invalid invocation of EitherUpgrade::upgrade_outbound"
  poll := EitherFuture.poll a.poll b.poll

theorem SelectUpgrade.entry_left (a : Upgrade UA S IA FA TA EA) (b : Upgrade UB S IB FB TB EB)
    (role : Endpoint) (self : SelectUpgrade UA UB) (stream : S) (info : IA) :
    (SelectUpgrade.upgrade a b).entry role self stream (.left info) =
      .left <$> a.entry role self.a stream info := by
  cases role <;> rfl

theorem SelectUpgrade.entry_right (a : Upgrade UA S IA FA TA EA) (b : Upgrade UB S IB FB TB EB)
    (role : Endpoint) (self : SelectUpgrade UA UB) (stream : S) (info : IB) :
    (SelectUpgrade.upgrade a b).entry role self stream (.right info) =
      .right <$> b.entry role self.b stream info := by
  cases role <;> rfl

theorem Either.entry_left (a : Upgrade UA S IA FA TA EA) (b : Upgrade UB S IB FB TB EB)
    (role : Endpoint) (a' : UA) (stream : S) (info : IA) :
    (Either.upgrade a b).entry role (.left a') stream (.left info) =
      .left <$> a.entry role a' stream info := by
  cases role <;> rfl

theorem Either.entry_right (a : Upgrade UA S IA FA TA EA) (b : Upgrade UB S IB FB TB EB)
    (role : Endpoint) (b' : UB) (stream : S) (info : IB) :
    (Either.upgrade a b).entry role (.right b') stream (.right info) =
      .right <$> b.entry role b' stream info := by
  cases role <;> rfl

end Combinators

/-- A leaf of an upgrade tree: any upgrade on the stream `S`, with its own types. -/
structure Leaf (S : Type) : Type 1 where
  U : Type
  I : Type
  F : Type
  T : Type
  E : Type
  up : Upgrade U S I F T E

/-- An upgrade built from leaves by `SelectUpgrade::new(a, b)` and `Either`. -/
inductive UpgradeTree (S : Type) : Type 1 where
  | leaf (l : Leaf S)
  | select (a b : UpgradeTree S)
  | either (a b : UpgradeTree S)

namespace UpgradeTree
variable {S : Type}

/-- The Rust types of the tree's upgrade: its value, `Info`, `Future`, `Output` and `Error`. -/
def U : UpgradeTree S → Type
  | leaf l => l.U
  | select a b => SelectUpgrade a.U b.U
  | either a b => Either a.U b.U

def I : UpgradeTree S → Type
  | leaf l => l.I
  | select a b | either a b => Either a.I b.I

def F : UpgradeTree S → Type
  | leaf l => l.F
  | select a b | either a b => EitherFuture a.F b.F

def T : UpgradeTree S → Type
  | leaf l => l.T
  | select a b | either a b => Either a.T b.T

def E : UpgradeTree S → Type
  | leaf l => l.E
  | select a b | either a b => Either a.E b.E

def upgrade : (t : UpgradeTree S) → Upgrade t.U S t.I t.F t.T t.E
  | leaf l => l.up
  | select a b => SelectUpgrade.upgrade a.upgrade b.upgrade
  | either a b => Either.upgrade a.upgrade b.upgrade

/-- What `protocol_info` is meant to offer: the token strings of the live leaves in order, both
children of a `SelectUpgrade`, left first, and only the present side of an `Either`. -/
def tokens : (t : UpgradeTree S) → t.U → List String
  | leaf l, u => (l.up.protocolInfo u).map l.up.asRef
  | select a b, u => a.tokens u.a ++ b.tokens u.b
  | either a _, .left u => a.tokens u
  | either _ b, .right u => b.tokens u

inductive Path : UpgradeTree S → Type 1 where
  | here (l : Leaf S) : Path (.leaf l)
  | selectLeft {a : UpgradeTree S} (b : UpgradeTree S) (p : Path a) : Path (.select a b)
  | selectRight (a : UpgradeTree S) {b : UpgradeTree S} (p : Path b) : Path (.select a b)
  | eitherLeft {a : UpgradeTree S} (b : UpgradeTree S) (p : Path a) : Path (.either a b)
  | eitherRight (a : UpgradeTree S) {b : UpgradeTree S} (p : Path b) : Path (.either a b)

namespace Path

def leaf : {t : UpgradeTree S} → Path t → Leaf S
  | _, here l => l
  | _, selectLeft _ p | _, selectRight _ p | _, eitherLeft _ p | _, eitherRight _ p => p.leaf

def value : {t : UpgradeTree S} → (p : Path t) → t.U → Option p.leaf.U
  | _, here _, u => some u
  | _, selectLeft _ p, u => p.value u.a
  | _, selectRight _ p, u => p.value u.b
  | _, eitherLeft _ p, .left u => p.value u
  | _, eitherRight _ p, .right u => p.value u
  | _, eitherLeft _ _, .right _ | _, eitherRight _ _, .left _ => none

def info : {t : UpgradeTree S} → (p : Path t) → p.leaf.I → t.I
  | _, here _, i => i
  | _, selectLeft _ p, i | _, eitherLeft _ p, i => .left (p.info i)
  | _, selectRight _ p, i | _, eitherRight _ p, i => .right (p.info i)

def future : {t : UpgradeTree S} → (p : Path t) → p.leaf.F → t.F
  | _, here _, f => f
  | _, selectLeft _ p, f | _, eitherLeft _ p, f => .left (p.future f)
  | _, selectRight _ p, f | _, eitherRight _ p, f => .right (p.future f)

def result : {t : UpgradeTree S} → (p : Path t) →
    Except p.leaf.E p.leaf.T → Except t.E t.T
  | _, here _, x => x
  | _, selectLeft _ p, x | _, eitherLeft _ p, x => EitherFuture.tagLeft (p.result x)
  | _, selectRight _ p, x | _, eitherRight _ p, x => EitherFuture.tagRight (p.result x)

end Path

/-- The leaf of path `p` yields `info` at the tree's value `u`, and the tree's entry point, on
that info, builds the leaf's future with the path's tags; that future runs as the leaf's, its
results tagged by the path. -/
def Dispatches (t : UpgradeTree S) (u : t.U) (info : t.I) (p : Path t) : Prop :=
  ∃ v i, p.value u = some v ∧ i ∈ p.leaf.up.protocolInfo v ∧ info = p.info i ∧
    (∀ role stream, t.upgrade.entry role u stream info = p.future <$> p.leaf.up.entry role v stream i) ∧
    ∀ f d, Behaves p.leaf.up.poll f d → Behaves t.upgrade.poll (p.future f) (d.map p.result)

theorem tokens_eq (t : UpgradeTree S) (u : t.U) :
    (t.upgrade.protocolInfo u).map t.upgrade.asRef = t.tokens u := by
  induction t with
  | leaf l => rfl
  | select a b iha ihb =>
    simp only [upgrade, SelectUpgrade.upgrade, List.map_append, List.map_map, tokens, ← iha, ← ihb]
    rfl
  | either a b iha ihb =>
    cases u with
    | left u => simp only [upgrade, Either.upgrade, List.map_map, tokens, ← iha]; rfl
    | right u => simp only [upgrade, Either.upgrade, List.map_map, tokens, ← ihb]; rfl

namespace Path

/-- The future a path builds runs as its leaf's, its results tagged by the path. -/
theorem behaves {t : UpgradeTree S} (p : Path t) {f : p.leaf.F} {d : Fut (Except p.leaf.E p.leaf.T)}
    (runs : Behaves p.leaf.up.poll f d) : Behaves t.upgrade.poll (p.future f) (d.map p.result) := by
  induction p with
  | here l => exact (Fut.map_id d).symm ▸ runs
  | selectLeft b p ih | eitherLeft b p ih =>
    have := EitherFuture.behaves_left b.upgrade.poll (ih runs)
    rwa [Fut.map_map] at this
  | selectRight a p ih | eitherRight a p ih =>
    have := EitherFuture.behaves_right a.upgrade.poll (ih runs)
    rwa [Fut.map_map] at this

theorem entry {t : UpgradeTree S} (p : Path t) {u : t.U} {v : p.leaf.U} (live : p.value u = some v)
    (i : p.leaf.I) (role : Endpoint) (stream : S) :
    t.upgrade.entry role u stream (p.info i) = p.future <$> p.leaf.up.entry role v stream i := by
  induction p with
  | here l =>
    cases live
    exact (id_map _).symm
  | selectLeft b p ih =>
    rw [upgrade, info, SelectUpgrade.entry_left, ih live, ← comp_map]; rfl
  | selectRight a p ih =>
    rw [upgrade, info, SelectUpgrade.entry_right, ih live, ← comp_map]; rfl
  | eitherLeft b p ih =>
    rcases u with u | u
    · rw [upgrade, info, Either.entry_left, ih live, ← comp_map]; rfl
    · cases live
  | eitherRight a p ih =>
    rcases u with u | u
    · cases live
    · rw [upgrade, info, Either.entry_right, ih live, ← comp_map]; rfl

end Path

/-- Every info the tree offers is the tagged info of one leaf that yields it, on a path through
present sides. -/
theorem offered_path (t : UpgradeTree S) (u : t.U) (info : t.I)
    (offered : info ∈ t.upgrade.protocolInfo u) :
    ∃ (p : Path t) (v : p.leaf.U) (i : p.leaf.I),
      p.value u = some v ∧ i ∈ p.leaf.up.protocolInfo v ∧ info = p.info i := by
  induction t with
  | leaf l => exact ⟨.here l, u, info, rfl, offered, rfl⟩
  | select a b iha ihb =>
    simp only [upgrade, SelectUpgrade.upgrade, List.mem_append, List.mem_map] at offered
    rcases offered with ⟨i, offered, rfl⟩ | ⟨i, offered, rfl⟩
    · obtain ⟨p, v, j, live, yields, rfl⟩ := iha u.a i offered
      exact ⟨.selectLeft b p, v, j, live, yields, rfl⟩
    · obtain ⟨p, v, j, live, yields, rfl⟩ := ihb u.b i offered
      exact ⟨.selectRight a p, v, j, live, yields, rfl⟩
  | either a b iha ihb =>
    rcases u with u | u <;> simp only [upgrade, Either.upgrade, List.mem_map] at offered <;>
      obtain ⟨i, offered, rfl⟩ := offered
    · obtain ⟨p, v, j, live, yields, rfl⟩ := iha u i offered
      exact ⟨.eitherLeft b p, v, j, live, yields, rfl⟩
    · obtain ⟨p, v, j, live, yields, rfl⟩ := ihb u i offered
      exact ⟨.eitherRight a p, v, j, live, yields, rfl⟩

/-- Every info the tree offers is yielded by one live leaf, and the tree's entry point on it runs
that leaf through the same entry point, on the same stream, with the untagged leaf info, its
results tagged by the leaf's path. -/
theorem dispatches (t : UpgradeTree S) (u : t.U) (info : t.I)
    (offered : info ∈ t.upgrade.protocolInfo u) : ∃ p, Dispatches t u info p := by
  obtain ⟨p, v, i, live, yields, rfl⟩ := offered_path t u info offered
  exact ⟨p, v, i, live, yields, rfl, p.entry live i, fun _ _ => p.behaves⟩

end UpgradeTree

/-- An upgrade built by `SelectUpgrade` and `Either` from any leaves, to any depth, offers the
infos of its live leaves in order, and for each offered info both entry points run the leaf that
offered it, on the same stream, with the untagged info, never reaching the
`Invalid invocation of EitherUpgrade` panic, its results tagged by the leaf's path. -/
theorem upgradeTree_offers_live_leaves {S : Type} (t : UpgradeTree S) (u : t.U) :
    (t.upgrade.protocolInfo u).map t.upgrade.asRef = t.tokens u ∧
      ∀ info ∈ t.upgrade.protocolInfo u, ∃ p, UpgradeTree.Dispatches t u info p :=
  ⟨UpgradeTree.tokens_eq t u, UpgradeTree.dispatches t u⟩

end Airio
