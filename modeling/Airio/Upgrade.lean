import Airio.Transport

/-! The `Upgrade` capability: the protocol infos an upgrade offers and the two entry points that
turn a negotiated stream into an upgrade future, with `ReadyUpgrade` and `PendingUpgrade`. -/
namespace Airio

/-- `UpgradeError`; `X` is `airio_stream_select::NegotiationError`. -/
inductive UpgradeError (X E : Type) where
  | select (e : X)
  | apply (e : E)
  deriving DecidableEq, Repr

/-- An `impl Upgrade<S> for U` with `Info = I` and `Future = F`: the `UpgradeInfo` and `Upgrade`
methods; an entry point that panics returns `.error`. -/
structure Upgrade (U S I F O E : Type) where
  protocolInfo : U → List I
  asRef : I → String
  upgradeInbound : U → S → I → Except String F
  upgradeOutbound : U → S → I → Except String F
  poll : PollFn F (Except E O)

/-- The entry point a role uses: `upgrade_outbound` for the dialer, `upgrade_inbound` for the
listener. -/
def Upgrade.entry (up : Upgrade U S I F O E) : Endpoint → U → S → I → Except String F
  | .dialer => up.upgradeOutbound
  | .listener => up.upgradeInbound

/-- `ReadyUpgrade<P>`: offers its one protocol name and hands the stream back at once. -/
structure ReadyUpgrade (P : Type) where
  protocolName : P

def ReadyUpgrade.upgrade (asRef : P → String) :
    Upgrade (ReadyUpgrade P) S P (Ready (Except Empty S)) S Empty where
  protocolInfo self := [self.protocolName]
  asRef := asRef
  upgradeInbound _ stream _ := .ok ⟨some (.ok stream)⟩
  upgradeOutbound _ stream _ := .ok ⟨some (.ok stream)⟩
  poll := Ready.poll

theorem ReadyUpgrade.behaves (asRef : P → String) (role : Endpoint) (self : ReadyUpgrade P)
    (stream : S) (info : P) :
    ∃ future, (ReadyUpgrade.upgrade asRef).entry role self stream info = .ok future ∧
      Behaves Ready.poll future (.ready (.ok stream)) :=
  ⟨⟨some (.ok stream)⟩, by cases role <;> rfl, .ready rfl⟩

/-- `PendingUpgrade<P>`: offers its one protocol name; its future never resolves. -/
structure PendingUpgrade (P : Type) where
  protocolName : P

def PendingUpgrade.upgrade (asRef : P → String) :
    Upgrade (PendingUpgrade P) S P (Pending (Except Empty Empty)) Empty Empty where
  protocolInfo self := [self.protocolName]
  asRef := asRef
  upgradeInbound _ _ _ := .ok ⟨⟩
  upgradeOutbound _ _ _ := .ok ⟨⟩
  poll := Pending.poll

end Airio
