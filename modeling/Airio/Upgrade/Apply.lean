import Airio.Upgrade

/-! `UpgradeApply`: protocol negotiation through `airio_stream_select`, then the negotiated
upgrade on the negotiated stream. The negotiation futures live outside src/, so they enter as
the runs the environment gives them; everything else is the code of `upgrade/apply.rs`. -/
namespace Airio

/-- `DialerSelectFuture::new` and `ListenerSelectFuture::new` on a stream `C` and the offered
infos, as the runs they have: the negotiated info and `Negotiated<C>` stream `N`, or an error. -/
structure Select (C I N X : Type) where
  dialer : C → List I → Fut (Except X (I × N))
  listener : C → List I → Fut (Except X (I × N))

def Select.start (sel : Select C I N X) : Endpoint → C → List I → Fut (Except X (I × N))
  | .dialer => sel.dialer
  | .listener => sel.listener

inductive UpgradeApplyState (X I N U F : Type) where
  | listenerInit (future : Fut (Except X (I × N))) (upgrade : U)
  | dialerInit (future : Fut (Except X (I × N))) (upgrade : U)
  | upgrade (future : F) (name : String)
  | undefined

structure UpgradeApply (X I N U F : Type) where
  inner : UpgradeApplyState X I N U F

namespace UpgradeApply
variable {C U I F O E N X : Type}

def newOutbound (sel : Select C I N X) (up : Upgrade U N I F O E) (io : C) (upgrade : U) :
    UpgradeApply X I N U F :=
  ⟨.dialerInit (sel.dialer io (up.protocolInfo upgrade)) upgrade⟩

def newInbound (sel : Select C I N X) (up : Upgrade U N I F O E) (io : C) (upgrade : U) :
    UpgradeApply X I N U F :=
  ⟨.listenerInit (sel.listener io (up.protocolInfo upgrade)) upgrade⟩

/-- `new_outbound` for the dialer and `new_inbound` for the listener, the choice
`UpgradeFuture::poll` makes by its role. -/
def forRole : Endpoint → Select C I N X → Upgrade U N I F O E → C → U → UpgradeApply X I N U F
  | .dialer => newOutbound
  | .listener => newInbound

abbrev Step (X I N U F E O : Type) :=
  Pass (UpgradeApply X I N U F) (Poll (Except (UpgradeError X E) O) × UpgradeApply X I N U F)

/-- The `DialerInit` and `ListenerInit` arms of the loop: poll the negotiation and, once it has
chosen `info` on `connection`, build the upgrade future through `entry`; `restore` puts a
pending negotiation back. -/
def negotiate (up : Upgrade U N I F O E) (entry : U → N → I → Except String F)
    (restore : Fut (Except X (I × N)) → U → UpgradeApplyState X I N U F)
    (future : Fut (Except X (I × N))) (upgrade : U) : Except String (Step X I N U F E O) := do
  let (r, future) ← Fut.poll future
  match r with
  | .pending => pure (.exit (.pending, ⟨restore future upgrade⟩))
  | .ready (.error e) => pure (.exit (.ready (.error (.select e)), ⟨.undefined⟩))
  | .ready (.ok (info, connection)) => do
    let future ← entry upgrade connection info
    pure (.again ⟨.upgrade future (up.asRef info)⟩)

def upgraded (name : String) :
    Poll (Except E O) × F → Poll (Except (UpgradeError X E) O) × UpgradeApply X I N U F
  | (.ready (.ok x), _) => (.ready (.ok x), ⟨.undefined⟩)
  | (.ready (.error e), _) => (.ready (.error (.apply e)), ⟨.undefined⟩)
  | (.pending, future) => (.pending, ⟨.upgrade future name⟩)

/-- One pass of the `loop` in `UpgradeApply::poll`, which starts with
`mem::replace(&mut self.inner, Undefined)`: a path that returns without writing `self.inner`
back leaves `Undefined` there. -/
def pass (up : Upgrade U N I F O E) (self : UpgradeApply X I N U F) :
    Except String (Step X I N U F E O) :=
  match self.inner with
  | .dialerInit future upgrade => negotiate up up.upgradeOutbound .dialerInit future upgrade
  | .listenerInit future upgrade => negotiate up up.upgradeInbound .listenerInit future upgrade
  | .upgrade future name => do return .exit (upgraded name (← up.poll future))
  | .undefined => .error "Invalid state in UpgradeApply"

def rank (self : UpgradeApply X I N U F) : Nat :=
  match self.inner with
  | .dialerInit _ _ | .listenerInit _ _ => 1
  | _ => 0

@[simp] theorem negotiate_pending (up : Upgrade U N I F O E) entry restore
    (next : Fut (Except X (I × N))) (upgrade : U) :
    negotiate up entry restore (.pending next) upgrade = .ok (.exit (.pending, ⟨restore next upgrade⟩)) :=
  rfl

@[simp] theorem negotiate_failed (up : Upgrade U N I F O E) entry restore (e : X) (upgrade : U) :
    negotiate up entry restore (.ready (.error e)) upgrade =
      (.ok (.exit (.ready (.error (.select e)), ⟨.undefined⟩)) : Except String (Step X I N U F E O)) :=
  rfl

@[simp] theorem negotiate_chosen (up : Upgrade U N I F O E) entry restore (info : I) (connection : N)
    (upgrade : U) :
    negotiate (O := O) (X := X) up entry restore (.ready (.ok (info, connection))) upgrade =
      (fun future => .again ⟨.upgrade future (up.asRef info)⟩) <$> entry upgrade connection info := by
  simp only [negotiate, Fut.poll, bind, Except.bind, pure, Except.pure]
  cases entry upgrade connection info <;> rfl

theorem negotiate_again {up : Upgrade U N I F O E} {entry restore}
    {future : Fut (Except X (I × N))} {upgrade : U} {self' : UpgradeApply X I N U F}
    (went : negotiate (O := O) up entry restore future upgrade = .ok (.again self')) :
    ∃ f name, self'.inner = .upgrade f name := by
  rcases future with (e | ⟨info, connection⟩) | next
  · simp at went
  · rw [negotiate_chosen] at went
    cases chosen : entry upgrade connection info with
    | error msg => simp [chosen, Functor.map, Except.map] at went
    | ok f =>
      simp only [chosen, Functor.map, Except.map, Except.ok.injEq, Pass.again.injEq] at went
      exact ⟨f, _, by rw [← went]⟩
  · simp at went

@[simp] theorem pass_upgrade (up : Upgrade U N I F O E) (future : F) (name : String) :
    pass (X := X) (I := I) up ⟨.upgrade future name⟩ =
      (Pass.exit ∘ upgraded name) <$> up.poll future := by
  simp only [pass, bind, Except.bind, pure, Except.pure]
  cases up.poll future <;> rfl

theorem pass_again {up : Upgrade U N I F O E} {self self' : UpgradeApply X I N U F}
    (went : pass up self = .ok (.again self')) : rank self' < rank self := by
  rcases self with ⟨inner⟩
  cases inner with
  | dialerInit future upgrade | listenerInit future upgrade =>
    obtain ⟨f, name, shape⟩ := negotiate_again went
    simp [rank, shape]
  | upgrade future name =>
    rw [pass_upgrade] at went
    cases polled : up.poll future <;> simp [polled, Functor.map, Except.map] at went
  | undefined => simp [pass] at went

def poll (up : Upgrade U N I F O E) : PollFn (UpgradeApply X I N U F) (Except (UpgradeError X E) O) :=
  loop (pass up) rank fun _ _ went => pass_again went

def negotiating : Endpoint → Fut (Except X (I × N)) → U → UpgradeApplyState X I N U F
  | .dialer => .dialerInit
  | .listener => .listenerInit

theorem forRole_negotiating (role : Endpoint) (sel : Select C I N X) (up : Upgrade U N I F O E)
    (io : C) (upgrade : U) :
    forRole role sel up io upgrade =
      ⟨negotiating role (sel.start role io (up.protocolInfo upgrade)) upgrade⟩ := by
  cases role <;> rfl

theorem pass_negotiating (up : Upgrade U N I F O E) (role : Endpoint)
    (future : Fut (Except X (I × N))) (upgrade : U) :
    pass up ⟨negotiating role future upgrade⟩ =
      negotiate up (up.entry role) (negotiating role) future upgrade := by
  cases role <;> rfl

@[simp] theorem poll_upgrade (up : Upgrade U N I F O E) (future : F) (name : String) :
    poll (X := X) (I := I) up ⟨.upgrade future name⟩ = upgraded name <$> up.poll future := by
  unfold poll
  apply loop_of_exit
  rw [pass_upgrade]
  cases up.poll future <;> rfl

theorem negotiate_exit_pending {up : Upgrade U N I F O E} {entry restore}
    {future : Fut (Except X (I × N))} {upgrade : U} {self' : UpgradeApply X I N U F}
    (went : negotiate (O := O) up entry restore future upgrade = .ok (.exit (.pending, self'))) :
    ∃ f u, self'.inner = restore f u := by
  rcases future with (e | ⟨info, connection⟩) | next
  · simp at went
  · rw [negotiate_chosen] at went
    cases chosen : entry upgrade connection info <;> simp [chosen, Functor.map, Except.map] at went
  · simp only [negotiate_pending, Except.ok.injEq, Pass.exit.injEq, Prod.mk.injEq] at went
    exact ⟨next, upgrade, by rw [← went.2]⟩

/-- A `Pending` poll never leaves `Undefined` behind. -/
theorem poll_pending_defined {up : Upgrade U N I F O E} {self self' : UpgradeApply X I N U F}
    (polled : poll up self = .ok (.pending, self')) : self'.inner ≠ .undefined := by
  obtain ⟨⟨inner⟩, went⟩ := loop_exited _ _ polled
  cases inner with
  | dialerInit future upgrade | listenerInit future upgrade =>
    obtain ⟨f, u, shape⟩ := negotiate_exit_pending went
    simp [shape]
  | upgrade future name =>
    rw [pass_upgrade] at went
    cases polled' : up.poll future with
    | error msg => simp [polled', Functor.map, Except.map] at went
    | ok p =>
      rcases p with ⟨(x | x) | _, future'⟩ <;>
        simp only [polled', Functor.map, Except.map, Function.comp, upgraded, Except.ok.injEq,
          Pass.exit.injEq, Prod.mk.injEq, reduceCtorEq, false_and] at went
      rw [← went.2]
      simp
  | undefined => simp [pass] at went

/-- What `UpgradeApply` is for: negotiate, then run the upgrade on the negotiated stream with
the negotiated info; a failure is tagged with the stage that failed. -/
def spec (negotiation : Fut (Except X (I × N))) (run : N → I → Fut (Except E O)) :
    Fut (Except (UpgradeError X E) O) :=
  negotiation.bind fun
    | .error e => .ready (.error (.select e))
    | .ok (info, connection) => (run connection info).map (Except.mapError .apply)

theorem upgrade_behaves {up : Upgrade U N I F O E} {future : F} {d : Fut (Except E O)}
    (name : String) (runs : Behaves up.poll future d) :
    Behaves (poll (X := X) (I := I) up) ⟨.upgrade future name⟩
      (d.map (Except.mapError .apply)) :=
  Behaves.simulate (q := poll up) (fun f => (⟨.upgrade f name⟩ : UpgradeApply X I N U F)) _
    (fun _ _ polled => by rw [poll_upgrade, polled]; rfl)
    (fun _ _ a polled => by cases a <;> exact ⟨_, by rw [poll_upgrade, polled]; rfl⟩) runs

/-- The upgrade future the role's entry point builds on the negotiated stream and info runs as
`run`: the negotiations this holds for are those that end choosing that info. -/
def Upgrades (up : Upgrade U N I F O E) (role : Endpoint) (upgrade : U)
    (negotiation : Fut (Except X (I × N))) (run : N → I → Fut (Except E O)) : Prop :=
  ∀ info connection, negotiation.result = .ok (info, connection) →
    ∃ future, up.entry role upgrade connection info = .ok future ∧
      Behaves up.poll future (run connection info)

theorem negotiating_behaves {up : Upgrade U N I F O E} {role : Endpoint} {upgrade : U}
    {run : N → I → Fut (Except E O)} (negotiation : Fut (Except X (I × N)))
    (upgrades : Upgrades up role upgrade negotiation run) :
    Behaves (poll up) ⟨negotiating role negotiation upgrade⟩ (spec negotiation run) := by
  induction negotiation with
  | pending next ih =>
    refine .pending ?_ (ih upgrades)
    unfold poll
    exact loop_exit (by rw [pass_negotiating, negotiate_pending])
  | ready r =>
    rcases r with e | ⟨info, connection⟩
    · exact .ready (loop_exit (by rw [pass_negotiating, negotiate_failed]))
    · obtain ⟨future, built, runs⟩ := upgrades info connection rfl
      have went : pass up (⟨negotiating role (.ready (.ok (info, connection))) upgrade⟩ :
          UpgradeApply X I N U F) = .ok (.again ⟨.upgrade future (up.asRef info)⟩) := by
        rw [pass_negotiating, negotiate_chosen, built]; rfl
      exact Behaves.of_poll_eq (loop_again went) (upgrade_behaves _ runs)

end UpgradeApply

/-- `UpgradeApply` built by `new_outbound` (dialer) or `new_inbound` (listener) is
negotiate-then-upgrade: it runs as the negotiation, then, only if that chose `(info, conn)`,
as the upgrade future the role's entry point builds on exactly `conn` and `info`, polled in the
same poll; errors are tagged `Select` or `Apply`. No state polled before it resolves is
`Undefined`. -/
theorem upgradeApply_negotiates_then_upgrades {C U I F O E N X : Type} (role : Endpoint)
    (sel : Select C I N X) (up : Upgrade U N I F O E) (io : C) (upgrade : U)
    (run : N → I → Fut (Except E O))
    (upgrades : UpgradeApply.Upgrades up role upgrade
      (sel.start role io (up.protocolInfo upgrade)) run) :
    Behaves (UpgradeApply.poll up) (UpgradeApply.forRole role sel up io upgrade)
        (UpgradeApply.spec (sel.start role io (up.protocolInfo upgrade)) run) ∧
      ∀ self, Pends (UpgradeApply.poll up) (UpgradeApply.forRole role sel up io upgrade) self →
        self.inner ≠ .undefined := by
  rw [UpgradeApply.forRole_negotiating]
  refine ⟨UpgradeApply.negotiating_behaves _ upgrades, fun self reached => ?_⟩
  refine Pends.invariant (fun s => s.inner ≠ .undefined)
    (fun _ _ _ polled => UpgradeApply.poll_pending_defined polled) ?_ reached
  cases role <;> simp [UpgradeApply.negotiating]

theorem readyUpgrade_dialed :
    UpgradeApply.Upgrades (X := Unit) (ReadyUpgrade.upgrade (S := Unit) id) .dialer ⟨"/id"⟩
        (Fut.pending (.ready (.ok ("/id", ())))) (fun stream _ => .ready (.ok stream)) ∧
      (Behaves (UpgradeApply.poll (X := Unit) (ReadyUpgrade.upgrade id))
          (UpgradeApply.forRole .dialer
            ⟨fun _ _ => .pending (.ready (.ok ("/id", ()))), fun _ _ => .ready (.error ())⟩
            (ReadyUpgrade.upgrade id) () ⟨"/id"⟩)
          (UpgradeApply.spec (.pending (.ready (.ok ("/id", ()))))
            (fun stream _ => .ready (.ok stream))) ∧
        ∀ self, Pends (UpgradeApply.poll (ReadyUpgrade.upgrade id))
          (UpgradeApply.forRole .dialer
            ⟨fun _ _ => .pending (.ready (.ok ("/id", ()))), fun _ _ => .ready (.error ())⟩
            (ReadyUpgrade.upgrade id) () ⟨"/id"⟩) self → self.inner ≠ .undefined) :=
  have upgrades : UpgradeApply.Upgrades (X := Unit) (ReadyUpgrade.upgrade (S := Unit) id) .dialer ⟨"/id"⟩
      (Fut.pending (.ready (.ok ("/id", ())))) (fun stream _ => .ready (.ok stream)) :=
    fun _ connection _ => ReadyUpgrade.behaves id .dialer _ connection _
  ⟨upgrades, upgradeApply_negotiates_then_upgrades .dialer
    ⟨fun _ _ => .pending (.ready (.ok ("/id", ()))), fun _ _ => .ready (.error ())⟩
    (ReadyUpgrade.upgrade id) () ⟨"/id"⟩ _ upgrades⟩

end Airio
