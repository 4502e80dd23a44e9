import Airio.Quic
import Airio.Muxing

/-! airio-quic's `impl StreamMuxer for Connection`. Its `poll_close` never closes the connection:
it stores a block awaiting quinn's `closed()` and waits for it, so `close()` on the muxer resolves
only when the connection is closed some other way. Its `poll` is always `Pending`. -/
namespace Airio.Quic

variable {quinn : Quinn}

namespace Connection

def streamMuxer (quinn : Quinn) : StreamMuxer (Connection quinn) (Stream quinn) (Error quinn) where
  pollInbound := pollInbound quinn
  pollOutbound := pollOutbound quinn
  pollClose := pollClose quinn
  poll this := .ok (.pending, this)

def closeResult (quinn : Quinn) (err : quinn.ConnectionError) : Except (Error quinn) Unit :=
  if quinn.isLocallyClosed err then .ok () else .error (.connection err)

/-- `poll_close` on a connection whose close was never polled runs as `closed()` does, its
error read by `closeResult`. -/
theorem pollClose_behaves (this : Connection quinn) (fresh : this.closing = none) :
    Behaves (pollClose quinn) this ((quinn.closed this.connection).map (closeResult quinn)) := by
  have runs := Behaves.simulate (q := pollClose quinn)
    (fun block : AsyncBlock quinn.Connection (Fut quinn.ConnectionError) =>
      { this with closing := some block })
    (closeResult quinn)
    (fun _ _ polled => by simp only [pollClose, Option.getD_some, polled]; rfl)
    (fun _ block err polled => ⟨{ this with closing := some block }, by
      simp only [pollClose, Option.getD_some, polled, closeResult, bind, Except.bind]
      cases quinn.isLocallyClosed err <;> rfl⟩)
    (AsyncBlock.behaves_unresumed quinn.closed this.connection)
  exact runs.of_poll_eq (by simp only [pollClose, fresh, Option.getD_none, Option.getD_some])

end Connection

/-- A QUIC muxer's `close()`, on a connection whose `poll_close` never ran, runs exactly as
quinn's `closed()` on the connection: it resolves when `closed()` does, with `Ok(())` for a local
close and the connection error otherwise. Nothing it polls closes the connection. -/
theorem quic_close_awaits_closed (this : Connection quinn) (fresh : this.closing = none) :
    Behaves (Close.poll (Connection.streamMuxer quinn)) (StreamMuxerExt.close this)
      ((quinn.closed this.connection).map (Connection.closeResult quinn)) :=
  Close.behaves _ (Connection.pollClose_behaves this fresh)

theorem peerGone_close_fails :
    (Connection.new () : Connection peerGone).closing = none ∧
      Behaves (Close.poll (Connection.streamMuxer peerGone)) (StreamMuxerExt.close (Connection.new ()))
        (.ready (.error (.connection ()))) :=
  ⟨rfl, @quic_close_awaits_closed peerGone (Connection.new ()) rfl⟩

end Airio.Quic
