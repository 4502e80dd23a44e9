import Airio.Future

/-! airio-core's `StreamMuxer` and the `Close` future of `StreamMuxerExt::close`. A muxer is its
four polls over its state; `close` wraps the muxer and polls its `poll_close` until it resolves.
The `*_unpin` helpers only pin the muxer and call the poll they name. -/
namespace Airio

/-- `StreamMuxerEvent`, which has no variants: `StreamMuxer::poll` is `Pending` or an error. -/
inductive StreamMuxerEvent : Type

structure StreamMuxer (M Substream E : Type) where
  pollInbound : PollFn M (Except E Substream)
  pollOutbound : PollFn M (Except E Substream)
  pollClose : PollFn M (Except E Unit)
  poll : PollFn M (Except E StreamMuxerEvent)

structure Close (M : Type) where
  muxer : M

def StreamMuxerExt.close {M : Type} (self : M) : Close M := ⟨self⟩

namespace Close
variable {M Substream E : Type}

def poll (muxer : StreamMuxer M Substream E) : PollFn (Close M) (Except E Unit) := fun self => do
  let (r, m) ← muxer.pollClose self.muxer
  pure (r, ⟨m⟩)

/-- `close()` runs as the muxer's `poll_close` does. -/
theorem behaves (muxer : StreamMuxer M Substream E) {s : M} {d : Fut (Except E Unit)}
    (runs : Behaves muxer.pollClose s d) : Behaves (poll muxer) (StreamMuxerExt.close s) d := by
  induction runs with
  | ready polled => exact .ready (by simp only [poll, StreamMuxerExt.close, polled]; rfl)
  | pending polled _ ih => exact .pending (by simp only [poll, StreamMuxerExt.close, polled]; rfl) ih

end Close

end Airio
