import ChannelMux.World.Basic

/-! Closing a channel with its subtree, as the base every kind shares does it. -/

namespace ChannelMux

/-- A call the close of a subtree makes on one channel. -/
inductive CloseCall where
  /-- The channel enters `closing`, with a new generation, and its notices are dispatched. -/
  | begin (id : ChannelId)
  /-- The kind takes the channel's transport down, and fails or not. -/
  | onClose (id : ChannelId) (fault : Option Failure)
  /-- The channel enters `closed`, and its notice is dispatched. -/
  | finish (id : ChannelId)
  deriving DecidableEq, Repr

namespace CloseCall

/-- The channel a call is made on. -/
def id : CloseCall → ChannelId
  | .begin id | .onClose id _ | .finish id => id

/-- The failure a call reports: only a kind's `OnClose` may fail. -/
def fault : CloseCall → Option Failure
  | .onClose _ fault => fault
  | _ => none

end CloseCall

/-- How the channels of a world of type `σ` are closed. -/
structure Closer (σ : Type) where
  isClosed : σ → ChannelId → Bool
  children : σ → ChannelId → List ChannelId
  beginClose : σ → ChannelId → σ
  onClose : σ → ChannelId → σ × Option Failure
  finishClose : σ → ChannelId → σ

/-- What closing channels leaves: the world, the calls made in order, and the first failure. -/
structure CloseRun (σ : Type) where
  world : σ
  calls : List CloseCall
  failure : Option Failure

namespace Closer

variable {σ : Type}

/-- Closes channels in order, each with its subtree; `fuel` bounds the depth of the tree. -/
def closeEach (k : Closer σ) : Nat → List ChannelId → σ → CloseRun σ
  | 0, _, s => ⟨s, [], none⟩
  | _ + 1, [], s => ⟨s, [], none⟩
  | fuel + 1, id :: rest, s =>
    let first : CloseRun σ :=
      if k.isClosed s id then ⟨s, [], none⟩
      else
        let started := k.beginClose s id
        let inner := k.closeEach fuel (k.children started id) started
        let down := k.onClose inner.world id
        ⟨k.finishClose down.1 id, .begin id :: inner.calls ++ [.onClose id down.2, .finish id],
          inner.failure <|> down.2⟩
    let later := k.closeEach (fuel + 1) rest first.world
    ⟨later.world, first.calls ++ later.calls, first.failure <|> later.failure⟩
termination_by fuel ids => (fuel, ids.length)

end Closer

end ChannelMux
