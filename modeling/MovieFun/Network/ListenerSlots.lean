import MovieFun.Foundation.SlotRegistry
import MovieFun.Network.AccountService

/-!
# The slots of the snapshot listeners

Three services register snapshot listeners: `ChatService` with one slot for each movie
id, `CommentListService` and `AccountService` with one slot each. None of them removes
what the slot holds before it registers anew, so a registration is lost exactly when a
key is added twice without a removal in between (`noLeaks_iff_addedOnce`).
-/

namespace MovieFun

/-- The listener calls that `ChatService` receives from its owners. -/
inductive ChatService.ListenerCall (Owner : Type)
  | addListener (movieId : String) (owner : Owner)
  | removeListener (movieId : String)
deriving DecidableEq, Repr

/-- The listener calls of `CommentListService`. `share` is the account service at the
call. -/
inductive CommentListService.ListenerCall (Owner : Type)
  | addListener (share : AccountService) (owner : Owner)
  | removeListener
deriving DecidableEq, Repr

/-- The listener calls of `AccountService`. -/
inductive AccountService.ListenerCall (Owner : Type)
  | addListener (share : AccountService) (owner : Owner)
  | removeListener
deriving DecidableEq, Repr

variable (Owner : Type)

/-- What a call does to `groupListener`. -/
def ChatService.slotCall : ChatService.ListenerCall Owner → Option (SlotCall String Owner)
  | .addListener movieId owner => some (.add movieId owner)
  | .removeListener movieId => some (.remove movieId)

/-- What a call does to `listener`: without an account id nothing is registered. -/
def CommentListService.slotCall :
    CommentListService.ListenerCall Owner → Option (SlotCall Unit Owner)
  | .addListener share owner => share.getAccountId.map fun _ => .add () owner
  | .removeListener => some (.remove ())

/-- What a call does to `listener`: without an account nothing is registered. -/
def AccountService.slotCall : AccountService.ListenerCall Owner → Option (SlotCall Unit Owner)
  | .addListener share owner => share.account.map fun _ => .add () owner
  | .removeListener => some (.remove ())

section Leaks

variable {Call Key Owner : Type} [DecidableEq Key] (slotCall : Call → Option (SlotCall Key Owner))

/-- At every point, what is live for a key is in its slot, and nothing is live for a
key that was removed. -/
def NoLeaks (calls : List Call) : Prop :=
  EventRun.EachPoint (SlotRegistry.step slotCall) (SlotRegistry.Tight slotCall) {} calls

/-- A key is registered only when the last call that registered or removed it was a
removal, or there was none. -/
def AddedOnce (calls : List Call) : Prop :=
  EventRun.EachTransition (SlotRegistry.step slotCall) (SlotRegistry.Alternates slotCall) {} calls

end Leaks

/-- **No registration leaks exactly when no listener is added over another.** For each
service and every sequence of calls by any owners. -/
theorem noLeaks_iff_addedOnce (Owner : Type) :
    (∀ calls,
      NoLeaks (ChatService.slotCall Owner) calls ↔ AddedOnce (ChatService.slotCall Owner) calls) ∧
    (∀ calls, NoLeaks (CommentListService.slotCall Owner) calls ↔
      AddedOnce (CommentListService.slotCall Owner) calls) ∧
    ∀ calls, NoLeaks (AccountService.slotCall Owner) calls ↔
      AddedOnce (AccountService.slotCall Owner) calls :=
  ⟨SlotRegistry.tight_iff_alternating, SlotRegistry.tight_iff_alternating,
    SlotRegistry.tight_iff_alternating⟩

/-- A chat is opened on a movie that the comment list listens to. -/
def chatOverList : List (ChatService.ListenerCall Nat) :=
  [.addListener "1" 0, .addListener "1" 1, .removeListener "1"]

/-- The listener of the comment list stays live and is in no slot. -/
theorem not_noLeaks_chatOverList : ¬ NoLeaks (ChatService.slotCall Nat) chatOverList := by
  intro noLeaks
  have silent := (noLeaks chatOverList List.prefix_rfl _ rfl "1").2 rfl
  exact silent { key := "1", number := 0, payload := 0 } (by decide) rfl

end MovieFun
