import Mathlib.Data.List.Basic
import Mathlib.Tactic

/-!
# A bounded broadcast channel

Every receiver reads the one history of messages from where it subscribed. The channel keeps the
last `capacity` messages: a receiver that fell behind is told how many it missed and goes on with
the oldest one kept.
-/

namespace GhafDeviceManager

variable {α : Type}

structure Receiver where
  /-- The length of the history when the receiver subscribed. -/
  start : ℕ
  next : ℕ
  /-- The messages it was told it missed. -/
  missed : ℕ := 0
deriving DecidableEq, Repr

inductive Received (α : Type)
  | value (a : α)
  | lagged (count : ℕ)

namespace Receiver

def subscribe (sent : List α) : Receiver := { start := sent.length, next := sent.length }

/-- `recv`, which waits while it has nothing to give. -/
def recv (capacity : ℕ) (sent : List α) (receiver : Receiver) : Option (Received α × Receiver) :=
  if receiver.next + capacity < sent.length then
    let count := sent.length - capacity - receiver.next
    some (.lagged count, { receiver with
      next := receiver.next + count
      missed := receiver.missed + count })
  else sent[receiver.next]?.map fun a => (.value a, { receiver with next := receiver.next + 1 })

/-- What a receiver was given of a history: in order, each message once, and nothing missed that
it was not told of. -/
structure Follows (sent : List α) (receiver : Receiver) (taken : List α) : Prop where
  bound : receiver.next ≤ sent.length
  account : receiver.start + taken.length + receiver.missed = receiver.next
  sublist : taken.Sublist ((sent.take receiver.next).drop receiver.start)

variable {capacity : ℕ} {sent more taken : List α} {receiver receiver' : Receiver} {a : α}

theorem follows_subscribe (sent : List α) : Follows sent (subscribe sent) [] where
  bound := Nat.le_refl _
  account := rfl
  sublist := List.nil_sublist _

/-- What is sent later changes nothing about what was given. -/
theorem Follows.send (h : Follows sent receiver taken) (more : List α) :
    Follows (sent ++ more) receiver taken where
  bound := by
    rw [List.length_append]
    exact Nat.le_add_right_of_le h.bound
  account := h.account
  sublist := by
    rw [List.take_append_of_le_length h.bound]
    exact h.sublist

theorem Follows.recv_value (h : Follows sent receiver taken)
    (hrecv : receiver.recv capacity sent = some (.value a, receiver')) :
    Follows sent receiver' (taken ++ [a]) := by
  unfold recv at hrecv
  split at hrecv
  · cases hrecv
  · obtain ⟨b, hb, heq⟩ := Option.map_eq_some_iff.1 hrecv
    obtain ⟨hab, rfl⟩ := Prod.mk.inj heq
    obtain rfl : b = a := by injection hab
    obtain ⟨hlt, hget⟩ := List.getElem?_eq_some_iff.1 hb
    have hstart : receiver.start ≤ receiver.next := by
      have haccount := h.account
      omega
    have hnext : (sent.take (receiver.next + 1)).drop receiver.start =
        (sent.take receiver.next).drop receiver.start ++ [b] := by
      rw [List.take_add_one, hb, Option.toList_some, List.drop_append_of_le_length]
      rw [List.length_take]
      omega
    refine ⟨hlt, ?_, ?_⟩
    · have haccount := h.account
      rw [List.length_append, List.length_singleton]
      dsimp only
      omega
    · rw [hnext]
      exact h.sublist.append_right [b]

theorem Follows.recv_lagged {count : ℕ} (h : Follows sent receiver taken)
    (hrecv : receiver.recv capacity sent = some (.lagged count, receiver')) :
    Follows sent receiver' taken := by
  unfold recv at hrecv
  split at hrecv
  · obtain ⟨-, rfl⟩ := Prod.mk.inj (Option.some.inj hrecv)
    have haccount := h.account
    refine ⟨by dsimp only; omega, by dsimp only; omega, h.sublist.trans ?_⟩
    exact (List.take_sublist_take_left (Nat.le_add_right _ _)).drop _
  · obtain ⟨b, -, heq⟩ := Option.map_eq_some_iff.1 hrecv
    cases heq

theorem Follows.eq_of_missed_eq_zero (h : Follows sent receiver taken)
    (hmissed : receiver.missed = 0) : taken = (sent.take receiver.next).drop receiver.start := by
  refine h.sublist.eq_of_length ?_
  have haccount := h.account
  have hbound := h.bound
  rw [List.length_drop, List.length_take]
  omega

/-- What was given lies after the subscription. -/
theorem Follows.sublist_drop (h : Follows sent receiver taken) :
    taken.Sublist (sent.drop receiver.start) :=
  h.sublist.trans ((List.take_sublist _ _).drop _)

end Receiver

end GhafDeviceManager
