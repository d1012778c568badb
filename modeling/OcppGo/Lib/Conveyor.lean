import OcppGo.Lib.Chan
import OcppGo.Lib.Lists
import Mathlib.Logic.Function.Basic

/-!
# A queue and the worker behind it

A worker takes items from a bounded channel, one at a time, and delivers each before
it takes the next. Everything that was ever put into the channel is then accounted
for: it was delivered, the worker holds it, or it is still in the channel, in this
order. What can get lost when the worker gives up is what it holds and what the
channel has room for.
-/

namespace OcppGo.Lib

variable {α : Type*}

/-- What a worker has done, and what it is doing. -/
structure Conveyor (α : Type*) where
  delivered : List α
  /-- The item it has taken and not yet delivered. -/
  carrying : Option α

/-- The channel has this capacity and keeps to it. -/
structure Chan.Fits (c : Chan α) (n : Nat) : Prop where
  capacity : c.capacity = n
  items : c.items.length ≤ n

section

variable {c c' : Chan α} {n : Nat} {x : α}

theorem Chan.fits_make : (Chan.make n : Chan α).Fits n where
  capacity := rfl
  items := Nat.zero_le n

theorem Chan.Fits.send (h : c.Fits n) (hs : c.send x = .sent c') : c'.Fits n := by
  unfold Chan.send at hs
  split at hs
  · exact absurd hs (by simp)
  · split at hs
    · rename_i hroom
      cases hs
      refine ⟨h.capacity, ?_⟩
      rw [h.capacity] at hroom
      simp only [List.length_append, List.length_singleton]
      omega
    · exact absurd hs (by simp)

theorem Chan.Fits.recv (h : c.Fits n) (hr : c.recv = .value x c') : c'.Fits n := by
  obtain ⟨hitems, hc'⟩ := Chan.value_eq hr
  have hlen := h.items
  rw [hitems, List.length_cons] at hlen
  refine ⟨?_, by omega⟩
  rw [hc']
  exact h.capacity

end

namespace Conveyor

/-- A worker that has just started. -/
def start : Conveyor α where
  delivered := []
  carrying := none

def take (v : Conveyor α) (x : α) : Conveyor α := { v with carrying := some x }

/-- What it holds is delivered; if it holds nothing, nothing is. -/
def deliver (v : Conveyor α) : Conveyor α where
  delivered := v.delivered ++ v.carrying.toList
  carrying := none

/-- Everything that was put into the channel, in order, is somewhere. -/
def Accounts (v : Conveyor α) (c : Chan α) (put : List α) : Prop :=
  v.delivered ++ (v.carrying.toList ++ c.items) = put

variable {v : Conveyor α} {c c' : Chan α} {put : List α} {x : α} {n : Nat}

theorem accounts_start : (start : Conveyor α).Accounts (.make n) [] := rfl

theorem Accounts.send (h : v.Accounts c put) (hs : c.send x = .sent c') :
    v.Accounts c' (put ++ [x]) := by
  unfold Accounts at h ⊢
  rw [Chan.sent_eq hs, ← h]
  simp only [List.append_assoc]

theorem Accounts.take (h : v.Accounts c put) (hidle : v.carrying = none)
    (hr : c.recv = .value x c') : (v.take x).Accounts c' put := by
  obtain ⟨hitems, _⟩ := Chan.value_eq hr
  unfold Accounts at h
  rw [hidle, hitems] at h
  exact h

theorem Accounts.deliver (h : v.Accounts c put) : v.deliver.Accounts c put := by
  unfold Accounts at h ⊢
  rw [← h]
  exact List.append_assoc _ _ _

/-- What was delivered was put in, in the same order. -/
theorem Accounts.in_order (h : v.Accounts c put) : v.delivered <+: put := ⟨_, h⟩

/-- All but what the worker holds and what the channel has room for was delivered. -/
theorem Accounts.length_le (h : v.Accounts c put) (hc : c.Fits n) :
    put.length ≤ v.delivered.length + 1 + n := by
  have hitems := hc.items
  have hcarry : v.carrying.toList.length ≤ 1 := by
    cases v.carrying with
    | none => exact Nat.zero_le 1
    | some y => exact Nat.le_refl 1
  unfold Accounts at h
  rw [← h, List.length_append, List.length_append]
  omega

end Conveyor

/-! ## Many queues, each with its worker -/

/-- Numbered queues of capacity `n`, each with its worker and what was put into it. -/
structure Conveyors (n : Nat) (queues : List (Chan α)) (lines : Nat → Conveyor α)
    (put : Nat → List α) : Prop where
  account : ∀ (k : Nat) (c : Chan α), queues[k]? = some c → (lines k).Accounts c (put k)
  fits : ∀ (k : Nat) (c : Chan α), queues[k]? = some c → c.Fits n
  /-- Numbers that are not given out yet. -/
  unused : ∀ k, queues.length ≤ k → lines k = .start ∧ put k = []

namespace Conveyors

variable {n k : Nat} {queues : List (Chan α)} {lines lines' : Nat → Conveyor α}
  {put put' : Nat → List α} {c c' : Chan α} {x : α}

theorem none_yet : Conveyors n [] (fun _ => (.start : Conveyor α)) (fun _ => []) where
  account _ _ hk := nomatch hk
  fits _ _ hk := nomatch hk
  unused _ _ := ⟨rfl, rfl⟩

/-- One more queue, with the next number. -/
theorem enter (h : Conveyors n queues lines put) :
    Conveyors n (queues ++ [.make n]) lines put := by
  obtain ⟨hline, hput⟩ := h.unused queues.length (Nat.le_refl _)
  constructor
  case account =>
    intro j d hj
    rcases getElem?_snoc hj with hj | ⟨rfl, rfl⟩
    · exact h.account j d hj
    · rw [hline, hput]
      exact Conveyor.accounts_start
  case fits =>
    intro j d hj
    rcases getElem?_snoc hj with hj | ⟨_, rfl⟩
    · exact h.fits j d hj
    · exact Chan.fits_make
  case unused =>
    intro j hj
    rw [List.length_append, List.length_singleton] at hj
    exact h.unused j (by omega)

/-- One queue changes, with its worker and what was put into it. -/
theorem replace (h : Conveyors n queues lines put) (hk : queues[k]? = some c)
    (hlines : ∀ j, j ≠ k → lines' j = lines j) (hput : ∀ j, j ≠ k → put' j = put j)
    (haccount : (lines' k).Accounts c' (put' k)) (hfits : c'.Fits n) :
    Conveyors n (queues.set k c') lines' put' := by
  constructor
  case account =>
    intro j d hj
    rcases getElem?_replaced hj with ⟨rfl, rfl⟩ | ⟨hjk, hj⟩
    · exact haccount
    · rw [hlines j hjk, hput j hjk]
      exact h.account j d hj
  case fits =>
    intro j d hj
    rcases getElem?_replaced hj with ⟨rfl, rfl⟩ | ⟨_, hj⟩
    · exact hfits
    · exact h.fits j d hj
  case unused =>
    intro j hj
    rw [List.length_set] at hj
    have hlt := (List.getElem?_eq_some_iff.mp hk).1
    have hjk : j ≠ k := by omega
    rw [hlines j hjk, hput j hjk]
    exact h.unused j hj

theorem send (h : Conveyors n queues lines put) (hk : queues[k]? = some c)
    (hs : c.send x = .sent c') (hput : ∀ j, j ≠ k → put' j = put j)
    (hputk : put' k = put k ++ [x]) : Conveyors n (queues.set k c') lines put' := by
  refine h.replace hk (fun _ _ => rfl) hput ?_ ((h.fits k c hk).send hs)
  rw [hputk]
  exact (h.account k c hk).send hs

theorem take (h : Conveyors n queues lines put) (hk : queues[k]? = some c)
    (hidle : (lines k).carrying = none) (hr : c.recv = .value x c') :
    Conveyors n (queues.set k c') (Function.update lines k ((lines k).take x)) put := by
  refine h.replace hk (fun j hj => Function.update_of_ne hj _ _) (fun _ _ => rfl) ?_
    ((h.fits k c hk).recv hr)
  rw [Function.update_self]
  exact (h.account k c hk).take hidle hr

theorem deliver (h : Conveyors n queues lines put) (hk : queues[k]? = some c) :
    Conveyors n queues (Function.update lines k (lines k).deliver) put := by
  have hset : queues.set k c = queues := by
    obtain ⟨hlt, rfl⟩ := List.getElem?_eq_some_iff.mp hk
    exact List.set_getElem_self hlt
  rw [← hset]
  refine h.replace hk (fun j hj => Function.update_of_ne hj _ _) (fun _ _ => rfl) ?_
    (h.fits k c hk)
  rw [Function.update_self]
  exact (h.account k c hk).deliver

/-- A queue that keeps its contents is closed at most. -/
theorem keep (h : Conveyors n queues lines put) (hk : queues[k]? = some c)
    (hitems : c'.items = c.items) (hcapacity : c'.capacity = c.capacity) :
    Conveyors n (queues.set k c') lines put := by
  have haccount := h.account k c hk
  have hfits := h.fits k c hk
  refine h.replace hk (fun _ _ => rfl) (fun _ _ => rfl) ?_ ?_
  · unfold Conveyor.Accounts at haccount ⊢
    rw [hitems]
    exact haccount
  · refine ⟨hcapacity.trans hfits.capacity, ?_⟩
    rw [hitems]
    exact hfits.items

end Conveyors

end OcppGo.Lib
