import OcppGo.Proof.ServerChanges

/-!
# The pending slot and the head of the queue

A client's pending slot is filled for the head of its queue and emptied when
that head is removed, so a filled slot always names the head. The pump and
`CompleteRequest` preserve this from any state, and so do pushes; only deleting
a client can break it, and clearing the slot repairs that.
-/

namespace OcppGo.Proof

open OcppGo.Ocppj

/-- If the client's slot is filled, it names the head of the client's queue. -/
def SlotHeadAt (d : ServerDispatcher) (c : String) : Prop :=
  slotOf d c ≠ "" → ∃ p rest, queueOf d c = p :: rest ∧ p.id = slotOf d c

/-- A filled slot names the head of its client's queue. -/
def SlotHead (d : ServerDispatcher) : Prop :=
  ∀ c, slotOf d c ≠ "" → ∃ p rest, queueOf d c = p :: rest ∧ p.id = slotOf d c

section

variable {d d' : ServerDispatcher} {c x : String}

theorem slotHead_start (n : Nat) (timeout : Int) : SlotHead (.start n timeout) := by
  intro c h
  exact absurd rfl h

/-- Nothing but the client's queue and slot matters. -/
theorem SlotHeadAt.congr (h : SlotHeadAt d x) (hq : queueOf d' x = queueOf d x)
    (hs : slotOf d' x = slotOf d x) : SlotHeadAt d' x := by
  intro hx
  rw [hs] at hx ⊢
  rw [hq]
  exact h hx

theorem SlotHead.congr (h : SlotHead d) (hq : ∀ x, queueOf d' x = queueOf d x)
    (hs : ∀ x, slotOf d' x = slotOf d x) : SlotHead d' :=
  fun x => SlotHeadAt.congr (h x) (hq x) (hs x)

/-- Removing the head leaves the slot empty, as the slot names no other request. -/
theorem SlotHeadAt.remove {p : Posted} {rest : List Posted} (h : SlotHeadAt d c)
    (hq : queueOf d c = p :: rest)
    (hss : ∀ x, slotOf d' x = if x = c ∧ slotOf d c = p.id then "" else slotOf d x) :
    slotOf d' c = "" := by
  rw [hss c]
  split
  · rfl
  · rename_i hne
    by_contra hs
    obtain ⟨p', rest', hq', hid⟩ := h hs
    rw [hq] at hq'
    cases hq'
    exact hne ⟨rfl, hid.symm⟩

/-- The same, seen by any client. -/
theorem SlotHeadAt.removed {p : Posted} {rest : List Posted} (h : SlotHeadAt d x)
    (hq : queueOf d c = p :: rest)
    (hqs : ∀ x, queueOf d' x = if x = c then rest else queueOf d x)
    (hss : ∀ x, slotOf d' x = if x = c ∧ slotOf d c = p.id then "" else slotOf d x) :
    SlotHeadAt d' x := by
  by_cases hxc : x = c
  · subst hxc
    intro hx
    exact absurd (h.remove hq hss) hx
  · refine h.congr ?_ ?_
    · rw [hqs x, if_neg hxc]
    · rw [hss x, if_neg (fun hc => hxc hc.1)]

theorem SlotHeadAt.change (h : SlotHeadAt d x) (hc : Change c d d') : SlotHeadAt d' x := by
  cases hc with
  | same hq hs _ => exact h.congr (hq x) (hs x)
  | mark p hp hq hs _ =>
      intro hx
      rw [hs x] at hx ⊢
      rw [hq x]
      split
      · rename_i hm
        obtain ⟨rest, hrest⟩ : ∃ rest, queueOf d c = p :: rest := by
          cases hqc : queueOf d c with
          | nil => rw [hqc] at hp; exact absurd hp (by simp)
          | cons y ys => rw [hqc] at hp; cases hp; exact ⟨ys, rfl⟩
        rw [hm.1]
        exact ⟨p, rest, hrest, rfl⟩
      · rename_i hm
        rw [if_neg hm] at hx
        exact h hx
  | cancel p rest _ hq hqs hss _ => exact h.removed hq hqs hss

/-- **A pump iteration keeps filled slots at the head.** -/
theorem SlotHead.changes (h : SlotHead d) (hc : Relation.ReflTransGen (Change c) d d') :
    SlotHead d' := by
  induction hc with
  | refl => exact h
  | tail _ hlast ih => exact fun x => SlotHeadAt.change (ih x) hlast

theorem SlotHeadAt.completeRequest (h : SlotHeadAt d x) (c rid : String) :
    SlotHeadAt (d.completeRequest c rid) x := by
  rcases completeRequest_cases d c rid with hsame | ⟨p, rest, _, hc⟩
  · rw [hsame]; exact h
  · exact h.removed hc.head hc.queues hc.slots

theorem SlotHead.completeRequest (h : SlotHead d) (c rid : String) :
    SlotHead (d.completeRequest c rid) :=
  fun x => SlotHeadAt.completeRequest (h x) c rid

/-- Appending to a queue leaves its head alone, unless there was none. -/
theorem SlotHead.append {l : List Posted} (h : SlotHead d)
    (hq : ∀ x, queueOf d' x = if x = c then queueOf d c ++ l else queueOf d x)
    (hs : ∀ x, slotOf d' x = slotOf d x) : SlotHead d' := by
  intro x hx
  rw [hs x] at hx ⊢
  obtain ⟨p, rest, hp, hid⟩ := h x hx
  by_cases hxc : x = c
  · subst hxc
    exact ⟨p, rest ++ l, by rw [hq x, if_pos rfl, hp]; rfl, hid⟩
  · exact ⟨p, rest, by rw [hq x, if_neg hxc, hp], hid⟩

theorem SlotHead.clear (h : SlotHead d) (hq : ∀ x, x ≠ c → queueOf d' x = queueOf d x)
    (hs : ∀ x, slotOf d' x = if x = c then "" else slotOf d x) : SlotHead d' := by
  intro x hx
  by_cases hxc : x = c
  · rw [hs x, if_pos hxc] at hx
    exact absurd rfl hx
  · rw [hs x, if_neg hxc] at hx ⊢
    rw [hq x hxc]
    exact h x hx

end

end OcppGo.Proof
