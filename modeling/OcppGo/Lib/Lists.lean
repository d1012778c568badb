import Mathlib.Data.List.Infix
import Mathlib.Data.List.Nodup
import Mathlib.Order.Lattice

/-!
# Lists that grow at the end and shrink at the front

Logs get one more element at the end, and queues lose elements at the front. The
last section keeps an association list sorted by its keys, one entry for each.
-/

namespace OcppGo.Lib

variable {α : Type*} {l m : List α} {x y : α}

/-- A lookup in a list with one more element at the end. -/
theorem getElem?_snoc {t : Nat}
    (h : (l ++ [x])[t]? = some y) : l[t]? = some y ∨ t = l.length ∧ y = x := by
  rcases Nat.lt_or_ge t l.length with hlt | hge
  · rw [List.getElem?_append_left hlt] at h
    exact Or.inl h
  · obtain ⟨hlen, _⟩ := List.getElem?_eq_some_iff.mp h
    simp only [List.length_append, List.length_singleton] at hlen
    have htl : t = l.length := by omega
    subst htl
    rw [List.getElem?_append_right (Nat.le_refl _), Nat.sub_self] at h
    exact Or.inr ⟨rfl, (Option.some.inj h).symm⟩

theorem getElem?_snoc_left {t : Nat} (h : l[t]? = some y) : (l ++ [x])[t]? = some y :=
  (List.getElem?_append_left (List.getElem?_eq_some_iff.mp h).1).trans h

/-- A lookup in a list with one element replaced. -/
theorem getElem?_replaced {t u : Nat} (h : (l.set t x)[u]? = some y) :
    u = t ∧ y = x ∨ u ≠ t ∧ l[u]? = some y := by
  by_cases hut : u = t
  · subst hut
    obtain ⟨hlen, _⟩ := List.getElem?_eq_some_iff.mp h
    rw [List.getElem?_set_self (by rwa [List.length_set] at hlen)] at h
    exact Or.inl ⟨rfl, (Option.some.inj h).symm⟩
  · rw [List.getElem?_set_ne (fun e => hut e.symm)] at h
    exact Or.inr ⟨hut, h⟩

/-- A lookup in a list with one element replaced, and more at the end. -/
theorem getElem?_moved {t u : Nat} (h : (l.set t x ++ m)[u]? = some y) :
    u ≠ t ∧ l[u]? = some y ∨ u = t ∧ y = x ∨ y ∈ m := by
  rcases Nat.lt_or_ge u (l.set t x).length with hlt | hge
  · rw [List.getElem?_append_left hlt] at h
    rcases getElem?_replaced h with hself | hother
    · exact Or.inr (Or.inl hself)
    · exact Or.inl hother
  · rw [List.getElem?_append_right hge] at h
    exact Or.inr (Or.inr (List.mem_of_getElem? h))

theorem getElem?_unmoved {t u : Nat} (hu : u ≠ t) (h : l[u]? = some y) :
    (l.set t x ++ m)[u]? = some y := by
  have hlt := (List.getElem?_eq_some_iff.mp h).1
  rw [List.getElem?_append_left (by rw [List.length_set]; exact hlt),
    List.getElem?_set_ne (Ne.symm hu), h]

/-- A count over a list with one element replaced. -/
theorem countP_replaced (p : α → Bool) {t : Nat} (h : l[t]? = some x) (y : α) :
    (l.set t y).countP p + (if p x then 1 else 0) = l.countP p + (if p y then 1 else 0) := by
  induction l generalizing t with
  | nil => exact absurd h (by simp)
  | cons z l ih =>
      cases t with
      | zero =>
          cases h
          simp only [List.set_cons_zero, List.countP_cons]
          omega
      | succ t =>
          have htail := ih h
          simp only [List.set_cons_succ, List.countP_cons]
          omega

/-- What a filter keeps of a list with one element replaced. -/
theorem filterMap_replaced {β : Type*} (f : α → Option β) {t : Nat} (h : l[t]? = some x) (y : α) :
    ((l.set t y).filterMap f ++ (f x).toList).Perm (l.filterMap f ++ (f y).toList) := by
  induction l generalizing t with
  | nil => exact absurd h (by simp)
  | cons z l ih =>
      cases t with
      | zero =>
          cases h
          have hcons : ∀ w, (w :: l).filterMap f = (f w).toList ++ l.filterMap f := by
            intro w
            cases hw : f w <;> simp [hw]
          rw [List.set_cons_zero, hcons, hcons]
          refine List.perm_append_comm.trans ?_
          rw [List.append_assoc]
          exact List.perm_append_comm.append_left _
      | succ t =>
          have htail := ih (t := t) (by simpa using h)
          rw [List.set_cons_succ]
          cases hz : f z with
          | none => simpa [hz] using htail
          | some b => simpa [hz] using htail

/-- A filter keeps the same of two lists that differ only where it keeps nothing. -/
theorem filterMap_eq_of_lookup {β : Type*} {f : α → Option β}
    (h : ∀ t : Nat, l[t]?.bind f = m[t]?.bind f) : l.filterMap f = m.filterMap f := by
  induction l generalizing m with
  | nil =>
      refine (List.filterMap_eq_nil_iff.mpr fun z hz => ?_).symm
      obtain ⟨t, ht⟩ := List.mem_iff_getElem?.mp hz
      simpa [ht] using (h t).symm
  | cons z l ih =>
      cases m with
      | nil =>
          refine List.filterMap_eq_nil_iff.mpr fun w hw => ?_
          obtain ⟨t, ht⟩ := List.mem_iff_getElem?.mp hw
          simpa [ht] using h t
      | cons w m =>
          have hhead : f z = f w := by simpa using h 0
          have htail := ih (m := m) fun t => by simpa using h (t + 1)
          rw [List.filterMap_cons, List.filterMap_cons, hhead, htail]

/-- An element of a kind stays in a list when what it is replaced by is of that kind. -/
theorem any_set {p : α → Bool} {t : Nat} (h : l.any p = true) (ht : l[t]? = some x)
    (hp : p x = true → p y = true) : (l.set t y).any p = true := by
  rw [List.any_eq_true] at h ⊢
  obtain ⟨z, hz, hpz⟩ := h
  obtain ⟨u, hu⟩ := List.mem_iff_getElem?.mp hz
  by_cases hut : u = t
  · subst hut
    cases Option.some.inj (ht.symm.trans hu)
    exact ⟨y, List.mem_set (List.getElem?_eq_some_iff.mp ht).1 y, hp hpz⟩
  · exact ⟨z, List.mem_of_getElem? ((List.getElem?_set_ne (Ne.symm hut)).trans hu), hpz⟩

theorem any_of_set {p : α → Bool} {t : Nat} (h : (l.set t y).any p = true) :
    l.any p = true ∨ p y = true := by
  rw [List.any_eq_true] at h
  obtain ⟨z, hz, hpz⟩ := h
  rcases List.mem_or_eq_of_mem_set hz with hz | rfl
  · exact Or.inl (List.any_eq_true.mpr ⟨z, hz, hpz⟩)
  · exact Or.inr hpz

/-- With at most one element of a kind in a list, its position is determined. -/
theorem position_unique {p : α → Bool} (h : l.countP p ≤ 1) {i j : Nat} (hi : l[i]? = some x)
    (hj : l[j]? = some y) (hx : p x = true) (hy : p y = true) : i = j := by
  induction l generalizing i j with
  | nil => simp at hi
  | cons z zs ih =>
      -- an element of the kind further on leaves no room for one at the front
      have hrest : ∀ {n : Nat} {w : α}, zs[n]? = some w → p w = true → p z = false := by
        intro n w hw hpw
        have hpos : 0 < zs.countP p := List.countP_pos_iff.mpr ⟨w, List.mem_of_getElem? hw, hpw⟩
        by_contra hz
        rw [List.countP_cons_of_pos (by simpa using hz)] at h
        omega
      cases i with
      | zero =>
          cases j with
          | zero => rfl
          | succ j =>
              cases Option.some.inj hi
              exact absurd hx (by simp [hrest hj hy])
      | succ i =>
          cases j with
          | zero =>
              cases Option.some.inj hj
              exact absurd hy (by simp [hrest hi hx])
          | succ j =>
              have hle : zs.countP p ≤ 1 :=
                Nat.le_trans (List.sublist_cons_self z zs).countP_le h
              rw [ih hle hi hj]

/-- A list that goes on with `x` where a prefix ends has the longer prefix. -/
theorem prefix_snoc (h : l <+: m)
    (hx : m[l.length]? = some x) : l ++ [x] <+: m := by
  obtain ⟨r, rfl⟩ := h
  rw [List.getElem?_append_right (Nat.le_refl _), Nat.sub_self] at hx
  cases r with
  | nil => exact absurd hx (by simp)
  | cons y ys =>
      cases hx
      exact ⟨ys, by simp⟩

/-- One more element at the end, with a key of its own. -/
theorem nodup_map_snoc {β : Type*} {f : α → β} (h : (l.map f).Nodup) (hx : f x ∉ l.map f) :
    ((l ++ [x]).map f).Nodup := by
  rw [List.map_append, List.map_singleton, ← List.concat_eq_append]
  exact List.Nodup.concat hx h

/-! ## Association lists sorted by key -/

section

variable {κ β : Type*} [LinearOrder κ]

/-- Put an entry where its key belongs, in place of an earlier one with that key. -/
def insertKey (k : κ) (v : β) : List (κ × β) → List (κ × β)
  | [] => [(k, v)]
  | e :: es =>
      if k < e.1 then (k, v) :: e :: es
      else if e.1 < k then e :: insertKey k v es
      else (k, v) :: es

/-- The entries sorted by key; the last one with a key wins. -/
def sortKeys (es : List (κ × β)) : List (κ × β) :=
  es.foldl (fun sorted e => insertKey e.1 e.2 sorted) []

theorem insertKey_last {k : κ} {v : β} {es : List (κ × β)} (h : ∀ e ∈ es, e.1 < k) :
    insertKey k v es = es ++ [(k, v)] := by
  induction es with
  | nil => rfl
  | cons e es ih =>
      have hlt : e.1 < k := h e List.mem_cons_self
      rw [insertKey, if_neg (not_lt_of_gt hlt), if_pos hlt,
        ih (fun e' he' => h e' (List.mem_cons_of_mem e he'))]
      rfl

/-- Entries that are in order stay as they are. -/
theorem sortKeys_of_sorted {es : List (κ × β)} (h : es.Pairwise fun a b => a.1 < b.1) :
    sortKeys es = es := by
  -- on the entries still to be inserted, the others being smaller
  have hfold : ∀ es sorted : List (κ × β), (sorted ++ es).Pairwise (fun a b => a.1 < b.1) →
      es.foldl (fun sorted e => insertKey e.1 e.2 sorted) sorted = sorted ++ es := by
    intro es
    induction es with
    | nil => intro sorted _; simp
    | cons e es ih =>
        intro sorted hp
        have hlast : ∀ e' ∈ sorted, e'.1 < e.1 := fun e' he' =>
          (List.pairwise_append.mp hp).2.2 e' he' e List.mem_cons_self
        rw [List.foldl_cons, insertKey_last hlast]
        rw [List.append_cons] at hp
        rw [ih _ hp, List.append_assoc]
        rfl
  exact hfold es [] h

end

end OcppGo.Lib
