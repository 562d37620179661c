import ChannelMux.Http.Traffic
import Mathlib.Data.List.Nodup

/-! The address table of a request channel: lookups, and what starting, feeding, cancelling and
retiring do to its entries. -/

namespace ChannelMux.Http

/-- What the table's invariants read of an exchange: its serial, address and silencing flag. -/
def Exchange.tag (x : Exchange) : Nat × Int × Bool := (x.serial, x.addr, x.silenced)

namespace RequestLine

variable (l : RequestLine)

theorem find?_spec {a : Int} {x : Exchange} (h : l.find? a = some x) :
    x ∈ l.pending ∧ x.addr = a := by
  unfold find? at h
  exact ⟨List.mem_of_find?_eq_some h, by simpa using List.find?_some h⟩

theorem find?_eq_none {a : Int} : l.find? a = none ↔ ∀ x ∈ l.pending, x.addr ≠ a := by
  simp [find?]

theorem find?_addr_of_mem {xs : List Exchange} (nodup : (xs.map (·.addr)).Nodup) {x : Exchange}
    (hx : x ∈ xs) : xs.find? (·.addr == x.addr) = some x := by
  induction xs with
  | nil => simp at hx
  | cons y ys ih =>
    simp only [List.map_cons, List.nodup_cons] at nodup
    rcases List.mem_cons.mp hx with rfl | hy
    · simp
    · have other : y.addr ≠ x.addr := fun same => nodup.1 (same ▸ List.mem_map_of_mem hy)
      simp [other, ih nodup.2 hy]

theorem find?_of_mem (nodup : (l.pending.map (·.addr)).Nodup) {x : Exchange}
    (hx : x ∈ l.pending) : l.find? x.addr = some x :=
  find?_addr_of_mem nodup hx

theorem eq_of_addr_eq (nodup : (l.pending.map (·.addr)).Nodup) {x y : Exchange}
    (hx : x ∈ l.pending) (hy : y ∈ l.pending) (same : x.addr = y.addr) : x = y :=
  List.inj_on_of_nodup_map nodup hx hy same

theorem prepare_fields {s : Nat} {a : Int} {r : Outgoing} {x : Exchange}
    (h : l.prepare s a r = .ok x) : x.serial = s ∧ x.addr = a ∧ x.silenced = false := by
  unfold prepare at h
  cases parsed : Net.WebUrl.parse (l.options.base ++ r.path) <;>
    simp only [parsed, bind, Except.bind, pure, Except.pure, throw, throwThe, MonadExceptOf.throw,
      Except.ok.injEq, reduceCtorEq] at h
  subst h
  exact ⟨rfl, rfl, rfl⟩

theorem start_of_busy {s : Nat} {a : Int} {r : Outgoing} (busy : (l.find? a).isSome) :
    l.start s a r = .error (Failure.invalidState
      ("request on address " ++ toString a ++ " is already in progress")) := by
  simp [start, busy, throw, throwThe, MonadExceptOf.throw, bind, Except.bind]

theorem start_of_idle {s : Nat} {a : Int} {r : Outgoing} (idle : l.find? a = none) :
    l.start s a r = (l.prepare s a r).map fun x => { l with pending := l.pending ++ [x] } := by
  simp only [start, idle, Option.isSome_none, Bool.false_eq_true, if_false]
  cases l.prepare s a r <;> rfl

theorem start_ok {s : Nat} {a : Int} {r : Outgoing} {l' : RequestLine}
    (h : l.start s a r = .ok l') :
    l.find? a = none ∧
      ∃ x, l.prepare s a r = .ok x ∧ l' = { l with pending := l.pending ++ [x] } := by
  cases idle : l.find? a with
  | some x =>
    rw [start_of_busy l (by simp [idle])] at h
    cases h
  | none =>
    rw [start_of_idle l idle] at h
    cases prepared : l.prepare s a r with
    | error e => rw [prepared] at h; cases h
    | ok x =>
      rw [prepared] at h
      cases h
      exact ⟨rfl, x, rfl, rfl⟩

theorem cancel_pending (a : Int) : (l.cancel a).pending = l.pending.filter (·.addr != a) := by
  unfold cancel
  split
  · rfl
  · rename_i none
    symm
    simpa using (l.find?_eq_none).mp none

theorem find?_cancel (a : Int) : (l.cancel a).find? a = none := by
  simp [find?_eq_none, cancel_pending]

theorem cancel_options (a : Int) : (l.cancel a).options = l.options := by
  unfold cancel
  split <;> rfl

theorem retire_pending (s : Nat) : (l.retire s).1.pending = l.pending.filter (·.serial != s) := rfl

theorem update_tags (nodup : (l.pending.map (·.addr)).Nodup) {x : Exchange} (hx : x ∈ l.pending)
    (f : Option Int) :
    (l.update { x with feed := f }).pending.map Exchange.tag = l.pending.map Exchange.tag := by
  simp only [update, List.map_map]
  apply List.map_congr_left
  intro y hy
  by_cases same : y.addr = x.addr
  · have := l.eq_of_addr_eq nodup hy hx same
    subst this
    simp [Exchange.tag]
  · simp [same]

theorem feed_tags (nodup : (l.pending.map (·.addr)).Nodup) {x : Exchange} (hx : x ∈ l.pending)
    {size : Nat} {l' : RequestLine} (h : l.feed x size = .ok l') :
    l'.pending.map Exchange.tag = l.pending.map Exchange.tag ∧ l'.options = l.options := by
  unfold feed at h
  split at h
  · cases h
  · split at h
    · cases h
      split
      · exact ⟨l.update_tags nodup hx none, rfl⟩
      · exact ⟨rfl, rfl⟩
    · split at h
      · cases h
      · cases h
        exact ⟨l.update_tags nodup hx _, rfl⟩

end RequestLine

end ChannelMux.Http
