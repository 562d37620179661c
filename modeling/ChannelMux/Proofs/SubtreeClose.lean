import ChannelMux.World.Closing
import ChannelMux.Proofs.ActEffects

/-! What closing a channel with its subtree does. -/

namespace ChannelMux

namespace Closer

variable {σ : Type} (k : Closer σ)

/-- The moves of a close behave as a channel's. -/
structure Lawful : Prop where
  children_begin : ∀ s id x, k.children (k.beginClose s id) x = k.children s x
  children_onClose : ∀ s id x, k.children (k.onClose s id).1 x = k.children s x
  children_finish : ∀ s id x, k.children (k.finishClose s id) x = k.children s x
  closed_begin : ∀ s id x, k.isClosed s id = false →
    k.isClosed (k.beginClose s id) x = k.isClosed s x
  closed_onClose : ∀ s id x, k.isClosed (k.onClose s id).1 x = k.isClosed s x
  closed_finish : ∀ s id x, k.isClosed (k.finishClose s id) x = (x == id || k.isClosed s x)

/-- The channels a close of `x` reaches in `s`: `x` when it is not closed, and from a channel it
reaches, each child that is not closed. -/
inductive Reaches (s : σ) : ChannelId → ChannelId → Prop
  | self {x : ChannelId} : k.isClosed s x = false → Reaches s x x
  | child {x y z : ChannelId} : k.isClosed s x = false → y ∈ k.children s x → Reaches s y z →
      Reaches s x z

variable {k}

/-! ### Unfolding a close -/

theorem closeEach_zero (ids : List ChannelId) (s : σ) : k.closeEach 0 ids s = ⟨s, [], none⟩ := by
  rw [closeEach]

theorem closeEach_nil (fuel : Nat) (s : σ) : k.closeEach fuel [] s = ⟨s, [], none⟩ := by
  cases fuel <;> rw [closeEach]

theorem closeEach_cons_of_closed {id : ChannelId} (h : k.isClosed s id = true) (fuel : Nat)
    (rest : List ChannelId) : k.closeEach (fuel + 1) (id :: rest) s = k.closeEach (fuel + 1) rest s := by
  rw [closeEach]
  simp [h]

theorem closeEach_cons_of_open {id : ChannelId} (h : k.isClosed s id = false) (fuel : Nat)
    (rest : List ChannelId) :
    k.closeEach (fuel + 1) (id :: rest) s =
      let started := k.beginClose s id
      let inner := k.closeEach fuel (k.children started id) started
      let down := k.onClose inner.world id
      let later := k.closeEach (fuel + 1) rest (k.finishClose down.1 id)
      ⟨later.world, .begin id :: inner.calls ++ [.onClose id down.2, .finish id] ++ later.calls,
        (inner.failure <|> down.2) <|> later.failure⟩ := by
  rw [closeEach]
  simp [h]

/-- The world at the end of the close of `id` from `s`, its children closed with `fuel`. -/
def afterOne (k : Closer σ) (fuel : Nat) (s : σ) (id : ChannelId) : σ :=
  k.finishClose (k.onClose (k.closeEach fuel (k.children (k.beginClose s id) id)
    (k.beginClose s id)).world id).1 id

/-! ### Worlds a close passes through -/

/-- `s'` has the children of `s`, and every channel closed in `s` is closed in `s'`. -/
structure Grows (s s' : σ) : Prop where
  children : ∀ x, k.children s' x = k.children s x
  closed : ∀ x, k.isClosed s x = true → k.isClosed s' x = true

namespace Grows

theorem refl (s : σ) : Grows (k := k) s s := ⟨fun _ => rfl, fun _ h => h⟩

theorem trans {s s' s'' : σ} (h₁ : Grows (k := k) s s') (h₂ : Grows (k := k) s' s'') :
    Grows (k := k) s s'' :=
  ⟨fun x => (h₂.children x).trans (h₁.children x), fun x h => h₂.closed x (h₁.closed x h)⟩

end Grows

section Moves

variable (hk : k.Lawful) (s : σ) (id : ChannelId)
include hk

theorem grows_begin (h : k.isClosed s id = false) : Grows (k := k) s (k.beginClose s id) :=
  ⟨hk.children_begin s id, fun x hx => by rw [hk.closed_begin s id x h]; exact hx⟩

theorem grows_onClose : Grows (k := k) s (k.onClose s id).1 :=
  ⟨hk.children_onClose s id, fun x hx => by rw [hk.closed_onClose]; exact hx⟩

theorem grows_finish : Grows (k := k) s (k.finishClose s id) :=
  ⟨hk.children_finish s id, fun x hx => by simp [hk.closed_finish, hx]⟩

end Moves

/-! ### What a close reaches -/

namespace Reaches

variable {s : σ} {x y z : ChannelId}

theorem open_start (h : Reaches k s x z) : k.isClosed s x = false := by
  cases h with
  | self hx => exact hx
  | child hx _ _ => exact hx

theorem open_end (h : Reaches k s x z) : k.isClosed s z = false := by
  induction h with
  | self hx => exact hx
  | child _ _ _ ih => exact ih

theorem trans (h₁ : Reaches k s x y) (h₂ : Reaches k s y z) : Reaches k s x z := by
  induction h₁ with
  | self _ => exact h₂
  | child hx hy _ ih => exact .child hx hy (ih h₂)

theorem of_grows {s' : σ} (hg : Grows (k := k) s s') (h : Reaches k s' x z) : Reaches k s x z := by
  have opened : ∀ y, k.isClosed s' y = false → k.isClosed s y = false := fun y hy => by
    cases hs : k.isClosed s y
    · rfl
    · rw [hg.closed y hs] at hy
      cases hy
  induction h with
  | self hx => exact .self (opened _ hx)
  | child hx hy _ ih => exact .child (opened _ hx) (hg.children _ ▸ hy) ih

theorem begin_iff (hk : k.Lawful) {id : ChannelId} (hid : k.isClosed s id = false) :
    Reaches k (k.beginClose s id) x z ↔ Reaches k s x z := by
  constructor
  · exact of_grows (grows_begin hk s id hid)
  · intro h
    induction h with
    | self hx => exact .self (by rw [hk.closed_begin s id _ hid]; exact hx)
    | child hx hy _ ih =>
      exact .child (by rw [hk.closed_begin s id _ hid]; exact hx) (by rw [hk.children_begin]; exact hy) ih

theorem split {s' : σ} (hg : Grows (k := k) s s') (h : Reaches k s x z) :
    Reaches k s' x z ∨ ∃ c, Reaches k s x c ∧ k.isClosed s' c = true ∧ Reaches k s c z := by
  induction h with
  | @self x hx =>
    cases hc : k.isClosed s' x
    · exact .inl (.self hc)
    · exact .inr ⟨x, .self hx, hc, .self hx⟩
  | @child x y z hx hy hz ih =>
    cases hc : k.isClosed s' x
    · rcases ih with h' | ⟨c, hyc, hcc, hcz⟩
      · exact .inl (.child hc (by rw [hg.children]; exact hy) h')
      · exact .inr ⟨c, .child hx hy hyc, hcc, hcz⟩
    · exact .inr ⟨x, .self hx, hc, .child hx hy hz⟩

end Reaches

/-! ### Which channels end up closed -/

theorem isClosed_closeEach (hk : k.Lawful) (fuel : Nat) (ids : List ChannelId) (s : σ)
    (x : ChannelId) :
    k.isClosed (k.closeEach fuel ids s).world x =
      (k.isClosed s x || decide (.finish x ∈ (k.closeEach fuel ids s).calls)) := by
  induction fuel generalizing ids s with
  | zero => simp [closeEach_zero]
  | succ fuel ihf =>
    induction ids generalizing s with
    | nil => simp [closeEach_nil]
    | cons id rest ihl =>
      cases h : k.isClosed s id
      · rw [closeEach_cons_of_open h]
        dsimp only
        rw [ihl, hk.closed_finish, hk.closed_onClose, ihf, hk.closed_begin _ _ _ h]
        apply Bool.eq_iff_iff.mpr
        simp only [Bool.or_eq_true, beq_iff_eq, decide_eq_true_eq, List.mem_append, List.mem_cons,
          List.not_mem_nil, reduceCtorEq, CloseCall.finish.injEq, false_or, or_false, or_assoc,
          or_left_comm]
      · rw [closeEach_cons_of_closed h]
        exact ihl s

theorem grows_closeEach (hk : k.Lawful) (fuel : Nat) (ids : List ChannelId) (s : σ) :
    Grows (k := k) s (k.closeEach fuel ids s).world := by
  induction fuel generalizing ids s with
  | zero => rw [closeEach_zero]; exact .refl s
  | succ fuel ihf =>
    induction ids generalizing s with
    | nil => rw [closeEach_nil]; exact .refl s
    | cons id rest ihl =>
      cases h : k.isClosed s id
      · rw [closeEach_cons_of_open h]
        exact (grows_begin hk s id h).trans (ihf _ _) |>.trans (grows_onClose hk _ id)
          |>.trans (grows_finish hk _ id) |>.trans (ihl _)
      · rw [closeEach_cons_of_closed h]
        exact ihl s

theorem grows_closeOne (hk : k.Lawful) (fuel : Nat) {s : σ} {id : ChannelId}
    (h : k.isClosed s id = false) :
    Grows (k := k) s (k.afterOne fuel s id) :=
  (grows_begin hk s id h).trans (grows_closeEach hk _ _ _) |>.trans (grows_onClose hk _ id)
    |>.trans (grows_finish hk _ id)

theorem reaches_of_call (hk : k.Lawful) (fuel : Nat) (ids : List ChannelId) (s : σ) :
    ∀ c ∈ (k.closeEach fuel ids s).calls, ∃ id ∈ ids, Reaches k s id c.id := by
  induction fuel generalizing ids s with
  | zero => simp [closeEach_zero]
  | succ fuel ihf =>
    induction ids generalizing s with
    | nil => simp [closeEach_nil]
    | cons id rest ihl =>
      cases h : k.isClosed s id
      · rw [closeEach_cons_of_open h]
        intro c hc
        simp only [List.cons_append, List.mem_cons, List.mem_append, List.not_mem_nil, or_false,
          or_assoc] at hc
        rcases hc with rfl | inner | rfl | rfl | later
        · exact ⟨id, List.mem_cons_self, .self h⟩
        · -- a call of the children's closes: through a child of `id`
          obtain ⟨y, hy, hr⟩ := ihf _ _ c inner
          rw [hk.children_begin] at hy
          exact ⟨id, List.mem_cons_self, .child h hy ((Reaches.begin_iff hk h).mp hr)⟩
        · exact ⟨id, List.mem_cons_self, .self h⟩
        · exact ⟨id, List.mem_cons_self, .self h⟩
        · -- a call of the later closes: from a world grown from `s`
          obtain ⟨id', hid', hr⟩ := ihl _ c later
          exact ⟨id', List.mem_cons_of_mem id hid', hr.of_grows (grows_closeOne hk fuel h)⟩
      · rw [closeEach_cons_of_closed h]
        intro c hc
        obtain ⟨id', hid', hr⟩ := ihl s c hc
        exact ⟨id', List.mem_cons_of_mem id hid', hr⟩

theorem isClosed_closeOne (hk : k.Lawful) (fuel : Nat) {s : σ} {id y : ChannelId}
    (h : k.isClosed s id = false) :
    k.isClosed (k.afterOne fuel s id) y = true ↔
      y = id ∨ k.isClosed s y = true ∨
        .finish y ∈ (k.closeEach fuel (k.children (k.beginClose s id) id) (k.beginClose s id)).calls := by
  rw [afterOne, hk.closed_finish, hk.closed_onClose, isClosed_closeEach hk, hk.closed_begin _ _ _ h]
  simp

theorem reaches_of_closeOne (hk : k.Lawful) (fuel : Nat) {s : σ} {id c : ChannelId}
    (h : k.isClosed s id = false) (hc : k.isClosed s c = false)
    (hc' : k.isClosed (k.afterOne fuel s id) c = true) :
    Reaches k s id c := by
  rcases (isClosed_closeOne hk fuel h).mp hc' with rfl | closed | finished
  · exact .self h
  · rw [hc] at closed
    cases closed
  · -- the children's close ended the close of `c`, so it reached `c` through a child
    obtain ⟨y, hy, hr⟩ := reaches_of_call hk _ _ _ _ finished
    rw [hk.children_begin] at hy
    exact .child h hy ((Reaches.begin_iff hk h).mp hr)

theorem rank_children (hk : k.Lawful) {rank : ChannelId → Nat} {fuel : Nat} {s : σ}
    {id : ChannelId} (hrank : ∀ z y, y ∈ k.children s z → rank y < rank z)
    (hfuel : rank id < fuel + 1) :
    (∀ z y, y ∈ k.children (k.beginClose s id) z → rank y < rank z) ∧
      ∀ c ∈ k.children (k.beginClose s id) id, rank c < fuel := by
  have hrank' : ∀ z y, y ∈ k.children (k.beginClose s id) z → rank y < rank z :=
    fun z y hy => hrank z y (by rwa [hk.children_begin] at hy)
  refine ⟨hrank', fun c hc => ?_⟩
  have := hrank' id c hc
  omega

theorem closed_of_reaches (hk : k.Lawful) {rank : ChannelId → Nat} (fuel : Nat)
    (ids : List ChannelId) (s : σ) (hrank : ∀ z y, y ∈ k.children s z → rank y < rank z)
    (hfuel : ∀ id ∈ ids, rank id < fuel) :
    ∀ id ∈ ids, ∀ y, Reaches k s id y → k.isClosed (k.closeEach fuel ids s).world y = true := by
  induction fuel generalizing ids s with
  | zero => exact fun id hid => absurd (hfuel id hid) (Nat.not_lt_zero _)
  | succ fuel ihf =>
    induction ids generalizing s with
    | nil => exact fun id hid => by cases hid
    | cons id rest ihl =>
      cases h : k.isClosed s id
      · rw [closeEach_cons_of_open h]
        dsimp only
        have hg := grows_closeOne hk fuel h
        -- every channel the first close reaches is closed by the end of that close
        have first : ∀ y, Reaches k s id y → k.isClosed (k.afterOne fuel s id) y = true := by
          intro y hy
          cases hy with
          | self _ => simp [afterOne, hk.closed_finish]
          | child _ hc hr =>
            obtain ⟨hrank', hfuel'⟩ := rank_children hk hrank (hfuel id List.mem_cons_self)
            have closed := ihf _ _ hrank' hfuel' _ (by rw [hk.children_begin]; exact hc) y
              ((Reaches.begin_iff hk h).mpr hr)
            exact ((grows_onClose hk _ id).trans (grows_finish hk _ id)).closed y closed
        intro x hx y hy
        rcases List.mem_cons.mp hx with rfl | hx
        · exact (grows_closeEach hk _ _ _).closed y (first y hy)
        · rcases hy.split hg with h' | ⟨c, hxc, hcc, hcy⟩
          · exact ihl _ (fun z y hy => hrank z y (hg.children z ▸ hy))
              (fun id' h' => hfuel id' (List.mem_cons_of_mem id h')) x hx y h'
          · -- the path runs through a channel the first close closed, so the first reached it
            have reached := reaches_of_closeOne hk fuel h hxc.open_end hcc
            exact (grows_closeEach hk _ _ _).closed y (first y (reached.trans hcy))
      · rw [closeEach_cons_of_closed h]
        intro x hx y hy
        rcases List.mem_cons.mp hx with rfl | hx
        · rw [hy.open_start] at h
          cases h
        · exact ihl s hrank (fun id' h' => hfuel id' (List.mem_cons_of_mem _ h')) x hx y hy

/-! ### The order of the calls -/

/-- Each call satisfies `Q` given the calls made before it. -/
def EachAfter (Q : List CloseCall → CloseCall → Prop) (calls : List CloseCall) : Prop :=
  ∀ l₁ c l₂, calls = l₁ ++ c :: l₂ → Q l₁ c

namespace EachAfter

variable {Q Q' : List CloseCall → CloseCall → Prop}

theorem nil : EachAfter Q [] := fun l₁ _ _ h => by cases l₁ <;> cases h

theorem cons {c : CloseCall} {calls : List CloseCall} (hc : Q [] c)
    (h : EachAfter (fun l => Q (c :: l)) calls) : EachAfter Q (c :: calls) := by
  intro l₁ c' l₂ hl
  cases l₁ with
  | nil =>
    cases hl
    exact hc
  | cons a l₁ =>
    injection hl with ha hl
    subst ha
    exact h l₁ c' l₂ hl

theorem append {A B : List CloseCall} (hA : EachAfter Q A) (hB : EachAfter (fun l => Q (A ++ l)) B) :
    EachAfter Q (A ++ B) := by
  induction A generalizing Q with
  | nil => exact hB
  | cons a A ih =>
    exact .cons (hA [] a A rfl) (ih (fun l₁ c l₂ h => hA (a :: l₁) c l₂ (by rw [h]; rfl)) hB)

theorem mono (hQ : ∀ l c, Q l c → Q' l c) {calls : List CloseCall} (h : EachAfter Q calls) :
    EachAfter Q' calls :=
  fun l₁ c l₂ hl => hQ l₁ c (h l₁ c l₂ hl)

end EachAfter

/-- The end of a channel's close comes right after its kind's `OnClose`. -/
def EndsAfterOnClose (before : List CloseCall) : CloseCall → Prop
  | .finish y => ∃ l e, before = l ++ [.onClose y e]
  | _ => True

theorem EndsAfterOnClose.after (pre : List CloseCall) {l : List CloseCall} {c : CloseCall}
    (h : EndsAfterOnClose l c) : EndsAfterOnClose (pre ++ l) c := by
  cases c with
  | finish y =>
    obtain ⟨l', e, rfl⟩ := h
    exact ⟨pre ++ l', e, by simp⟩
  | _ => trivial

theorem endsAfterOnClose_closeEach (fuel : Nat) (ids : List ChannelId) (s : σ) :
    EachAfter EndsAfterOnClose (k.closeEach fuel ids s).calls := by
  induction fuel generalizing ids s with
  | zero => rw [closeEach_zero]; exact .nil
  | succ fuel ihf =>
    induction ids generalizing s with
    | nil => rw [closeEach_nil]; exact .nil
    | cons id rest ihl =>
      cases h : k.isClosed s id
      · rw [closeEach_cons_of_open h]
        refine .append (.append (.cons trivial ((ihf _ _).mono fun l c => .after [_])) ?_)
          ((ihl _).mono fun l c => .after _)
        -- the channel's own `OnClose`, then the end of its close right after it
        exact .cons trivial (.cons ⟨_, _, rfl⟩ .nil)
      · rw [closeEach_cons_of_closed h]
        exact ihl s

theorem failure_closeEach (fuel : Nat) (ids : List ChannelId) (s : σ) :
    (k.closeEach fuel ids s).failure = (k.closeEach fuel ids s).calls.findSome? CloseCall.fault := by
  induction fuel generalizing ids s with
  | zero => rw [closeEach_zero]; rfl
  | succ fuel ihf =>
    induction ids generalizing s with
    | nil => rw [closeEach_nil]; rfl
    | cons id rest ihl =>
      cases h : k.isClosed s id
      · rw [closeEach_cons_of_open h]
        dsimp only
        rw [ihf, ihl]
        -- the calls are the start, the children's calls, the own `OnClose` and end, then the rest
        generalize (k.onClose _ id).2 = fault
        cases fault <;> simp [List.findSome?_append, List.findSome?_cons, CloseCall.fault]
      · rw [closeEach_cons_of_closed h]
        exact ihl s

/-- Whenever a channel's kind is asked to take its transport down, each of its children that was
open in `s` has been closed before. -/
def ChildrenFirst (k : Closer σ) (s : σ) (before : List CloseCall) : CloseCall → Prop
  | .onClose z _ => ∀ y ∈ k.children s z, k.isClosed s y = false → .finish y ∈ before
  | _ => True

theorem childrenFirst_closeEach (hk : k.Lawful) {rank : ChannelId → Nat} (fuel : Nat)
    (ids : List ChannelId) (s : σ) (hrank : ∀ z y, y ∈ k.children s z → rank y < rank z)
    (hfuel : ∀ id ∈ ids, rank id < fuel) :
    EachAfter (k.ChildrenFirst s) (k.closeEach fuel ids s).calls := by
  induction fuel generalizing ids s with
  | zero => rw [closeEach_zero]; exact .nil
  | succ fuel ihf =>
    induction ids generalizing s with
    | nil => rw [closeEach_nil]; exact .nil
    | cons id rest ihl =>
      cases h : k.isClosed s id
      · rw [closeEach_cons_of_open h]
        have hg := grows_closeOne hk fuel h
        obtain ⟨hrank', hfuel'⟩ := rank_children hk hrank (hfuel id List.mem_cons_self)
        refine .append (.append (.cons trivial ((ihf _ _ hrank' hfuel').mono fun l c hc => ?_)) ?_)
          ((ihl _ (fun z y hy => hrank z y (hg.children z ▸ hy))
            (fun id' h' => hfuel id' (List.mem_cons_of_mem id h'))).mono fun l c hc => ?_)
        · -- the children's close sees the same children, open as they were
          cases c with
          | onClose z e =>
            intro y hy hyo
            exact List.mem_cons_of_mem _ (hc y (by rw [hk.children_begin]; exact hy)
              (by rw [hk.closed_begin _ _ _ h]; exact hyo))
          | _ => trivial
        · -- by the channel's own `OnClose`, the children's close has closed its open children
          refine .cons (fun y hy hyo => ?_) (.cons trivial .nil)
          have closed := closed_of_reaches hk fuel _ _ hrank' hfuel' y
            (by rw [hk.children_begin]; exact hy) y (.self (by rw [hk.closed_begin _ _ _ h]; exact hyo))
          rw [isClosed_closeEach hk, hk.closed_begin _ _ _ h, hyo] at closed
          simpa using closed
        · -- a channel closed by the first close had its close ended there
          cases c with
          | onClose z e =>
            intro y hy hyo
            cases hF : k.isClosed (k.afterOne fuel s id) y
            · exact List.mem_append_right _ (hc y ((hg.children z).symm ▸ hy) hF)
            · apply List.mem_append_left
              rcases (isClosed_closeOne hk fuel h).mp hF with rfl | closed | finished
              · simp
              · rw [hyo] at closed
                cases closed
              · simp [finished]
          | _ => trivial
      · rw [closeEach_cons_of_closed h]
        exact ihl s hrank (fun id' h' => hfuel id' (List.mem_cons_of_mem _ h'))

/-! ### Closing one channel -/

/-- What closing `x` from `s` did, in `run`. -/
structure ClosesSubtree (s : σ) (x : ChannelId) (run : CloseRun σ) : Prop where
  closed : ∀ y, k.isClosed run.world y = true ↔ k.isClosed s y = true ∨ Reaches k s x y
  touches : ∀ c ∈ run.calls, k.isClosed s c.id = false ∧ Reaches k s x c.id
  childrenFirst : EachAfter (k.ChildrenFirst s) run.calls
  endsAfterOnClose : EachAfter EndsAfterOnClose run.calls
  failure : run.failure = run.calls.findSome? CloseCall.fault

/-- Closing a channel closes its subtree as `ClosesSubtree` says, children before their master, for
every lawful closer within the fuel. -/
theorem close_closes_subtree_post_order (hk : k.Lawful) {rank : ChannelId → Nat} {fuel : Nat}
    {s : σ} {x : ChannelId} (hrank : ∀ z y, y ∈ k.children s z → rank y < rank z)
    (hfuel : rank x < fuel) : k.ClosesSubtree s x (k.closeEach fuel [x] s) where
  closed y := by
    constructor
    · intro hy
      rw [isClosed_closeEach hk, Bool.or_eq_true, decide_eq_true_eq] at hy
      rcases hy with before | finished
      · exact .inl before
      · obtain ⟨id, hid, hr⟩ := reaches_of_call hk _ _ _ _ finished
        rw [List.mem_singleton.mp hid] at hr
        exact .inr hr
    · rintro (before | reached)
      · exact (grows_closeEach hk _ _ _).closed y before
      · exact closed_of_reaches hk fuel [x] s hrank (by simpa using hfuel) x
          List.mem_cons_self y reached
  touches c hc := by
    obtain ⟨id, hid, hr⟩ := reaches_of_call hk _ _ _ c hc
    rw [List.mem_singleton.mp hid] at hr
    exact ⟨hr.open_end, hr⟩
  childrenFirst := childrenFirst_closeEach hk fuel [x] s hrank (by simpa using hfuel)
  endsAfterOnClose := endsAfterOnClose_closeEach fuel [x] s
  failure := failure_closeEach fuel [x] s

end Closer

/-! ### The world of a session -/

namespace World

open Session

/-- How the world of a session closes its channels: the lifecycle moves start and end a close,
and taking a transport down never fails. -/
def closer : Closer World where
  isClosed w id := w.stateOf id == .closed
  children w id := w.childrenOf id
  beginClose w id := w.move id Cycle.beginClose
  onClose w id := (w.takeDown id, none)
  finishClose w id := w.move id Cycle.finishClose

theorem closer_lawful : closer.Lawful where
  children_begin _ _ x := (aside_move Cycle.beginClose).childrenOf x
  children_onClose _ _ x := (views_takeDown x).2.1
  children_finish _ _ x := (aside_move Cycle.finishClose).childrenOf x
  closed_begin w id x h := by
    simp only [closer, beq_eq_false_iff_ne] at h ⊢
    by_cases hx : x = id
    · -- the channel starting its close exists, and is closing
      subst hx
      obtain ⟨c, hc, -⟩ := exists_get?_of_stateOf h
      rw [stateOf_move_self hc, beq_eq_false_iff_ne.mpr h]
      simp
    · rw [stateOf_move_of_ne _ hx]
  closed_onClose w id x := by simp only [closer, stateOf_takeDown]
  closed_finish w id x := by
    simp only [closer]
    by_cases hx : x = id
    · subst hx
      rw [stateOf_move, if_pos rfl]
      cases w.get? x <;> simp
    · simp [stateOf_move_of_ne _ hx, hx]

theorem closeEach_eq_closer (fuel : Nat) (ids : List ChannelId) (w : World) :
    w.closeEach fuel ids = (closer.closeEach fuel ids w).world := by
  induction fuel generalizing ids w with
  | zero => rw [closeEach, Closer.closeEach_zero]
  | succ fuel ihf =>
    induction ids generalizing w with
    | nil => rw [closeEach_nil, Closer.closeEach_nil]
    | cons id rest ihl =>
      rw [closeEach]
      by_cases h : w.stateOf id = .closed
      · rw [if_pos h, Closer.closeEach_cons_of_closed (by simp [closer, h])]
        exact ihl w
      · rw [if_neg h, Closer.closeEach_cons_of_open (by simp [closer, h])]
        dsimp only
        rw [ihl, ihf]
        rfl

theorem closer_failure (fuel : Nat) (ids : List ChannelId) (w : World) :
    (closer.closeEach fuel ids w).failure = none := by
  induction fuel generalizing ids w with
  | zero => rw [Closer.closeEach_zero]
  | succ fuel ihf =>
    induction ids generalizing w with
    | nil => rw [Closer.closeEach_nil]
    | cons id rest ihl =>
      cases h : closer.isClosed w id
      · rw [Closer.closeEach_cons_of_open h]
        dsimp only
        rw [ihf, ihl]
        rfl
      · rw [Closer.closeEach_cons_of_closed h]
        exact ihl w

/-- A master and its sub, both opened, closed from the master: the sub is the master's child, and
the fuel of a world's close covers the tree. -/
theorem master_close_closes_opened_sub :
    let w := (perform (perform (perform (perform {}
      (Act.createFrom "direct://;name=master" .empty none)).2
      (Act.createFrom "direct://;name=sub;master=master" .empty none)).2
      (Act.openWith 0 .empty)).2 (Act.openWith 1 .empty)).2
    closer.Lawful ∧ (∀ z y, y ∈ closer.children w z → 2 - y < 2 - z) ∧
      2 - 0 < w.channels.size + 1 ∧
      closer.ClosesSubtree w 0 (closer.closeEach (w.channels.size + 1) [0] w) := by
  intro w
  have hsize : w.channels.size = 2 := by decide +kernel
  have hrank : ∀ z y, y ∈ closer.children w z → 2 - y < 2 - z := by
    intro z y hy
    rcases z with _ | _ | z
    · have h0 : closer.children w 0 = [1] := by decide +kernel
      rw [h0, List.mem_singleton] at hy
      subst hy
      decide
    · have h1 : closer.children w 1 = [] := by decide +kernel
      rw [h1] at hy
      cases hy
    · have hnone : w.get? (z + 1 + 1) = none := Array.getElem?_eq_none (by omega)
      simp [closer, childrenOf, hnone] at hy
  have hfuel : 2 - 0 < w.channels.size + 1 := by rw [hsize]; decide
  exact ⟨closer_lawful, hrank, hfuel, Closer.close_closes_subtree_post_order closer_lawful hrank hfuel⟩

end World

end ChannelMux
