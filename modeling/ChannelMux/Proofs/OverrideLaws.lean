import ChannelMux.Proofs.DescriptorText
import ChannelMux.Proofs.OptionLookup

/-! Laws of overriding a descriptor's options. -/

namespace ChannelMux.Descriptor

open Options

theorem override_of_isEmpty_false {d : Descriptor} {extra : Options} (h : extra.isEmpty = false) :
    d.override extra = finish d.source d.scheme
      (((d.options.merge extra).get? "host").getD d.host) ((d.options.merge extra).erase "host") := by
  unfold override
  rw [if_neg (by simp [h])]
  dsimp only
  cases hh : (d.options.merge extra).get? "host" with
  | some v => rfl
  | none => rw [Options.erase_of_get?_eq_none hh]; rfl

theorem finish_congr {source scheme host : String} {o o' : Options} {d : Descriptor}
    (name : o'.get? "name" = o.get? "name") (dump : o'.get? "dump" = o.get? "dump")
    (h : finish source scheme host o = .ok d) (host' : String) :
    finish source scheme host' o' = .ok { d with host := host', options := o' } := by
  have choice : o'.getChoice "dump" DumpMode.names = o.getChoice "dump" DumpMode.names := by
    simp only [Options.getChoice, Options.given?, dump]
  have named : o'.getString "name" "" = o.getString "name" "" := by
    simp only [Options.getString, name]
  unfold finish at h ⊢
  rw [choice, named]
  by_cases ht : (schemeParts scheme).1.isEmpty = true
  · simp [ht] at h
  · simp only [ht, if_false, Bool.false_eq_true] at h ⊢
    split at h
    · cases h
    · cases h
      rfl

theorem override_override {c c₁ : Descriptor} {p₁ : Options} (hc : c.options.Ordered)
    (h₁ : p₁.Ordered) (first : c.override p₁ = .ok c₁) (p₂ : Options) :
    c₁.override p₂ = c.override (p₁.merge p₂) := by
  by_cases e₁ : p₁.isEmpty = true
  · -- without first options the descriptor stays, and the merge is the second options alone
    obtain rfl := Options.eq_empty_of_isEmpty e₁
    cases first
    by_cases e₂ : p₂.isEmpty = true
    · obtain rfl := Options.eq_empty_of_isEmpty e₂
      rfl
    · have e₂' := Options.isEmpty_ofList_entries (Bool.eq_false_iff.2 e₂)
      rw [override_of_isEmpty_false (Bool.eq_false_iff.2 e₂)]
      change _ = c.override (ofList p₂.entries)
      rw [override_of_isEmpty_false e₂', Options.merge_ofList hc]
  · have e₁' := Bool.eq_false_iff.2 e₁
    rw [override_of_isEmpty_false e₁'] at first
    obtain ⟨hs, hsc, hh, ho⟩ := finish_fields first
    by_cases e₂ : p₂.isEmpty = true
    · obtain rfl := Options.eq_empty_of_isEmpty e₂
      rw [Options.merge_empty_right, override_of_isEmpty_false e₁', first]
      rfl
    · rw [override_of_isEmpty_false (Bool.eq_false_iff.2 e₂),
        override_of_isEmpty_false (Options.isEmpty_merge_of_isEmpty_false e₁' p₂), hs, hsc, hh, ho]
      have h₁₂ := Options.ordered_merge h₁ p₂
      congr 1
      · -- the host is the last `host` option written, else the descriptor's own host
        rw [Options.get?_merge, Options.get?_merge_of_ordered h₁₂, Options.get?_merge_of_ordered h₁,
          Options.get?_erase, if_pos rfl, Options.get?_merge]
        cases (ofList p₂.entries).get? "host" <;> simp
      · refine Options.ext_get? ?_ ?_ fun k => ?_
        · exact Options.ordered_erase (Options.ordered_merge
            (Options.ordered_erase (Options.ordered_merge hc p₁) _) p₂) _
        · exact Options.ordered_erase (Options.ordered_merge hc _) _
        rw [Options.get?_erase, Options.get?_erase]
        split
        · rfl
        · rw [Options.get?_merge, Options.get?_erase, if_neg ‹_›, Options.get?_merge_of_ordered h₁,
            Options.get?_merge_of_ordered h₁₂, Options.get?_merge, Option.or_assoc]

/-- Overriding a finished descriptor with options it holds gives it back, unless it holds `host` and
options are given: then `host` moves into the host. -/
theorem override_of_held {c : Descriptor} {p : Options} (hc : c.options.Ordered)
    (finished : finish c.source c.scheme c.host c.options = .ok c)
    (held : ∀ e ∈ p.entries, c.options.get? e.1 = some e.2) :
    ((c.options.get? "host" = none ∨ p.isEmpty = true) → c.override p = c.override Options.empty) ∧
      ∀ h, c.options.get? "host" = some h → p.isEmpty = false →
        c.override p = .ok { c with host := h, options := c.options.erase "host" } := by
  have same := Options.merge_eq_self_of_held hc held
  constructor
  · rintro (none | empty)
    · by_cases e : p.isEmpty = true
      · obtain rfl := Options.eq_empty_of_isEmpty e
        rfl
      · rw [override_of_isEmpty_false (Bool.eq_false_iff.2 e), same, none,
          Options.erase_of_get?_eq_none none, Option.getD_none, finished]
        rfl
    · obtain rfl := Options.eq_empty_of_isEmpty empty
      rfl
  · intro h host given
    rw [override_of_isEmpty_false given, same, host, Option.getD_some]
    exact finish_congr (by rw [Options.get?_erase]; rfl) (by rw [Options.get?_erase]; rfl) finished h

/-- A descriptor read from a text with a `host` option and a name, overridden with the option it
holds: the option moves into the host, and the rest stays. -/
theorem held_host_option_moves_into_host :
    (⟨"ws+http:///a;host=/b;name=n", "ws+http", "ws", "http", "/a", "n", .no,
        ⟨[("host", "/b"), ("name", "n")]⟩⟩ : Descriptor).override ⟨[("host", "/b")]⟩ =
      .ok ⟨"ws+http:///a;host=/b;name=n", "ws+http", "ws", "http", "/b", "n", .no, ⟨[("name", "n")]⟩⟩ :=
  (override_of_held (by decide) rfl (by decide)).2 "/b" rfl rfl

/-- A descriptor read from a text with a `host` option: overriding it with its own options moves
the option into the host, while overriding it with nothing keeps it. -/
theorem host_option_moves_on_override :
    Descriptor.parse "ws+http:///a;host=/b" =
        .ok ⟨"ws+http:///a;host=/b", "ws+http", "ws", "http", "/a", "", .no, ⟨[("host", "/b")]⟩⟩ ∧
      (⟨"ws+http:///a;host=/b", "ws+http", "ws", "http", "/a", "", .no, ⟨[("host", "/b")]⟩⟩ :
          Descriptor).override ⟨[("host", "/b")]⟩ ≠
        (⟨"ws+http:///a;host=/b", "ws+http", "ws", "http", "/a", "", .no, ⟨[("host", "/b")]⟩⟩ :
          Descriptor).override Options.empty :=
  ⟨rfl, by decide⟩

end ChannelMux.Descriptor
