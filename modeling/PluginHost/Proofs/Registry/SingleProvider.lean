import PluginHost.Proofs.Registry.History

/-!
# A single provider

Whether a plugin provides positional data is recorded twice, in the place of the provider and in the
flags of the plugin. The two records agree in every registry that is reached.

* **`single_provider`**: the flags of each plugin, the place of the provider, and what the one says
  about the other.
-/

namespace PluginHost

namespace Registry

variable {s : Registry} {h : History} {directories : PluginDirectories}

/-- The flags of a plugin imply each other in one order. Who holds the place of the provider is
registered and active; who is active holds the place, so there are no two, and the place is empty
iff nobody is active. -/
theorem single_provider (hf : (new directories).Follows h s) :
    (∀ p ∈ s.plugins,
      (p.active = true → p.enabled = true) ∧
      (p.enabled = true → p.loaded = true) ∧
      (p.loaded = true → p.valid = true)) ∧
    (∀ n, s.roster.provider = some n →
      ∃ p ∈ s.plugins, p.handle = n ∧ s.providing? = some p ∧ p.active = true) ∧
    (∀ p ∈ s.plugins, p.active = true → s.providing? = some p) ∧
    (∀ p ∈ s.plugins, ∀ q ∈ s.plugins, p.active = true → q.active = true → p = q) ∧
    (s.isPositionalDataAvailable = false ↔ ∀ p ∈ s.plugins, p.active = false) := by
  have hc := (hf.consistent (consistent_new directories)).roster
  have hactive : ∀ p ∈ s.plugins, p.active = true → s.providing? = some p :=
    fun p hp ha => hc.providing?_eq_some.2 ⟨hp, ha⟩
  refine ⟨fun p hp => ?_, fun n hn => ?_, hactive, fun p hp q hq ha hb => ?_, ?_⟩
  · have hs := hc.sound p hp
    exact ⟨hs.enabled_of_active, hs.loaded_of_enabled, fun _ => hs.valid⟩
  · obtain ⟨p, hp, rfl⟩ := hc.present n hn
    have ha := (hc.held p hp).2 hn
    exact ⟨p, hp, rfl, hactive p hp ha, ha⟩
  · exact Option.some.inj ((hactive p hp ha).symm.trans (hactive q hq hb))
  · change s.roster.provider.isSome = false ↔ _
    rw [Option.isSome_eq_false_iff, Option.isNone_iff_eq_none]
    constructor
    · intro hn p hp
      simpa [hn] using hc.held p hp
    · intro hidle
      cases hn : s.roster.provider with
      | none => rfl
      | some n =>
        obtain ⟨p, hp, rfl⟩ := hc.present n hn
        exact absurd (hidle p hp) (by simp [(hc.held p hp).2 hn])

/-- After the first fetch the first of two plugins is active and the second is not. -/
theorem single_provider_duo :
    let s := (Duo.start.record (Duo.answer .zero) Duo.firstFetch).2
    s.plugins.map (·.active) = [true, false] ∧ s.roster.provider = some 0 ∧
      ∀ p ∈ s.plugins, p.active = true → s.providing? = some p :=
  ⟨rfl, rfl, (single_provider (follows_record (Duo.answer .zero) Duo.start Duo.firstFetch)).2.2.1⟩

end Registry

end PluginHost
