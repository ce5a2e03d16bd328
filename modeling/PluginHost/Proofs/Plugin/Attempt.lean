import PluginHost.Proofs.Plugin.Creation

/-!
# Attempts to use a source

When a source is a plugin of a generation, and what an attempt to use it costs.

* **`Generation.Accepts`**: what the exported table and the answers of a plugin have to be.
* **`Plugin.Attempt`** and **`attempt_inv`**: an attempt gives a plugin iff the code was mapped and
  the generation accepts it. It takes an identity iff the code was mapped.
* **`Transcript.mapped`**: how often code was mapped. **`Ledger.Counts`**: the identity that comes
  next is one more than that, up to the last identity.
* **`Precedes`**: the order in which identities are handed out. The last one precedes itself.
-/

namespace PluginHost

open Interaction Transcript

/-! ## Acceptance -/

/-- A plugin of the current interface exports all that is mandatory. An older one exports its main
factory, which returns a record with the right number and a name that does not withdraw it. -/
def Generation.Accepts (who : Occupant) (table : SymbolTable) (answers : Transcript) :
    Generation → Prop
  | .current => ∀ e ∈ EntryPoint.mandatory, table.exports e.symbol = true
  | .legacy => table.exports LegacySymbol.primary = true ∧ ∃ primary : LegacyPrimary,
      ⟨.plugin who .primaryFactory, some primary⟩ ∈ answers ∧ primary.magic = Legacy.magic ∧
        Legacy.readWide primary.shortName ≠ Legacy.retractedName

namespace EntryPoints

/-- A table of exports is accepted if it has every mandatory function. -/
theorem resolve_isOk_iff {table : SymbolTable} :
    (∃ e, resolve table = .ok e) ↔ ∀ e ∈ EntryPoint.mandatory, table.exports e.symbol = true := by
  unfold resolve
  cases hm : firstMissing? table with
  | none => simpa using List.find?_eq_none.1 hm
  | some e =>
    have hmem := List.mem_of_find?_eq_some hm
    have hmiss := List.find?_some hm
    simp only [reduceCtorEq, exists_false, false_iff]
    exact fun h => by simp [h e hmem] at hmiss

end EntryPoints

namespace Legacy

/-- The factory is asked once, so its answer is the one in the transcript. -/
theorem primary_of_mem {who : Occupant} {r : Option LegacyPrimary} {primary : LegacyPrimary}
    (h : (⟨.plugin who .primaryFactory, some primary⟩ : Exchange) ∈
      [⟨.plugin who .primaryFactory, r⟩]) : r = some primary := by
  simpa [eq_comm] using h

/-- An older library is accepted if its factory returns a record with the right number and a name
that does not withdraw it. -/
theorem Adapter.resolve_accepts {who : Occupant} {table : SymbolTable} {t : Transcript}
    {x : Except PluginError Adapter} (h : Yields (resolve who table) t x) :
    (∃ a, x = .ok a) ↔ Generation.legacy.Accepts who table t := by
  unfold resolve at h
  split at h
  · rename_i hx
    obtain ⟨rfl, rfl⟩ := yields_done.1 h
    simp [Generation.Accepts]
  rename_i hx
  have hx : table.exports LegacySymbol.primary = true := by simpa using hx
  obtain ⟨_, _, r, rfl, h₁, h₂⟩ := yields_bind.1 h
  obtain rfl := yields_call.1 h₁
  -- a refusal over the answer of the factory ends the questions
  have hrefused : ∀ e : PluginError,
      (∀ primary, r = some primary → primary.magic = magic →
        readWide primary.shortName = retractedName) →
      ((∃ a, Except.error e = Except.ok (α := Adapter) a) ↔ Generation.legacy.Accepts who table
        ([⟨.plugin who .primaryFactory, r⟩] ++ [])) := by
    intro e hr
    simp only [reduceCtorEq, exists_false, false_iff, List.append_nil]
    rintro ⟨-, primary, hmem, hmagic, hname⟩
    exact hname (hr primary (primary_of_mem hmem) hmagic)
  cases r with
  | none =>
    obtain ⟨rfl, rfl⟩ := yields_done.1 h₂
    exact hrefused _ (by simp)
  | some primary =>
    dsimp only at h₂
    split at h₂
    · rename_i hmagic
      obtain ⟨rfl, rfl⟩ := yields_done.1 h₂
      exact hrefused _ fun q hq hm => absurd (Option.some.inj hq ▸ hm) hmagic
    rename_i hmagic
    split at h₂
    · rename_i hname
      obtain ⟨rfl, rfl⟩ := yields_done.1 h₂
      exact hrefused _ fun q hq _ => Option.some.inj hq ▸ hname
    · rename_i hname
      obtain ⟨_, _, extended, rfl, h₃, h₄⟩ := yields_ite_bind h₂
      obtain ⟨_, _, dialogs, rfl, h₅, h₆⟩ := yields_ite_bind h₄
      obtain ⟨_, _, description, rfl, h₇, h₈⟩ := yields_bind.1 h₆
      obtain ⟨rfl, rfl⟩ := yields_done.1 h₈
      exact ⟨fun _ => ⟨hx, primary, by simp, by simpa using hmagic, hname⟩, fun _ => ⟨_, rfl⟩⟩

end Legacy

namespace Plugin

variable {p : Plugin} {t : Transcript} {source : Source} {generation : Generation} {ledger : Ledger}

/-- What a library exports does not depend on its path. -/
theorem exports_labelled {table : SymbolTable} {symbol : String} :
    (labelled source table).exports symbol = table.exports symbol := by
  cases source <;> rfl

/-- What validation accepts. -/
theorem validate_accepts {who : Occupant} {table : SymbolTable} {x : Except PluginError Backend}
    (h : Yields (validate generation who table) t x) :
    (∃ b, x = .ok b) ↔ generation.Accepts who table t := by
  unfold validate at h
  cases generation with
  | current =>
    obtain ⟨rfl, rfl⟩ := yields_done.1 h
    rw [Generation.Accepts, ← EntryPoints.resolve_isOk_iff]
    cases EntryPoints.resolve table <;> simp [Except.map]
  | legacy =>
    obtain ⟨_, _, r, rfl, h₁, h₂⟩ := yields_bind.1 h
    obtain ⟨rfl, rfl⟩ := yields_done.1 h₂
    rw [List.append_nil, ← Legacy.Adapter.resolve_accepts h₁]
    cases r <;> simp [Except.map]

/-! ## Attempts -/

/-- The ways in which an attempt to use a source ends, with what is left of the ledger. -/
inductive Attempt (source : Source) (generation : Generation) (ledger : Ledger) :
    Transcript → Option Plugin → Ledger → Prop
  /-- There is no code to be mapped, so no identity is taken. -/
  | unmapped : Attempt source generation ledger
      [⟨.plugin ⟨ledger.nextHandle, source⟩ .load, none⟩] none ledger.newHandle.2
  /-- The code was mapped for nothing, and is let go of. -/
  | refused (table : SymbolTable) (u : Transcript)
      (hu : Descriptive ledger.nextHandle u)
      (hg : ¬generation.Accepts ⟨ledger.nextHandle, source⟩ (labelled source table) u) :
      Attempt source generation ledger
        (⟨.plugin ⟨ledger.nextHandle, source⟩ .load, some table⟩ ::
          (u ++ [⟨.plugin ⟨ledger.nextHandle, source⟩ .unload, ()⟩]))
        none ledger.newHandle.2.allocateId.2
  | made (table : SymbolTable) (u : Transcript) (p : Plugin)
      (hu : Descriptive ledger.nextHandle u)
      (hg : generation.Accepts ⟨ledger.nextHandle, source⟩ (labelled source table) u)
      (hb : p.Born (⟨.plugin ⟨ledger.nextHandle, source⟩ .load, some table⟩ :: u))
      (hw : p.who = ⟨ledger.nextHandle, source⟩) (hi : p.id = ledger.ids.next)
      (hp : p.generation = generation) :
      Attempt source generation ledger
        (⟨.plugin ⟨ledger.nextHandle, source⟩ .load, some table⟩ :: u)
        (some p) ledger.newHandle.2.allocateId.2

/-- **What an attempt comes to.** The library may be missing, fail validation or become a plugin;
only in the first case no identity is taken. -/
theorem attempt_inv {x : Except PluginError Plugin × Ledger}
    (h : Yields (create source generation ledger) t x) :
    Attempt source generation ledger t x.1.toOption x.2 := by
  have hborn := create_inv h
  obtain ⟨_, _, r, rfl, h₁, h₂⟩ := yields_bind.1 h
  obtain rfl := yields_call.1 h₁
  cases r with
  | none =>
    obtain ⟨rfl, rfl⟩ := yields_done.1 h₂
    exact .unmapped
  | some table =>
    obtain ⟨u, _, b, rfl, h₃, h₄⟩ := yields_bind.1 h₂
    have hu := (validate_inv h₃).1
    have hg := validate_accepts h₃
    cases b with
    | ok backend =>
      obtain ⟨rfl, rfl⟩ := yields_done.1 h₄
      rw [List.append_nil] at hborn ⊢
      cases hborn with
      | born _ hb hw hi hgen => exact .made table u _ hu (hg.1 ⟨_, rfl⟩) hb hw hi hgen
    | error e =>
      obtain ⟨_, _, _, rfl, h₅, h₆⟩ := yields_bind.1 h₄
      obtain ⟨rfl, rfl⟩ := yields_done.1 h₆
      rw [yields_call.1 h₅, List.append_nil]
      exact .refused table u hu fun h => by simpa using hg.2 h

end Plugin

/-! ## Identities -/

/-- The loader mapped some code. -/
def Exchange.isMapped : Exchange → Bool
  | ⟨.plugin _ .load, some _⟩ => true
  | _ => false

/-- How often the loader mapped some code. -/
def Transcript.mapped (t : Transcript) : Nat := t.countP Exchange.isMapped

@[simp] theorem Transcript.mapped_nil : Transcript.mapped [] = 0 := rfl

@[simp] theorem Transcript.mapped_append (t u : Transcript) :
    Transcript.mapped (t ++ u) = t.mapped + u.mapped := List.countP_append

theorem Transcript.mapped_cons (e : Exchange) (t : Transcript) :
    Transcript.mapped (e :: t) = t.mapped + if e.isMapped then 1 else 0 := List.countP_cons

/-- Questions about a plugin map no code. -/
theorem Transcript.Descriptive.mapped {n : Nat} {t : Transcript} (h : Descriptive n t) :
    t.mapped = 0 := by
  refine List.countP_eq_zero.2 fun e he => ?_
  obtain ⟨who, c, hq, -, hc⟩ := h e he
  obtain ⟨q, r⟩ := e
  obtain rfl : q = .plugin who c := hq
  cases c <;> simp [Exchange.isMapped, Call.isMetadata] at hc ⊢

namespace Plugin

variable {p : Plugin} {t : Transcript}

/-- No function that a plugin exports maps code. -/
theorem mapped_heard {e : EntryPoint} {c : Call} {r : c.Reply} (hc : c ≠ .load) :
    (p.heard e c r).mapped = 0 := by
  unfold heard
  split
  · rw [Transcript.mapped_cons]
    cases c <;> first | rfl | exact absurd rfl hc
  · rfl

theorem mapped_parting : p.parting.mapped = 0 := by
  unfold parting
  split
  · exact mapped_heard (by simp)
  · split <;> rfl
  · rfl

theorem mapped_activation {status : Status} : (p.activation status).mapped = 0 := by
  simp [activation, opening, mapped_heard]

/-- Activation maps no code. -/
theorem Activated.mapped {allowed : Bool} {x : Except PluginError Status × Plugin}
    (h : p.Activated allowed t x) : t.mapped = 0 := by
  cases h with
  | already => rfl
  | unsupported => exact mapped_heard (by simp)
  | refused => simp [mapped_heard, mapped_activation]
  | started => simp [mapped_heard, mapped_activation]

end Plugin

/-- The last identity. -/
def lastId : PluginId := 0xFFFFFFFF

theorem toNat_lastId : lastId.toNat = 4294967295 := rfl

/-- So many identities have been handed out; the last one is handed out for ever. -/
def Ledger.Counts (l : Ledger) (n : Nat) : Prop := l.ids.next.toNat = min (n + 1) lastId.toNat

theorem Ledger.counts_initial : Ledger.initial.Counts 0 := rfl

/-- One identity is handed out before another. -/
def Precedes (a b : PluginId) : Prop := a < b ∨ (a = lastId ∧ b = lastId)

theorem Precedes.trans_le {a b c : PluginId} (h : Precedes a b) (hbc : b ≤ c) : Precedes a c := by
  rcases h with h | ⟨rfl, rfl⟩
  · exact .inl (UInt32.lt_of_lt_of_le h hbc)
  · refine .inr ⟨rfl, ?_⟩
    rw [UInt32.le_iff_toNat_le, toNat_lastId] at hbc
    have := c.toNat_lt
    exact UInt32.toNat_inj.1 (by rw [toNat_lastId]; omega)

theorem Precedes.le {a b : PluginId} (h : Precedes a b) : a ≤ b := by
  rcases h with h | ⟨rfl, rfl⟩
  · exact UInt32.le_of_lt h
  · exact UInt32.le_refl _

/-- Up to the last identity, one that precedes another is smaller. -/
theorem Precedes.lt {a b : PluginId} (h : Precedes a b) (hb : b ≠ lastId) : a < b := by
  rcases h with h | ⟨-, hb'⟩
  · exact h
  · exact absurd hb' hb

/-- After an identity is handed out, the next one is greater, until the last one is reached. -/
theorem precedes_allocate (a : IdAllocator) : Precedes a.next a.allocate.2.next := by
  simp only [IdAllocator.allocate]
  split
  · rename_i h
    exact .inr ⟨h, h⟩
  · rename_i h
    refine .inl ?_
    rw [UInt32.lt_iff_toNat_lt, UInt32.toNat_add]
    have := a.next.toNat_lt
    have : a.next.toNat ≠ 0xFFFFFFFF := fun e => h (UInt32.toNat_inj.1 e)
    simp only [UInt32.reduceToNat]
    omega

/-- The ledger counts the identities that it hands out. -/
theorem Ledger.Counts.allocateId {l : Ledger} {n : Nat} (h : l.Counts n) :
    l.allocateId.2.Counts (n + 1) := by
  simp only [Ledger.Counts, Ledger.allocateId, IdAllocator.allocate, toNat_lastId] at h ⊢
  split
  · rename_i hl
    have : l.ids.next.toNat = 4294967295 := by rw [hl]; rfl
    omega
  · rename_i hl
    have : l.ids.next.toNat ≠ 4294967295 := fun e => hl (UInt32.toNat_inj.1 e)
    rw [UInt32.toNat_add]
    simp only [UInt32.reduceToNat]
    omega

namespace Plugin.Attempt

variable {source : Source} {generation : Generation} {l l' : Ledger} {t : Transcript}
  {o : Option Plugin} {p : Plugin} {n : Nat}

/-- Each attempt takes a handle. -/
theorem nextHandle_eq (h : Attempt source generation l t o l') :
    l'.nextHandle = l.nextHandle + 1 := by
  cases h <;> rfl

/-- An identity is handed out iff code was mapped. -/
theorem counts (h : Attempt source generation l t o l') (hl : l.Counts n) :
    l'.Counts (n + t.mapped) := by
  cases h with
  | unmapped => exact hl
  | refused table u hu hg =>
    rw [Transcript.mapped_cons, Transcript.mapped_append, hu.mapped]
    exact Ledger.Counts.allocateId (l := l.newHandle.2) hl
  | made table u p hu hg hb hw hi hp =>
    rw [Transcript.mapped_cons, hu.mapped]
    exact Ledger.Counts.allocateId (l := l.newHandle.2) hl

/-- Code is mapped once, unless there is none. -/
theorem mapped_eq (h : Attempt source generation l t o l')
    (hload : ∀ who, (⟨.plugin who .load, none⟩ : Exchange) ∉ t) : t.mapped = 1 := by
  cases h with
  | unmapped => exact absurd (by simp) (hload ⟨l.nextHandle, source⟩)
  | refused table u hu hg =>
    rw [Transcript.mapped_cons, Transcript.mapped_append, hu.mapped]
    rfl
  | made table u p hu hg hb hw hi hp =>
    rw [Transcript.mapped_cons, hu.mapped]
    rfl

/-- A plugin is of the source and the generation that were tried. -/
theorem source_eq (h : Attempt source generation l t (some p) l') :
    p.who.source = source ∧ p.generation = generation := by
  cases h with
  | made table u p hu hg hb hw hi hp => exact ⟨congrArg Occupant.source hw, hp⟩

/-- Identities are not taken back. -/
theorem next_le (h : Attempt source generation l t o l') : l.ids.next ≤ l'.ids.next := by
  cases h with
  | unmapped => exact UInt32.le_refl _
  | _ => exact (precedes_allocate l.ids).le

/-- The plugin gets the identity that comes next. -/
theorem id_eq (h : Attempt source generation l t (some p) l') :
    p.id = l.ids.next ∧ Precedes p.id l'.ids.next := by
  cases h with
  | made table u p hu hg hb hw hi hp => exact ⟨hi, hi ▸ precedes_allocate l.ids⟩

theorem handle_eq (h : Attempt source generation l t (some p) l') : p.handle = l.nextHandle := by
  cases h with
  | made table u p hu hg hb hw hi hp => exact congrArg Occupant.handle hw

theorem born (h : Attempt source generation l t (some p) l') : p.Born t := by
  cases h with
  | made table u p hu hg hb hw hi hp => exact hb

end Plugin.Attempt

end PluginHost
