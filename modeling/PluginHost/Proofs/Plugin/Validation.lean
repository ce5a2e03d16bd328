import PluginHost.Proofs.Plugin.Attempt

/-!
# Validation

Which exported tables make a plugin of a generation. The checks are said here once more, without the
order in which a table is looked through, and an attempt to use a source is shown to end as they
say.

* **`Generation.checks`**: what a table has to pass, in the order in which it counts, each check
  with its error. **`firstFault?`**: the error of the first check that fails.
* **`Plugin.create_decided`**: an attempt to use a source ends as the checks say.
-/

namespace PluginHost

open Interaction Transcript

/-! ## Checks -/

/-- The main record that a plugin returned, if it was asked for one and did not return null. -/
def Exchange.mainRecord? : Exchange → Option LegacyPrimary
  | ⟨.plugin _ .primaryFactory, r⟩ => r
  | _ => none

def Transcript.mainRecord? (t : Transcript) : Option LegacyPrimary :=
  t.findSome? Exchange.mainRecord?

/-- What a table has to pass, given the main record that an older plugin returned. -/
def Generation.checks (table : SymbolTable) (record : Option LegacyPrimary) :
    Generation → List (Bool × PluginError)
  | .current => ["init", "shutdown", "getName", "getAPIVersion", "registerAPIFunctions"].map
      fun symbol => (table.exports symbol, .missingSymbol table.origin symbol)
  | .legacy =>
    [(table.exports "getMumblePlugin", .missingSymbol table.origin "getMumblePlugin"),
      (record.isSome, .invalid table.origin "getMumblePlugin returned null"),
      (record.any (·.magic == 0xd63ab7c0),
        .magicMismatch table.origin (record.elim 0 (·.magic)) 0xd63ab7c0),
      (record.any (Legacy.readWide ·.shortName != "Retracted"), .retracted table.origin)]

/-- The error of the first check that fails. -/
def firstFault? (checks : List (Bool × PluginError)) : Option PluginError :=
  (checks.find? (!·.1)).map (·.2)

/-- There is no fault if every check is passed. -/
theorem firstFault?_eq_none {checks : List (Bool × PluginError)} :
    firstFault? checks = none ↔ ∀ c ∈ checks, c.1 = true := by
  simp [firstFault?]

/-- The result is an error iff there is a fault, and then it is the fault. -/
def Decided {α : Type} (fault : Option PluginError) : Except PluginError α → Prop
  | .ok _ => fault = none
  | .error e => fault = some e

theorem Decided.map {α β : Type} {fault : Option PluginError} {x : Except PluginError α} {f : α → β}
    (h : Decided fault x) : Decided fault (x.map f) := by
  cases x <;> exact h

/-! ## Validation -/

/-- A table of exports is judged by its checks in their order. -/
theorem EntryPoints.resolve_decided (table : SymbolTable) :
    Decided (firstFault? (Generation.current.checks table none)) (resolve table) := by
  have hchecks : firstFault? (Generation.current.checks table none) =
      (firstMissing? table).map fun e => .missingSymbol table.origin e.symbol := by
    change firstFault? (EntryPoint.mandatory.map fun e =>
      (table.exports e.symbol, .missingSymbol table.origin e.symbol)) = _
    rw [firstFault?, List.find?_map, Option.map_map]
    rfl
  rw [hchecks, resolve]
  cases firstMissing? table <;> rfl

/-- The record of an older library is judged by its checks in their order, and what the checks are
about is found out on the way. -/
theorem Legacy.Adapter.resolve_decided {who : Occupant} {table : SymbolTable} {t : Transcript}
    {x : Except PluginError Adapter} (h : Yields (resolve who table) t x) :
    Decided (firstFault? (Generation.legacy.checks table t.mainRecord?)) x := by
  unfold resolve at h
  split at h
  · rename_i hx
    have hx : table.exports LegacySymbol.primary = false := by simpa using hx
    change table.exports "getMumblePlugin" = false at hx
    obtain ⟨rfl, rfl⟩ := yields_done.1 h
    simp [Decided, firstFault?, Generation.checks, hx, LegacySymbol.primary]
  rename_i hx
  have hx : table.exports LegacySymbol.primary = true := by simpa using hx
  change table.exports "getMumblePlugin" = true at hx
  obtain ⟨_, u, r, rfl, h₁, h₂⟩ := yields_bind.1 h
  obtain rfl := yields_call.1 h₁
  cases r with
  | none =>
    obtain ⟨rfl, rfl⟩ := yields_done.1 h₂
    simp [Decided, firstFault?, Generation.checks, hx, Transcript.mainRecord?,
      Exchange.mainRecord?, LegacySymbol.primary]
  | some primary =>
    have hrecord :
        mainRecord? ([⟨.plugin who .primaryFactory, some primary⟩] ++ u) = some primary := rfl
    rw [hrecord]
    dsimp only at h₂
    split at h₂
    · rename_i hmagic
      have hmagic : primary.magic ≠ 0xd63ab7c0 := hmagic
      obtain ⟨rfl, rfl⟩ := yields_done.1 h₂
      simp [Decided, firstFault?, Generation.checks, hx, hmagic, magic]
    rename_i hmagic
    have hmagic : primary.magic = magic := by simpa using hmagic
    change primary.magic = 0xd63ab7c0 at hmagic
    split at h₂
    · rename_i hname
      have hname : readWide primary.shortName = "Retracted" := hname
      obtain ⟨rfl, rfl⟩ := yields_done.1 h₂
      simp [Decided, firstFault?, Generation.checks, hx, hmagic, hname]
    · -- whatever else is read of the plugin, it is not refused any more
      rename_i hname
      have hname : readWide primary.shortName ≠ "Retracted" := hname
      obtain ⟨_, _, _, rfl, -, h₃⟩ := yields_ite_bind h₂
      obtain ⟨_, _, _, rfl, -, h₄⟩ := yields_ite_bind h₃
      obtain ⟨_, _, _, rfl, -, h₅⟩ := yields_bind.1 h₄
      obtain ⟨rfl, rfl⟩ := yields_done.1 h₅
      simp [Decided, firstFault?, Generation.checks, hx, hmagic, hname]

namespace Plugin

variable {p p' q : Plugin} {t u : Transcript} {source : Source} {generation : Generation}
  {ledger : Ledger}

/-- Validation is decided by the checks of the generation. -/
theorem validate_decided {who : Occupant} {table : SymbolTable} {x : Except PluginError Backend}
    (h : Yields (validate generation who table) t x) :
    Decided (firstFault? (generation.checks table t.mainRecord?)) x := by
  unfold validate at h
  cases generation with
  | current =>
    obtain ⟨rfl, rfl⟩ := yields_done.1 h
    exact (EntryPoints.resolve_decided table).map
  | legacy =>
    obtain ⟨_, _, r, rfl, h₁, h₂⟩ := yields_bind.1 h
    obtain ⟨rfl, rfl⟩ := yields_done.1 h₂
    rw [List.append_nil]
    exact (Legacy.Adapter.resolve_decided h₁).map

/-- An attempt whose code was mapped ends as the checks of the exported table say. -/
theorem create_decided {table : SymbolTable} {x : Except PluginError Plugin × Ledger}
    (h : Yields (create source generation ledger)
      (⟨.plugin ⟨ledger.nextHandle, source⟩ .load, some table⟩ :: t) x) :
    Decided (firstFault? (generation.checks (labelled source table) t.mainRecord?)) x.1 := by
  obtain ⟨_, _, r, heq, h₁, h₂⟩ := yields_bind.1 h
  rw [yields_call.1 h₁] at heq
  obtain ⟨hload, rfl⟩ := List.cons.inj heq
  obtain rfl : some table = r := by simpa using hload
  obtain ⟨u, v, b, rfl, h₃, h₄⟩ := yields_bind.1 h₂
  have hb := validate_decided h₃
  -- letting go of the code brings no record
  have hrecord (e : Exchange) (he : e.mainRecord? = none) :
      mainRecord? (u ++ [e]) = mainRecord? u := by
    simp [Transcript.mainRecord?, List.findSome?_append, he]
  cases b with
  | ok backend =>
    obtain ⟨rfl, rfl⟩ := yields_done.1 h₄
    rw [List.append_nil]
    exact hb
  | error e =>
    obtain ⟨_, _, _, rfl, h₅, h₆⟩ := yields_bind.1 h₄
    obtain ⟨rfl, rfl⟩ := yields_done.1 h₆
    rw [yields_call.1 h₅, List.append_nil, hrecord _ rfl]
    exact hb

end Plugin

end PluginHost
