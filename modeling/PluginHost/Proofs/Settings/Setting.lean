import PluginHost.Proofs.Settings.Overlay
import PluginHost.Settings.Basic

/-!
# Settings one by one

* **`Setting`**: the settings by name, with the types of their values. **`Setting.read?`**,
  **`Setting.of`**, **`Setting.put`**: reading, looking up and changing one of them.
* **`set?_name`**, **`set?_of_ne`**: what a member of a document sets.
* **`flat_of_read`**: what can be read is no table, or a flat one.
* **`setAll?_get`**: a document whose values can be read sets each setting to what comes last for
  it.
-/

namespace PluginHost

open Layers

/-- A setting by itself. -/
inductive Setting where
  | systemPluginDir
  | userPluginDir
  | logFilter
  | logFormat
  | pluginLogLevel
  | fetchIntervalMs
  | disablePositionalData
deriving DecidableEq, Repr

namespace Setting

def all : List Setting :=
  [systemPluginDir, userPluginDir, logFilter, logFormat, pluginLogLevel, fetchIntervalMs,
    disablePositionalData]

theorem mem_all (k : Setting) : k ∈ all := by cases k <;> decide

/-- The name of a setting in files. -/
def name : Setting → String
  | systemPluginDir => "system_plugin_dir"
  | userPluginDir => "user_plugin_dir"
  | logFilter => "log_filter"
  | logFormat => "log_format"
  | pluginLogLevel => "plugin_log_level"
  | fetchIntervalMs => "fetch_interval_ms"
  | disablePositionalData => "disable_positional_data"

/-- The name of the variable for a setting. -/
def variableName (k : Setting) : String :=
  "LYRE_" ++ String.ofList (k.name.toList.map Char.toUpper)

@[reducible]
def Value : Setting → Type
  | systemPluginDir => Option Path
  | userPluginDir => Option Path
  | logFilter => String
  | logFormat => LogFormat
  | pluginLogLevel => LogLevel
  | fetchIntervalMs => Nat
  | disablePositionalData => Bool

/-- The value that a document states for a setting. -/
def read? : (k : Setting) → Json → Option k.Value
  | systemPluginDir, j => Settings.readPath? j
  | userPluginDir, j => Settings.readPath? j
  | logFilter, j => j.string?
  | logFormat, j => (Settings.caseName? j).bind LogFormat.ofText?
  | pluginLogLevel, j => (Settings.caseName? j).bind LogLevel.ofText?
  | fetchIntervalMs, j => Settings.readWord? j
  | disablePositionalData, j => j.bool?

/-- The value that a setting has. -/
def of (s : Settings) : (k : Setting) → k.Value
  | systemPluginDir => s.systemPluginDir
  | userPluginDir => s.userPluginDir
  | logFilter => s.logFilter
  | logFormat => s.logFormat
  | pluginLogLevel => s.pluginLogLevel
  | fetchIntervalMs => s.fetchIntervalMs
  | disablePositionalData => s.disablePositionalData

/-- The settings with another value for one of them. -/
def put (s : Settings) : (k : Setting) → k.Value → Settings
  | systemPluginDir, v => { s with systemPluginDir := v }
  | userPluginDir, v => { s with userPluginDir := v }
  | logFilter, v => { s with logFilter := v }
  | logFormat, v => { s with logFormat := v }
  | pluginLogLevel, v => { s with pluginLogLevel := v }
  | fetchIntervalMs, v => { s with fetchIntervalMs := v }
  | disablePositionalData, v => { s with disablePositionalData := v }

variable {k l : Setting} {s : Settings} {j : Json}

/-- Settings have different names. -/
theorem name_injective (h : k.name = l.name) : k = l := by
  revert h
  cases k <;> cases l <;> decide

theorem of_put_self {v : k.Value} : of (put s k v) k = v := by cases k <;> rfl

theorem of_put_of_ne {v : k.Value} (h : l ≠ k) : of (put s k v) l = of s l := by
  cases k <;> cases l <;> first | rfl | exact absurd rfl h

theorem set?_name : s.set? k.name j = (k.read? j).map (put s k) := by cases k <;> rfl

/-- Members with other names are passed over. -/
theorem set?_of_ne {other : String} (h : ∀ k : Setting, k.name ≠ other) :
    s.set? other j = some s := by
  unfold Settings.set?
  split
  · exact absurd rfl (h systemPluginDir)
  · exact absurd rfl (h userPluginDir)
  · exact absurd rfl (h logFilter)
  · exact absurd rfl (h logFormat)
  · exact absurd rfl (h pluginLogLevel)
  · exact absurd rfl (h fetchIntervalMs)
  · exact absurd rfl (h disablePositionalData)
  · rfl

/-- What can be read is no table, or one that names a case, which is flat. -/
theorem flat_of_read (h : (k.read? j).isSome = true) : Flat j := by
  cases j with
  | object ms =>
    have hname : (Settings.caseName? (.object ms)).isSome = true := by
      cases k with
      | logFormat | pluginLogLevel =>
        cases hc : Settings.caseName? (.object ms) with
        | none => simp [read?, hc] at h
        | some n => rfl
      | _ => simp [read?, Settings.readPath?, Settings.readWord?, Json.string?, Json.bool?] at h
    unfold Settings.caseName? at hname
    split at hname
    · simp_all
    · rename_i heq
      obtain rfl := Json.object.inj heq
      simp [Flat, Json.members, Json.isObject]
    · simp at hname
  | _ => exact flat_of_not_object rfl

/-- A document whose values can be read sets each setting to what comes last for it. -/
theorem setAll?_get (s : Settings) {ms : List (String × Json)}
    (h : ∀ m ∈ ms, ∀ k : Setting, k.name = m.1 → (k.read? m.2).isSome = true) :
    ∃ s', Settings.setAll? s ms = some s' ∧
      ∀ k, some (of s' k) = (last? ms k.name).elim (some (of s k)) k.read? := by
  induction ms generalizing s with
  | nil => exact ⟨s, rfl, fun _ => rfl⟩
  | cons m ms ih =>
    obtain ⟨other, j⟩ := m
    obtain ⟨hm, hms⟩ := List.forall_mem_cons.1 h
    by_cases hk : ∃ k : Setting, k.name = other
    · obtain ⟨k, rfl⟩ := hk
      obtain ⟨v, hv⟩ := Option.isSome_iff_exists.1 (hm k rfl)
      obtain ⟨s', hs', hget⟩ := ih (put s k v) hms
      refine ⟨s', by simp [Settings.setAll?, set?_name, hv, hs'], fun l => ?_⟩
      rw [hget, last?_cons]
      cases last? ms l.name with
      | some _ => rfl
      | none =>
        by_cases hl : l = k
        · subst hl
          simp [of_put_self, hv]
        · have hne : l.name ≠ k.name := fun e => hl (name_injective e)
          simp [hne, of_put_of_ne hl]
    · have hother : ∀ k : Setting, k.name ≠ other := fun k e => hk ⟨k, e⟩
      obtain ⟨s', hs', hget⟩ := ih s hms
      refine ⟨s', by simp [Settings.setAll?, set?_of_ne hother, hs'], fun l => ?_⟩
      rw [hget, last?_cons, if_neg (hother l), Option.or_none]

end Setting

end PluginHost
