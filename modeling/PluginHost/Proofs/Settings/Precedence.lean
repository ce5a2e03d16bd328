import PluginHost.Probe.Run
import PluginHost.Proofs.Settings.Flags

/-!
# Which layer counts

Each setting has the value of the highest layer that sets it: the command line, else the
environment, else the file, else the default. The switch does not follow this, because the command
line says that it is off whenever it is not given.

Nothing is said here of how a library reads a file, a variable or a command line. What is relied on
is that it joins layers name by name, and that its layer of the command line always has the switch.

* **`Layering.Lawful`**: this, and what goes with it. **`lawful_standard`**: the library that the
  program runs with is such a one.
* **`Setting.chosen?`**: the value in the highest layer that has one. **`Setting.counted?`**: the
  value that counts.
* **`last?_stack`**, **`table_at_top`**: what comes last for a setting in all layers, and where a
  table can be among it.
* **`loadWith_eq`**: what is loaded, setting by setting.
* **`load_precedence`**: where the highest layer counts, and where it does not.
-/

namespace PluginHost

open Layers

/-! ## Libraries -/

/-- What settings rely on of the library that they are loaded with. -/
structure Layering.Lawful (L : Layering) : Prop where
  /-- The value that comes with a flag is one that its setting can have, and a switch is on. -/
  proper : ∀ args flags, L.flags? args = some flags → flags.Proper
  /-- A variable with the name of a setting is for that setting. -/
  named : ∀ (k : Setting) text, ∃ j, L.setting? (k.variableName, text) = some (k.name, j)
  /-- Of several variables for one setting the last one counts. -/
  environment : ∀ settings name, values (L.environment settings) name = (last? settings name).toList
  /-- The command line has the flags that were given, and the switch also if it was not: it is off
  then. -/
  commandLine : ∀ flags (k : Setting), flags.Proper → last? (L.commandLine flags) k.name =
    (last? flags.members k.name).or
      (if k = .disablePositionalData then some (.bool false) else none)
  /-- The file, the environment and the command line are joined name by name, in this order. -/
  merge : ∀ file environment commandLine, commandLine ≠ [] →
    ∃ all, L.merge (file.toList ++ [.object environment] ++ [.object commandLine]) = .object all ∧
      Joined (fileMembers file ++ environment ++ commandLine) all

/-- The variable with a setting's name is for this setting and nothing below it. -/
theorem Setting.variablePath?_variableName (k : Setting) :
    variablePath? k.variableName = some [k.name] := by
  cases k <;> decide +kernel

/-- In the layer of the environment no name stands twice, and each has the last of its values. -/
theorem values_environmentLayer {settings : List (String × Json)} {name : String} :
    values (environmentLayer settings) name = (last? settings name).toList := by
  obtain ⟨hnodup, hmember⟩ := foldl_putMember [] settings name (by simp)
  rw [environmentLayer, values_of_nodup hnodup, hmember]
  simp [member?]

/-- **The layers of this program are lawful**: they do what is documented of the parts that it is
built from. -/
theorem lawful_standard : Layering.standard.Lawful where
  proper _ _ := Flags.proper_of_parse?
  named k text := ⟨LooseValue.read text, by
    simp [Layering.standard, settingOf?, k.variablePath?_variableName, nested]⟩
  environment _ _ := values_environmentLayer
  commandLine _ _ := last?_toLayer
  merge file environment commandLine h := ⟨_, merge_eq h, joined_overlayMembers _⟩

/-! ## Layers -/

namespace Setting

/-- The value of a setting in the highest layer that has one. -/
def chosen? (k : Setting) (L : Layering) (file : Option Json) (env : Environment) (flags : Flags) :
    Option Json :=
  (last? flags.members k.name).or
    ((last? (L.settings env) k.name).or (last? (fileMembers file) k.name))

/-- The value that counts: a switch that is not given on the command line is off there. -/
def counted? (k : Setting) (L : Layering) (file : Option Json) (env : Environment) (flags : Flags) :
    Option Json :=
  (last? flags.members k.name).or
    (if k = .disablePositionalData then some (.bool false)
    else (last? (L.settings env) k.name).or (last? (fileMembers file) k.name))

/-- How many tables the file and the environment have for a setting. -/
def tables (k : Setting) (L : Layering) (file : Option Json) (env : Environment) : Nat :=
  (values (fileMembers file) k.name ++ (last? (L.settings env) k.name).toList).countP (·.isObject)

end Setting

section

variable {L : Layering} {fs : FileSystem} {env : Environment} {args : List String} {flags : Flags}
  {file : Option Json} {k : Setting} {j : Json}

/-- Whatever its value, a variable with the name of a setting sets it. -/
theorem Layering.Lawful.isSome_of_variable (hL : L.Lawful) {text : String}
    (h : (k.variableName, text) ∈ env) : (last? (L.settings env) k.name).isSome = true := by
  obtain ⟨j, hj⟩ := hL.named k text
  have hmem : (k.name, j) ∈ L.settings env := List.mem_filterMap.2 ⟨_, h, hj⟩
  rw [Option.isSome_iff_ne_none, ne_eq, last?_eq_none]
  exact List.ne_nil_of_mem (mem_values.2 hmem)

/-! ## What is loaded -/

/-- All members of all layers, from the bottom to the top. -/
def stack (L : Layering) (file : Option Json) (env : Environment) (flags : Flags) :
    List (String × Json) :=
  fileMembers file ++ L.environment (L.settings env) ++ L.commandLine flags

/-- What comes last for a setting in all layers is what counts. -/
theorem last?_stack (hL : L.Lawful) (h : flags.Proper) :
    last? (stack L file env flags) k.name = k.counted? L file env flags := by
  have henv : last? (L.environment (L.settings env)) k.name = last? (L.settings env) k.name := by
    rw [last?, hL.environment]
    cases last? (L.settings env) k.name <;> rfl
  rw [stack, last?_append, last?_append, hL.commandLine flags k h, henv, Setting.counted?,
    Option.or_assoc]
  congr 1
  split <;> rfl

/-- What the command line has for a setting can be read, and is no table. -/
theorem Layering.Lawful.states (hL : L.Lawful) (h : flags.Proper)
    (hj : last? (L.commandLine flags) k.name = some j) :
    (k.read? j).isSome = true ∧ j.isObject = false := by
  refine h.states ?_
  rw [← hj, hL.commandLine flags k h, last?_toLayer h]

/-- Of the values for a setting only the one at the top can be a table. -/
theorem table_at_top {vs : List Json} (hL : L.Lawful) (h : flags.Proper)
    (ht : k.tables L file env ≤ 1)
    (hvs : values (stack L file env flags) k.name = vs ++ [j]) (hj : j.isObject = true) :
    ∀ v ∈ vs, v.isObject = false := by
  -- on the command line there are no tables, so the value comes from further below
  have hcommand : values (L.commandLine flags) k.name = [] := by
    rw [← last?_eq_none]
    cases hl : last? (L.commandLine flags) k.name with
    | none => rfl
    | some v =>
      obtain ⟨ws, hws⟩ := last?_eq_some.1 hl
      have hlast := congrArg List.getLast? hvs
      rw [stack, values_append, hws] at hlast
      obtain rfl : v = j := by simpa using hlast
      simp [(hL.states h hl).2] at hj
  rw [stack, values_append, hcommand, List.append_nil, values_append, hL.environment] at hvs
  rw [Setting.tables, hvs, List.countP_append] at ht
  have hone : List.countP (·.isObject) [j] = 1 := by simp [hj]
  have hnone : List.countP (·.isObject) vs = 0 := by omega
  exact fun v hv => by simpa using List.countP_eq_zero.1 hnone v hv

/-- What counts for a setting can be read, also if it is the switch that is off. -/
theorem isSome_read_counted (hL : L.Lawful) (h : flags.Proper)
    (hread : ∀ (k : Setting) j, k.chosen? L file env flags = some j → (k.read? j).isSome = true)
    (hj : k.counted? L file env flags = some j) : (k.read? j).isSome = true := by
  by_cases hk : k = .disablePositionalData
  · refine (hL.states h (k := k) ?_).1
    rw [hL.commandLine flags k h, if_pos hk]
    rw [Setting.counted?, if_pos hk] at hj
    exact hj
  · refine hread k j ?_
    rwa [Setting.counted?, if_neg hk] at hj

namespace Settings

/-- Members with distinct names have each name once at most. -/
theorem namesOnce_of_nodup {ms : List (String × Json)} (h : (ms.map (·.1)).Nodup) :
    namesOnce ms = true := by
  refine List.all_eq_true.2 fun n _ => ?_
  have hvalues := congrArg List.length (values_of_nodup h n)
  rw [values, List.length_map] at hvalues
  rw [hvalues]
  cases member? ms n <;> rfl

/-- What is loaded, setting by setting. -/
theorem loadWith_eq (hL : L.Lawful) (hflags : L.flags? args = some flags)
    (hfile : L.file fs env flags.configPath? = (file, []))
    (hread : ∀ (k : Setting) j, k.chosen? L file env flags = some j → (k.read? j).isSome = true)
    (htables : ∀ k : Setting, k.tables L file env ≤ 1) :
    ∃ s, loadWith L fs env args = .ok s ∧ ∀ k, some (Setting.of s k) =
      (k.counted? L file env flags).elim (some (Setting.of (default env) k)) k.read? := by
  have hp := hL.proper args flags hflags
  have hne : L.commandLine flags ≠ [] := by
    intro hnil
    have hoff := hL.commandLine flags .disablePositionalData hp
    rw [hnil, if_pos rfl] at hoff
    cases hl : last? flags.members Setting.disablePositionalData.name <;> simp [hl] at hoff
  obtain ⟨all, hmerge, hjoined⟩ := hL.merge file (L.environment (L.settings env)) _ hne
  -- what counts for a setting is what the merged document has for it
  have hmember (k : Setting) : member? all k.name = k.counted? L file env flags := by
    rw [← last?_stack hL hp]
    cases hl : last? (stack L file env flags) k.name with
    | none => exact hjoined.absent _ (last?_eq_none.1 hl)
    | some j =>
      obtain ⟨vs, hvs⟩ := last?_eq_some.1 hl
      have hcounted := isSome_read_counted hL hp hread ((last?_stack hL hp).symm.trans hl)
      exact hjoined.later_wins _ vs j hvs (Setting.flat_of_read hcounted)
        (table_at_top hL hp (htables k) hvs)
  have hall : ∀ m ∈ all, ∀ k : Setting, k.name = m.1 → (k.read? m.2).isSome = true := by
    rintro ⟨n, j⟩ hm k rfl
    have hj := mem_values.2 hm
    rw [values_of_nodup hjoined.once, Option.mem_toList, hmember] at hj
    exact isSome_read_counted hL hp hread hj
  obtain ⟨s, hs, hof⟩ := Setting.setAll?_get (default env) hall
  refine ⟨s, ?_, fun k => by rw [hof, last?_of_nodup hjoined.once, hmember]⟩
  simp only [loadWith, hflags, Option.bind_some, hfile, Option.map_some, Option.toList_some, hmerge,
    ofJson?, namesOnce_of_nodup hjoined.once, if_true, hs]
  rfl

end Settings

/-- A setting has the value of the highest layer that sets it, and its default if none does. -/
def Setting.Obeys (k : Setting) (L : Layering) (file : Option Json) (env : Environment)
    (flags : Flags) (s : Settings) : Prop :=
  some (of s k) = (k.chosen? L file env flags).elim (some (of (Settings.default env) k)) k.read?

/-- Plugins are allowed positional data unless it is disabled. -/
theorem positionalDefault_registryFor (s : Settings) (builtIns : List BuiltIn) :
    (Probe.registryFor s builtIns).positionalDefault = !s.disablePositionalData := by
  have hfold : ∀ r : Registry, (builtIns.foldl Registry.registerBuiltIn r).positionalDefault =
      r.positionalDefault := by
    induction builtIns with
    | nil => exact fun _ => rfl
    | cons b bs ih => exact fun r => ih (r.registerBuiltIn b)
  rw [Probe.registryFor, hfold]
  rfl

/-- **Settings that a lawful library loads.** The library of this program is lawful, and what any
such library loads is this. Every setting but the switch obeys its layers, if what they have for it
can be read and if no two of them have a table for one setting. The switch is on iff it is given on
the command line: it obeys its layers iff it is given there, or the highest layer that sets it does
not turn it on. A variable with the name of a setting is among what the environment sets. -/
theorem load_precedence (fs : FileSystem) (env : Environment) (args : List String) (flags : Flags)
    (file : Option Json) : Layering.standard.Lawful ∧
    ∀ L : Layering, L.Lawful → L.flags? args = some flags →
      L.file fs env flags.configPath? = (file, []) →
      (∀ (k : Setting) j, k.chosen? L file env flags = some j → (k.read? j).isSome = true) →
      (∀ k : Setting, k.tables L file env ≤ 1) →
      ∃ s, Settings.loadWith L fs env args = .ok s ∧
        (∀ k ≠ Setting.disablePositionalData, k.Obeys L file env flags s) ∧
        s.disablePositionalData = flags.given.any (·.1 == Flag.disable) ∧
        (∀ builtIns, (Probe.registryFor s builtIns).positionalDefault =
          !flags.given.any (·.1 == Flag.disable)) ∧
        (Setting.disablePositionalData.Obeys L file env flags s ↔
          flags.given.any (·.1 == Flag.disable) = true ∨
            Setting.disablePositionalData.chosen? L file env flags ≠ some (.bool true)) ∧
        ∀ (k : Setting) text, (k.variableName, text) ∈ env →
          (last? (L.settings env) k.name).isSome = true := by
  refine ⟨lawful_standard, fun L hL hflags hfile hread htables => ?_⟩
  obtain ⟨s, hload, hof⟩ := Settings.loadWith_eq hL hflags hfile hread htables
  have hp := hL.proper args flags hflags
  have hswitch : s.disablePositionalData = flags.given.any (·.1 == Flag.disable) := by
    have := hof .disablePositionalData
    rw [Setting.counted?, hp.last?_switch] at this
    cases hg : flags.given.any (·.1 == Flag.disable) <;>
      simpa [hg, Setting.read?, Json.bool?, Setting.of] using this
  refine ⟨s, hload, fun k hk => ?_, hswitch, fun bs => ?_, ?_, fun k text => hL.isSome_of_variable⟩
  · rw [Setting.Obeys, hof, Setting.counted?, if_neg hk]
    rfl
  · rw [positionalDefault_registryFor, hswitch]
  · have hj := hread .disablePositionalData
    rw [Setting.Obeys, Setting.of, hswitch]
    rw [Setting.chosen?, hp.last?_switch] at hj ⊢
    cases hg : flags.given.any (·.1 == Flag.disable) with
    | true => simp [Setting.read?, Json.bool?]
    | false =>
      -- a value of a lower layer is a truth value, and the switch is off
      simp only [hg, Bool.false_eq_true, if_false, Option.none_or, false_or] at hj ⊢
      cases hc : (last? (L.settings env) Setting.disablePositionalData.name).or
          (last? (fileMembers file) Setting.disablePositionalData.name) with
      | none => simp [Setting.of, Settings.default]
      | some j =>
        obtain ⟨b, hb⟩ := Option.isSome_iff_exists.1 (hj j hc)
        cases j <;> simp [Setting.read?, Json.bool?] at hb ⊢

end

/-! ## A file with settings -/

namespace Cabinet

/-- The file turns the switch on. -/
def text : String := "disable_positional_data = true"

def files : FileSystem := ⟨[], [(["lyre.toml"], .file (.text text))]⟩

/-- The variables around it. -/
def environment : Environment := [("LYRE_LOG_FILTER", "warn"), ("LYRE_FETCH_INTERVAL_MS", "7")]

def named : List String := ["--config-path", "/lyre.toml", "-p", "off"]

def flags : Flags :=
  ⟨[(⟨"config_path", none, .configPath⟩, .string "/lyre.toml"),
    (⟨"plugin_log_level", some 'p', .level⟩, .string "off")]⟩

def file : Option Json := (fileLayer files environment flags.configPath?).1

theorem parse?_named : Flags.parse? named = some flags := rfl

theorem fileLayer_eq : fileLayer files environment flags.configPath? = (file, []) := by
  have hnone : (fileLayer files environment flags.configPath?).2 = [] := by decide +kernel
  rw [file, ← hnone]

theorem flags?_named : Layering.standard.flags? named = some flags := by
  simp only [Layering.standard, parse?_named]

theorem file_eq : Layering.standard.file files environment flags.configPath? = (file, []) := by
  simp only [Layering.standard, fileLayer_eq]

/-- The file turns the switch on, nothing else mentions it, and it is off. -/
theorem switch_stays_off :
    ∃ s, Flags.parse? named = some flags ∧
      fileLayer files environment flags.configPath? = (file, []) ∧
      Setting.disablePositionalData.chosen? .standard file environment flags = some (.bool true) ∧
      Settings.load files environment named = .ok s ∧ s.disablePositionalData = false := by
  have hchosen :
      (Setting.disablePositionalData.chosen? .standard file environment flags).bind Json.bool? =
      some true := by decide +kernel
  obtain ⟨j, hj, hb⟩ := Option.bind_eq_some_iff.1 hchosen
  obtain rfl : j = .bool true := by
    cases j <;> simp [Json.bool?] at hb
    rw [hb]
  have hload : (Settings.load files environment named).toOption.map (·.disablePositionalData) =
      some false := by decide +kernel
  obtain ⟨s, hs, hoff⟩ := Option.map_eq_some_iff.1 hload
  refine ⟨s, parse?_named, fileLayer_eq, hj, ?_, hoff⟩
  cases hl : Settings.load files environment named <;> simp_all [Except.toOption]

/-- The filter and the interval are those of the environment, the level that of the command line,
the format the usual one. -/
theorem load_precedence_cabinet :
    ∃ s, Settings.load files environment named = .ok s ∧ s.logFilter = "warn" ∧
      s.fetchIntervalMs = 7 ∧ s.pluginLogLevel = .off ∧ s.logFormat = .compact ∧
      s.disablePositionalData = false := by
  have hlayers : ∀ k ∈ Setting.all, ((k.chosen? .standard file environment flags).elim true fun j =>
      (k.read? j).isSome) = true ∧ k.tables .standard file environment ≤ 1 := by decide +kernel
  obtain ⟨hlawful, hlayered⟩ := load_precedence files environment named flags file
  obtain ⟨s, hload, hobeys, hoff, -⟩ := hlayered .standard hlawful flags?_named file_eq
    (fun k j hj => by simpa [hj] using (hlayers k k.mem_all).1) fun k => (hlayers k k.mem_all).2
  have hvalues :
      (Setting.logFilter.chosen? .standard file environment flags).bind Setting.logFilter.read? =
        some "warn" ∧
      (Setting.fetchIntervalMs.chosen? .standard file environment flags).bind
        Setting.fetchIntervalMs.read? = some 7 ∧
      (Setting.pluginLogLevel.chosen? .standard file environment flags).bind
        Setting.pluginLogLevel.read? = some .off ∧
      (Setting.logFormat.chosen? .standard file environment flags).isNone = true := by
    decide +kernel
  -- a value that was read is the one that the setting has
  have hset {k : Setting} {v : k.Value} (hk : k ≠ .disablePositionalData)
      (hv : (k.chosen? .standard file environment flags).bind k.read? = some v) :
      Setting.of s k = v := by
    obtain ⟨j, hj, hv⟩ := Option.bind_eq_some_iff.1 hv
    have := hobeys k hk
    rw [Setting.Obeys, hj] at this
    exact Option.some.inj (this.trans hv)
  have hformat := hobeys .logFormat (by decide)
  rw [Setting.Obeys, Option.isNone_iff_eq_none.1 hvalues.2.2.2] at hformat
  rw [← Settings.load] at hload
  exact ⟨s, hload, hset (by decide) hvalues.1, hset (by decide) hvalues.2.1,
    hset (by decide) hvalues.2.2.1, Option.some.inj hformat, hoff⟩

end Cabinet

end PluginHost
