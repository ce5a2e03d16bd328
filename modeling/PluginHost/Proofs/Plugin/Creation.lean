import PluginHost.Proofs.Plugin.Positional
import PluginHost.Registry.Basic

/-!
# Creation and activation of one plugin

How a source becomes a plugin, how a plugin is started, and what it is asked about itself meanwhile.

* **`Plugin.Born`**: the transcript of a creation that succeeded. The loader mapped the code, and
  the plugin is driven as its exported table and its records say.
* **`Plugin.Created`** and **`create_inv`**: the three ways in which a creation ends.
* **`Plugin.Activated`** and **`activate_inv`**: the four ways in which an activation ends. A plugin
  is loaded afterwards iff it was before or its start was successful.
* **`info_inv`**: a listing asks questions and changes nothing.
-/

namespace PluginHost

open Interaction Transcript

/-! ## Validation -/

/-- The way to drive a plugin, as its exported table says or the main record of an older plugin. -/
inductive Backend.Read (who : Occupant) (table : SymbolTable) : Transcript → Backend → Prop
  | current (entries : EntryPoints) (h : EntryPoints.resolve table = .ok entries) :
      Backend.Read who table [] (.current entries)
  | legacy (a : Legacy.Adapter) (t : Transcript) (ht : Descriptive who.handle t)
      (hp : ⟨.plugin who .primaryFactory, some a.primary⟩ ∈ t)
      (hc : a.contextCache = .empty ∧ a.identityCache = .empty) :
      Backend.Read who table t (.legacy a)

namespace Legacy

variable {who : Occupant} {t : Transcript}

/-- A question that is put under a condition, with what follows in either case. -/
theorem yields_ite_bind {α β : Type} {b : Bool} {x y : Interaction α} {f : α → Interaction β}
    {a : β} (h : Yields (if b then x >>= f else y >>= f) t a) :
    ∃ u v r, t = u ++ v ∧ Yields (if b then x else y) u r ∧ Yields (f r) v a := by
  cases b <;> exact yields_bind.1 h

/-- A question that may be left out asks nothing else. -/
theorem descriptive_ite {b : Bool} {c : Call} {d r : c.Reply} (hc : c.isMetadata = true)
    (h : Yields (if b then Interaction.call who c else pure d) t r) : Descriptive who.handle t := by
  split at h
  · rw [yields_call.1 h]
    exact descriptive_singleton hc
  · rw [(yields_done.1 h).1]
    exact descriptive_nil

/-- A description is read with questions only. -/
theorem readDescription_inv {primary : LegacyPrimary} {text : String}
    (h : Yields (readDescription who primary) t text) : Descriptive who.handle t := by
  unfold readDescription at h
  split at h
  · obtain ⟨_, _, _, rfl, h₁, h₂⟩ := yields_bind.1 h
    obtain ⟨_, -, h₃⟩ := yields_map.1 h₁
    rw [yields_call.1 h₃, (yields_done.1 h₂).1, List.append_nil]
    exact descriptive_singleton rfl
  · rw [(yields_done.1 h).1]
    exact descriptive_nil

/-- Reading the records is nothing but questions, also if the plugin is refused over the answers. -/
theorem Adapter.resolve_inv {table : SymbolTable} {x : Except PluginError Adapter}
    (h : Yields (resolve who table) t x) :
    Descriptive who.handle t ∧
      ∀ a, x = .ok a → a.contextCache = .empty ∧ a.identityCache = .empty ∧
        ⟨.plugin who .primaryFactory, some a.primary⟩ ∈ t := by
  unfold resolve at h
  split at h
  · -- without the factory nothing is asked
    obtain ⟨rfl, rfl⟩ := yields_done.1 h
    exact ⟨descriptive_nil, by simp⟩
  obtain ⟨_, _, r, rfl, h₁, h₂⟩ := yields_bind.1 h
  obtain rfl := yields_call.1 h₁
  have hfirst : Descriptive who.handle [⟨.plugin who .primaryFactory, r⟩] :=
    descriptive_singleton rfl
  cases r with
  | none =>
    obtain ⟨rfl, rfl⟩ := yields_done.1 h₂
    exact ⟨hfirst.append descriptive_nil, by simp⟩
  | some primary =>
    dsimp only at h₂
    -- the main record may have the wrong number or say that the plugin was withdrawn
    split at h₂
    · obtain ⟨rfl, rfl⟩ := yields_done.1 h₂
      exact ⟨hfirst.append descriptive_nil, by simp⟩
    split at h₂
    · obtain ⟨rfl, rfl⟩ := yields_done.1 h₂
      exact ⟨hfirst.append descriptive_nil, by simp⟩
    · obtain ⟨_, _, extended, rfl, h₃, h₄⟩ := yields_ite_bind h₂
      obtain ⟨_, _, dialogs, rfl, h₅, h₆⟩ := yields_ite_bind h₄
      obtain ⟨_, _, description, rfl, h₇, h₈⟩ := yields_bind.1 h₆
      obtain ⟨rfl, rfl⟩ := yields_done.1 h₈
      refine ⟨hfirst.append ?_, ?_⟩
      · exact (descriptive_ite rfl h₃).append
          ((descriptive_ite rfl h₅).append ((readDescription_inv h₇).append descriptive_nil))
      · rintro a ha
        obtain rfl := Except.ok.inj ha
        exact ⟨rfl, rfl, by simp⟩

end Legacy

namespace Plugin

variable {p p' : Plugin} {t : Transcript}

/-- Validation asks questions only, and what it accepts suits the generation. -/
theorem validate_inv {generation : Generation} {who : Occupant} {table : SymbolTable}
    {x : Except PluginError Backend} (h : Yields (validate generation who table) t x) :
    Descriptive who.handle t ∧
      ∀ b, x = .ok b → b.Read who table t ∧ b.Suits generation := by
  unfold validate at h
  split at h
  · obtain ⟨rfl, rfl⟩ := yields_done.1 h
    refine ⟨descriptive_nil, fun b hb => ?_⟩
    cases hr : EntryPoints.resolve table with
    | error e => simp [hr, Except.map] at hb
    | ok entries =>
      obtain rfl : Backend.current entries = b := by simpa [hr, Except.map] using hb
      exact ⟨.current entries hr, table, hr⟩
  · obtain ⟨_, _, r, rfl, h₁, h₂⟩ := yields_bind.1 h
    obtain ⟨rfl, rfl⟩ := yields_done.1 h₂
    rw [List.append_nil]
    obtain ⟨hd, hok⟩ := Legacy.Adapter.resolve_inv h₁
    refine ⟨hd, fun b hb => ?_⟩
    cases r with
    | error e => simp [Except.map] at hb
    | ok a =>
      obtain rfl : Backend.legacy a = b := by simpa [Except.map] using hb
      obtain ⟨hctx, hid, hp⟩ := hok a rfl
      refine ⟨.legacy a _ hd hp ⟨hctx, hid⟩, ?_⟩
      exact ⟨hctx ▸ coherentCaches_empty.1, hid ▸ coherentCaches_empty.2⟩

/-! ## Creation -/

/-- The transcript of a creation that gave this plugin. -/
structure Born (p : Plugin) (t : Transcript) : Prop where
  /-- The loader mapped the code, and what was asked then made the plugin what it is. -/
  read : ∃ table u, t = ⟨.plugin p.who .load, some table⟩ :: u ∧ Descriptive p.handle u ∧
    p.backend.Read p.who (labelled p.who.source table) u
  sound : p.Sound
  unloaded : p.loaded = false

theorem Born.concerns (h : p.Born t) : Concerns p.handle t := by
  obtain ⟨table, u, rfl, hu, -⟩ := h.read
  exact (concerns_singleton (c := .load)).append hu.concerns

theorem Born.restful (h : p.Born t) : Restful t := by
  obtain ⟨table, u, rfl, hu, -⟩ := h.read
  exact (restful_singleton (c := .load) rfl).append hu.restful

/-- An attempt that came to nothing: the loader found no code, or it was told to let go of it after
some questions. -/
inductive Stillborn (who : Occupant) : Transcript → Prop
  | unmapped : Stillborn who [⟨.plugin who .load, none⟩]
  | refused (table : SymbolTable) (u : Transcript) (hu : Descriptive who.handle u) :
      Stillborn who (⟨.plugin who .load, some table⟩ :: u ++ [⟨.plugin who .unload, ()⟩])

theorem Stillborn.concerns {who : Occupant} (h : Stillborn who t) : Concerns who.handle t := by
  cases h with
  | unmapped => exact concerns_singleton
  | refused table u hu =>
    exact ((concerns_singleton (c := .load)).append hu.concerns).append
      (concerns_singleton (c := .unload))

theorem Stillborn.restful {who : Occupant} (h : Stillborn who t) : Restful t := by
  cases h with
  | unmapped => exact restful_singleton rfl
  | refused table u hu =>
    exact ((restful_singleton (c := .load) rfl).append hu.restful).append
      (restful_singleton (c := .unload) rfl)

/-- The ways in which an attempt to use a source ends. Each takes a handle of its own; an identity
is spent unless the code could not be mapped. -/
inductive Created (source : Source) (generation : Generation) (ledger : Ledger) :
    Transcript → Except PluginError Plugin × Ledger → Prop
  | failed (t : Transcript) (e : PluginError) (l : Ledger)
      (ht : Stillborn ⟨ledger.nextHandle, source⟩ t)
      (hl : l = ledger.newHandle.2 ∨ l = ledger.newHandle.2.allocateId.2) :
      Created source generation ledger t (.error e, l)
  | born (t : Transcript) (p : Plugin) (hp : p.Born t)
      (hw : p.who = ⟨ledger.nextHandle, source⟩) (hi : p.id = ledger.ids.next)
      (hg : p.generation = generation) :
      Created source generation ledger t (.ok p, ledger.newHandle.2.allocateId.2)

/-- **How a plugin is created.** The library is missing, or is invalid and released again, or the
plugin is born. -/
theorem create_inv {source : Source} {generation : Generation} {ledger : Ledger}
    {x : Except PluginError Plugin × Ledger} (h : Yields (create source generation ledger) t x) :
    Created source generation ledger t x := by
  obtain ⟨_, _, r, rfl, h₁, h₂⟩ := yields_bind.1 h
  obtain rfl := yields_call.1 h₁
  cases r with
  | none =>
    obtain ⟨rfl, rfl⟩ := yields_done.1 h₂
    exact .failed _ _ _ .unmapped (.inl rfl)
  | some table =>
    obtain ⟨u, _, b, rfl, h₃, h₄⟩ := yields_bind.1 h₂
    obtain ⟨hd, hok⟩ := validate_inv h₃
    cases b with
    | ok backend =>
      obtain ⟨rfl, rfl⟩ := yields_done.1 h₄
      rw [List.append_nil]
      obtain ⟨hread, hsuits⟩ := hok backend rfl
      exact .born _ _ ⟨⟨table, u, rfl, hd, hread⟩, ⟨rfl, hsuits, by simp [construct],
        by simp [construct], by simp [construct]⟩, rfl⟩ rfl rfl rfl
    | error e =>
      -- the code was mapped, so the loader has to let go of it
      obtain ⟨_, _, _, rfl, h₅, h₆⟩ := yields_bind.1 h₄
      obtain ⟨rfl, rfl⟩ := yields_done.1 h₆
      rw [yields_call.1 h₅, List.append_nil]
      exact .failed _ _ _ (.refused table u hd) (.inr rfl)

/-! ## Questions -/

theorem descriptive_heard {e : EntryPoint} {c : Call} {r : c.Reply} (hc : c.isMetadata = true) :
    Descriptive p.handle (p.heard e c r) := by
  unfold heard
  split
  · exact descriptive_singleton hc
  · exact descriptive_nil

/-- A question with a default for plugins that cannot be asked. -/
theorem callOr_descriptive {e : EntryPoint} {c : Call} {d r : c.Reply} (hc : c.isMetadata = true)
    (h : Yields (p.callOr e c d) t r) : Descriptive p.handle t := by
  rw [(callOr_inv h).1]
  exact descriptive_heard hc

theorem name_inv {s : String} (h : Yields p.name t s) : Descriptive p.handle t := by
  unfold name at h
  split at h
  · rw [(yields_done.1 h).1]
    exact descriptive_nil
  · obtain ⟨_, _, _, rfl, h₁, h₂⟩ := yields_bind.1 h
    rw [(yields_done.1 h₂).1]
    exact (callOr_descriptive rfl h₁).append descriptive_nil

theorem description_inv {s : String} (h : Yields p.description t s) : Descriptive p.handle t := by
  unfold description at h
  split at h
  · rw [(yields_done.1 h).1]
    exact descriptive_nil
  · obtain ⟨_, _, _, rfl, h₁, h₂⟩ := yields_bind.1 h
    rw [(yields_done.1 h₂).1]
    exact (callOr_descriptive rfl h₁).append descriptive_nil

theorem author_inv {s : String} (h : Yields p.author t s) : Descriptive p.handle t := by
  obtain ⟨_, _, _, rfl, h₁, h₂⟩ := yields_bind.1 h
  rw [(yields_done.1 h₂).1]
  exact (callOr_descriptive rfl h₁).append descriptive_nil

theorem version_inv {v : Version} (h : Yields p.version t v) : Descriptive p.handle t := by
  unfold version at h
  split at h
  · rw [(yields_done.1 h).1]
    exact descriptive_nil
  · exact callOr_descriptive rfl h

theorem features_inv {f : FeatureSet} (h : Yields p.features t f) : Descriptive p.handle t := by
  unfold features at h
  split at h
  · rw [(yields_done.1 h).1]
    exact descriptive_nil
  · exact callOr_descriptive rfl h

/-- What is told of a plugin is found out with questions only. -/
theorem info_inv {i : PluginInfo} (h : Yields p.info t i) : Descriptive p.handle t := by
  obtain ⟨_, _, _, rfl, h₁, h⟩ := yields_bind.1 h
  obtain ⟨_, _, _, rfl, h₂, h⟩ := yields_bind.1 h
  obtain ⟨_, _, _, rfl, h₃, h⟩ := yields_bind.1 h
  obtain ⟨_, _, _, rfl, h₄, h⟩ := yields_bind.1 h
  obtain ⟨_, _, _, rfl, h₅, h⟩ := yields_bind.1 h
  obtain ⟨_, _, _, rfl, h₆, h⟩ := yields_bind.1 h
  rw [(yields_done.1 h).1]
  exact (name_inv h₁).append ((version_inv h₂).append ((callOr_descriptive rfl h₃).append
    ((author_inv h₄).append ((description_inv h₅).append ((features_inv h₆).append
      descriptive_nil)))))

/-! ## Activation -/

/-- What a plugin hears when it is activated: it gets the function table, and is started. -/
def activation (p : Plugin) (status : Status) : Transcript :=
  p.heard .registerApi .registerApi () ++ p.opening status

theorem concerns_activation {status : Status} : Concerns p.handle (p.activation status) :=
  concerns_heard.append concerns_opening

theorem restful_activation {status : Status} : Restful (p.activation status) :=
  (restful_heard rfl).append restful_opening

/-- The ways in which an activation ends. -/
inductive Activated (p : Plugin) (allowed : Bool) :
    Transcript → Except PluginError Status × Plugin → Prop
  | already (hl : p.loaded = true) : Activated p allowed [] (.ok .ok, p)
  /-- There is no function table of the version that the plugin is written for. -/
  | unsupported (hl : p.loaded = false) (v : Version) (hv : HostTable.supports v = false) :
      Activated p allowed (p.heard .apiVersion .apiVersion v) (.error (.unsupportedApiVersion v), p)
  | refused (hl : p.loaded = false) (v : Version) (status : Status) (hs : status.isOk = false)
      (he : p.exports .init = true) :
      Activated p allowed (p.heard .apiVersion .apiVersion v ++
        (p.activation status ++ p.heard .shutdown .shutdown ())) (.ok status, p)
  | started (hl : p.loaded = false) (v : Version) (status : Status) (hs : status.isOk = true) :
      Activated p allowed (p.heard .apiVersion .apiVersion v ++ p.activation status)
        (.ok status, { p with loaded := true, enabled := allowed })

theorem Activated.handle_eq {allowed : Bool} {x : Except PluginError Status × Plugin}
    (h : p.Activated allowed t x) : x.2.handle = p.handle := by
  cases h <;> rfl

/-- The table of the host is handed out only to a plugin whose version of the interface is
supported. -/
theorem handTable_inv {x : Except PluginError Unit} (hs : p.Sound)
    (h : Yields (Registry.handTable p) t x) :
    (∃ v, HostTable.supports v = false ∧ t = p.heard .apiVersion .apiVersion v ∧
      x = .error (.unsupportedApiVersion v)) ∨
    (∃ v, t = p.heard .apiVersion .apiVersion v ++ p.heard .registerApi .registerApi () ∧
      x = .ok ()) := by
  unfold Registry.handTable at h
  split at h
  · -- an older plugin has no functions to be asked
    rename_i hg
    obtain ⟨rfl, rfl⟩ := yields_done.1 h
    exact .inr ⟨.unknown, by simp [heard, hs.not_exports hg], rfl⟩
  · obtain ⟨_, _, v, rfl, h₁, h₂⟩ := yields_bind.1 h
    obtain ⟨rfl, -⟩ := callOr_inv h₁
    unfold HostTable.require at h₂
    cases hv : HostTable.supports v with
    | false =>
      rw [hv] at h₂
      obtain ⟨rfl, rfl⟩ := yields_done.1 h₂
      exact .inl ⟨v, hv, List.append_nil _, rfl⟩
    | true =>
      rw [hv] at h₂
      obtain ⟨_, _, _, rfl, h₃, h₄⟩ := yields_bind.1 h₂
      obtain ⟨rfl, rfl⟩ := yields_done.1 h₄
      exact .inr ⟨v, by rw [registerApi_inv h₃, List.append_nil], rfl⟩

/-- **How a plugin is activated.** It is loaded already, or its version is not supported, or it
refuses to start and is shut down again, or it starts and is given the permission that goes by
default. -/
theorem activate_inv {allowed : Bool} {x : Except PluginError Status × Plugin} (hs : p.Sound)
    (h : Yields (Registry.activate allowed p) t x) : p.Activated allowed t x := by
  unfold Registry.activate at h
  cases hl : p.loaded with
  | true =>
    rw [hl] at h
    obtain ⟨rfl, rfl⟩ := yields_done.1 h
    exact .already hl
  | false =>
    simp only [hl, Bool.false_eq_true, if_false] at h
    obtain ⟨-, ha⟩ := hs.flags_of_unloaded hl
    obtain ⟨_, _, _, rfl, h₁, h₂⟩ := yields_bind.1 h
    -- without a function table of its version the plugin is not started at all
    rcases handTable_inv hs h₁ with ⟨v, hv, rfl, rfl⟩ | ⟨v, rfl, rfl⟩
    · obtain ⟨rfl, rfl⟩ := yields_done.1 h₂
      rw [List.append_nil]
      exact .unsupported hl v hv
    · obtain ⟨_, _, _, rfl, h₃, h₄⟩ := yields_bind.1 h₂
      obtain ⟨status, rfl, rfl, hinit⟩ := init_inv hs.valid hl h₃
      rw [List.append_assoc]
      cases hok : status.isOk with
      | true =>
        -- it started, and positional data is allowed or not
        simp only [hok, if_true] at h₄
        obtain ⟨_, _, q, rfl, h₅, h₆⟩ := yields_bind.1 h₄
        obtain ⟨rfl, rfl⟩ := yields_done.1 h₆
        obtain ⟨rfl, rfl⟩ : _ = [] ∧ q = { p with loaded := true, enabled := allowed } := by
          cases allowed with
          | true => exact enable_true_inv h₅
          | false =>
            obtain ⟨rfl, rfl⟩ := enable_false_inv h₅
            exact ⟨farewell_of_inactive ha, by simp [ha]⟩
        simp only [List.append_nil]
        exact .started hl v status hok
      | false =>
        -- it did not start, and is shut down although it was loaded for a moment only
        simp only [hok, Bool.false_eq_true, if_false] at h₄
        obtain ⟨_, _, q, rfl, h₅, h₆⟩ := yields_bind.1 h₄
        obtain ⟨rfl, rfl⟩ := yields_done.1 h₆
        obtain ⟨rfl, rfl⟩ := shutdown_inv hs.started h₅
        have he : p.exports .init = true := by
          cases he : p.exports .init with
          | true => rfl
          | false => simp [hinit he, Status.isOk, Status.ok] at hok
        -- nobody was active, so the only farewell is the function for shutting down
        have hclosing : closing { p with loaded := true } = p.heard .shutdown .shutdown () :=
          closing_of_inactive rfl ha
        have hasleep : asleep { p with loaded := true } = p := hs.asleep_eq hl
        rw [List.append_nil, hclosing, hasleep, ← List.append_assoc (p.heard .registerApi _ _)]
        exact .refused hl v status hok he

end Plugin

end PluginHost
