import PluginHost.Proofs.Plugin.Attempt
import PluginHost.Proofs.Registry.History
import PluginHost.Proofs.Roster.Round

/-!
# What operations ask for

Every call into a plugin serves a purpose, and an operation asks only for what serves its own.
Nothing has to be known of the registry for that.

* **`Call.purpose`**: what a call is for.
* **`Interaction.Asks`**: an interaction asks only for what serves some purposes, whatever is
  answered.
* **`perform_asks`**: the purposes of each operation.
* **`perform_offers`**, **`perform_mapped`**: positional data is offered in ticks only, and code is
  mapped in scans only.
-/

namespace PluginHost

/-- What a call is for. -/
inductive Purpose where
  | mapping
  | releasing
  | describing
  | starting
  | stopping
  | offering
  | fetching
  | forwarding
  | showing
deriving DecidableEq, Repr

def Call.purpose : Call → Purpose
  | load => .mapping
  | unload => .releasing
  | name | apiVersion | version | author | description | features | deactivateFeatures _
  | primaryFactory | extendedFactory | dialogFactory | longDescription => .describing
  | registerApi | hostInfo .. | init | registerId _ => .starting
  | shutdown | stopPositional | unlock => .stopping
  | offerPositional .. | tryLock | tryLockAmong _ => .offering
  | fetchPositional | fetchLegacy => .fetching
  | serverConnected _ | serverDisconnected _ | channelEntered .. | channelExited ..
  | talkingChanged .. | receiveData .. | audioInput .. | audioFetched .. | audioProcessed ..
  | audioOutput _ => .forwarding
  | showDialog _ => .showing

/-- A query serves one of some purposes. The process table is read in order to offer it. -/
def Query.Serves (purposes : List Purpose) : Query → Prop
  | plugin _ c => c.purpose ∈ purposes
  | processes => .offering ∈ purposes
  | _ => False

namespace Interaction

variable {α β : Type} {ps qs : List Purpose} {x : Interaction α}

/-- Whatever is answered, only what serves some purposes is asked. -/
def Asks (purposes : List Purpose) (x : Interaction α) : Prop :=
  ∀ t a, Yields x t a → ∀ e ∈ t, e.query.Serves purposes

theorem asks_done {a : α} : Asks ps (done a) := by
  intro t b h e he
  simp [(yields_done.1 h).1] at he

theorem asks_query {q : Query} (h : q.Serves ps) : Asks ps (query q) := by
  intro t r hr e he
  rw [yields_query.1 hr] at he
  rw [List.mem_singleton.1 he]
  exact h

theorem asks_call {who : Occupant} {c : Call} {purpose : Purpose} (h : c.purpose = purpose) :
    Asks [purpose] (call who c) :=
  asks_query (q := .plugin who c) (List.mem_singleton.2 h)

/-- Purposes are closed under sequence, so that what an operation asks for is read off its parts. -/
theorem Asks.bind {f : α → Interaction β} (hx : Asks ps x) (hf : ∀ a, Asks ps (f a)) :
    Asks ps (x.bind f) := by
  intro t b h e he
  obtain ⟨u, v, a, rfl, hu, hv⟩ := yields_bind.1 h
  rcases List.mem_append.1 he with he | he
  · exact hx u a hu e he
  · exact hf a v b hv e he

theorem Asks.map {f : α → β} (hx : Asks ps x) : Asks ps (f <$> x) := hx.bind fun _ => asks_done

/-- A question that is put under a condition, with what follows in either case. -/
theorem asks_ite_bind {b : Bool} {y : Interaction α} {f : α → Interaction β} (hx : Asks ps x)
    (hy : Asks ps y) (hf : ∀ a, Asks ps (f a)) : Asks ps (if b then x >>= f else y >>= f) := by
  cases b
  · exact hy.bind hf
  · exact hx.bind hf

/-- A wider list of purposes fits too. -/
theorem Asks.mono (hx : Asks ps x) (h : ps ⊆ qs) : Asks qs x := by
  intro t a ht e he
  have := hx t a ht e he
  obtain ⟨q, r⟩ := e
  cases q with
  | plugin who c => exact h this
  | processes => exact h this
  | _ => exact this

/-- Without offers among the purposes no offer is made. -/
theorem Asks.offers {t : Transcript} {a : α} (hx : Asks ps x) (hps : .offering ∉ ps)
    (h : Yields x t a) : t.offers = [] := by
  refine List.filterMap_eq_nil_iff.2 fun e he => ?_
  have hserves := hx t a h e he
  obtain ⟨q, r⟩ := e
  cases q with
  | plugin who c => cases c <;> first | rfl | exact absurd hserves hps
  | _ => rfl

/-- Without mappings among the purposes no code is mapped. -/
theorem Asks.mapped {t : Transcript} {a : α} (hx : Asks ps x) (hps : .mapping ∉ ps)
    (h : Yields x t a) : t.mapped = 0 := by
  refine List.countP_eq_zero.2 fun e he => ?_
  have hserves := hx t a h e he
  obtain ⟨q, r⟩ := e
  cases q with
  | plugin who c => cases c <;> first | exact Bool.false_ne_true | exact absurd hserves hps
  | _ => exact Bool.false_ne_true

theorem asks_traverse {f : α → Interaction β} {as : List α} (h : ∀ a, Asks ps (f a)) :
    Asks ps (traverse f as) := by
  induction as with
  | nil => exact asks_done
  | cons a as ih => exact (h a).bind fun b => ih.bind fun bs => asks_done

theorem asks_foldM {f : β → α → Interaction β} {as : List α} {b : β} (h : ∀ b a, Asks ps (f b a)) :
    Asks ps (foldM f b as) := by
  induction as generalizing b with
  | nil => exact asks_done
  | cons a as ih => exact (h b a).bind fun _ => ih

end Interaction

open Interaction

/-! ## Plugins -/

namespace Plugin

variable {p : Plugin}

theorem asks_callOr {e : EntryPoint} {c : Call} {d : c.Reply} {purpose : Purpose}
    (h : c.purpose = purpose) : Asks [purpose] (p.callOr e c d) := by
  unfold callOr
  split
  · exact asks_call h
  · exact asks_done

theorem asks_notify {e : EntryPoint} {c : Call} {purpose : Purpose} (h : c.purpose = purpose) :
    Asks [purpose] (p.notify e c) := by
  unfold notify
  split
  · exact (asks_call h).bind fun _ => asks_done
  · exact asks_done

theorem asks_stopPositional : Asks [.stopping] p.stopPositional := by
  unfold stopPositional
  split
  · exact asks_done
  · split
    · exact (asks_notify rfl).bind fun _ => asks_done
    · rename_i adapter _
      refine Asks.bind ?_ fun _ => asks_done
      unfold Legacy.Adapter.stop
      split
      · exact asks_call rfl
      · exact asks_done
    · exact asks_done

theorem asks_enable {on : Bool} : Asks [.stopping] (p.enable on) := by
  unfold enable
  split
  · exact asks_done
  · exact asks_stopPositional

theorem asks_shutdown : Asks [.stopping] p.shutdown := by
  unfold shutdown
  split
  · exact asks_done
  · exact asks_stopPositional.bind fun q => (asks_notify rfl).bind fun _ => asks_done

theorem asks_init : Asks [.starting] p.init := by
  unfold init
  split
  · exact asks_done
  · split
    · exact asks_done
    · split
      · exact (asks_notify rfl).bind fun _ => (asks_callOr rfl).bind fun _ =>
          (asks_notify rfl).bind fun _ => asks_done
      · exact asks_done

theorem asks_registerApi : Asks [.starting] p.registerApi := asks_notify rfl

theorem asks_drop : Asks [.releasing, .stopping] p.drop :=
  (asks_shutdown.mono (by decide)).bind fun _ => (asks_call rfl).mono (by decide)

theorem asks_name : Asks [.describing] p.name := by
  unfold name
  split
  · exact asks_done
  · exact (asks_callOr rfl).bind fun _ => asks_done

theorem asks_description : Asks [.describing] p.description := by
  unfold description
  split
  · exact asks_done
  · exact (asks_callOr rfl).bind fun _ => asks_done

theorem asks_author : Asks [.describing] p.author :=
  (asks_callOr rfl).bind fun _ => asks_done

theorem asks_version : Asks [.describing] p.version := by
  unfold version
  split
  · exact asks_done
  · exact asks_callOr rfl

theorem asks_apiVersion : Asks [.describing] p.apiVersion := asks_callOr rfl

theorem asks_features : Asks [.describing] p.features := by
  unfold features
  split
  · exact asks_done
  · exact asks_callOr rfl

theorem asks_info : Asks [.describing] p.info :=
  asks_name.bind fun _ => asks_version.bind fun _ => asks_apiVersion.bind fun _ =>
    asks_author.bind fun _ => asks_description.bind fun _ => asks_features.bind fun _ => asks_done

theorem asks_offer {processes : List Process} : Asks [.offering] (p.offer processes) := by
  unfold offer
  split
  · exact (asks_callOr rfl).bind fun _ => asks_done
  · refine Asks.bind ?_ fun _ => asks_done
    unfold Legacy.Adapter.offer
    split
    · exact (asks_call rfl).bind fun _ => asks_done
    · split
      · exact (asks_call rfl).bind fun _ => asks_done
      · exact asks_done
  · exact asks_done

theorem asks_fetch {s : Snapshot} : Asks [.fetching] (p.fetch s) := by
  unfold fetch
  split
  · split
    · exact (asks_call rfl).bind fun _ => asks_done
    · exact asks_done
  · refine Asks.bind ?_ fun _ => asks_done
    unfold Legacy.Adapter.fetch
    split
    · exact asks_done
    · exact (asks_call rfl).bind fun _ => asks_done
  · exact asks_done

theorem asks_notifyOf {n : Notification} : Asks [.forwarding] (p.notifyOf n) := by
  cases n <;> exact asks_notify rfl

theorem asks_receive {m : Message} : Asks [.forwarding] (p.receive m) := by
  unfold receive
  split
  · exact asks_done
  · exact asks_callOr rfl

theorem asks_audioInput {samples : List Int16} {channels : UInt16} {speech : Bool} :
    Asks [.forwarding] (p.audioInput samples channels speech) := by
  unfold audioInput
  split
  · exact asks_done
  · exact (asks_callOr rfl).bind fun _ => asks_done

theorem asks_audioStage {stage : AudioStage} {samples : List Binary32} {channels : UInt16} :
    Asks [.forwarding] (p.audioStage stage samples channels) := by
  unfold audioStage
  split
  · exact asks_done
  · cases stage <;> exact (asks_callOr rfl).bind fun _ => asks_done

end Plugin

namespace Legacy

variable {who : Occupant}

theorem asks_readDescription {primary : LegacyPrimary} :
    Asks [.describing] (readDescription who primary) :=
  asks_ite_bind (asks_call rfl).map asks_done fun _ => asks_done

theorem Adapter.asks_resolve {table : SymbolTable} :
    Asks [.describing] (Adapter.resolve who table) := by
  unfold resolve
  split
  · exact asks_done
  refine (asks_call rfl).bind fun r => ?_
  cases r with
  | none => exact asks_done
  | some primary =>
    dsimp only
    split
    · exact asks_done
    split
    · exact asks_done
    · exact asks_ite_bind (asks_call rfl) asks_done fun _ =>
        asks_ite_bind (asks_call rfl) asks_done fun _ =>
          asks_readDescription.bind fun _ => asks_done

end Legacy

namespace Plugin

theorem asks_validate {generation : Generation} {who : Occupant} {table : SymbolTable} :
    Asks [.describing] (validate generation who table) := by
  unfold validate
  split
  · exact asks_done
  · exact Legacy.Adapter.asks_resolve.bind fun _ => asks_done

/-- Creating a plugin maps a library, reads descriptions and may release the library again. -/
theorem asks_create {source : Source} {generation : Generation} {ledger : Ledger} :
    Asks [.mapping, .releasing, .describing] (create source generation ledger) := by
  refine ((asks_call rfl).mono (by decide)).bind fun r => ?_
  cases r with
  | none => exact asks_done
  | some table =>
    refine (asks_validate.mono (by decide)).bind fun b => ?_
    cases b with
    | ok backend => exact asks_done
    | error e => exact ((asks_call rfl).mono (by decide)).bind fun _ => asks_done

end Plugin

/-! ## Rosters -/

namespace Roster

variable {r : Roster}

/-- Offers in turn also end the session of a plugin that declines for good. -/
theorem asks_offerInTurn {processes : List Process} {cs : List Plugin} :
    Asks [.offering, .stopping] (offerInTurn processes cs r) := by
  induction cs generalizing r with
  | nil => exact asks_done
  | cons c cs ih =>
    unfold offerInTurn
    split
    · exact ih
    · refine (Plugin.asks_offer.mono (by decide)).bind fun x => ?_
      obtain ⟨code, p⟩ := x
      dsimp only
      split
      · exact asks_done
      · split
        · exact (Plugin.asks_enable.mono (by decide)).bind fun _ => ih
        · exact ih

theorem asks_arbitrate {order : List Nat} :
    Asks [.offering, .stopping] (r.arbitrate order) := by
  unfold arbitrate
  split
  · exact asks_done
  · dsimp only
    split
    · exact asks_done
    · exact (asks_query (q := .processes) (by simp [Query.Serves])).bind fun _ => asks_offerInTurn

theorem asks_release : Asks [.stopping] r.release := by
  unfold release
  split
  · exact asks_done
  · exact Plugin.asks_stopPositional.bind fun _ => asks_done

theorem asks_releaseIf {id : PluginId} : Asks [.stopping] (r.releaseIf id) := by
  unfold releaseIf
  split
  · exact asks_done
  · split
    · exact asks_release.bind fun _ => asks_done
    · exact asks_done

end Roster

/-! ## Registries -/

namespace Registry

variable {r : Registry}

theorem asks_activate {allowed : Bool} {p : Plugin} :
    Asks [.describing, .starting, .stopping] (activate allowed p) := by
  unfold activate
  split
  · exact asks_done
  refine Asks.bind ?_ fun x => ?_
  · unfold handTable
    split
    · exact asks_done
    · refine (Plugin.asks_apiVersion.mono (by decide)).bind fun v => ?_
      split
      · exact asks_done
      · exact (Plugin.asks_registerApi.mono (by decide)).bind fun _ => asks_done
  · split
    · exact asks_done
    · refine (Plugin.asks_init.mono (by decide)).bind fun x => ?_
      obtain ⟨status, p⟩ := x
      dsimp only
      split
      · exact (Plugin.asks_enable.mono (by decide)).bind fun _ => asks_done
      · exact (Plugin.asks_shutdown.mono (by decide)).bind fun _ => asks_done

theorem asks_dropAll {ps : List Plugin} : Asks [.releasing, .stopping] (dropAll ps) := by
  induction ps with
  | nil => exact asks_done
  | cons p ps ih => exact Plugin.asks_drop.bind fun _ => ih

theorem asks_instantiateAll {fs : FileSystem} {ledger : Ledger} {paths : List Path} :
    Asks [.mapping, .releasing, .describing] (instantiateAll fs ledger paths) := by
  induction paths generalizing ledger with
  | nil => exact asks_done
  | cons path paths ih =>
    refine Asks.bind ?_ fun x => ih.bind fun _ => asks_done
    refine Plugin.asks_create.bind fun x => ?_
    obtain ⟨result, ledger⟩ := x
    cases result with
    | ok p => exact asks_done
    | error e => exact Plugin.asks_create.bind fun _ => asks_done

theorem asks_instantiateBuiltIns {index : Nat} {ledger : Ledger} {bs : List BuiltIn} :
    Asks [.mapping, .releasing, .describing] (instantiateBuiltIns index ledger bs) := by
  induction bs generalizing index ledger with
  | nil => exact asks_done
  | cons b bs ih => exact Plugin.asks_create.bind fun _ => ih.bind fun _ => asks_done

theorem asks_rescan {fs : FileSystem} :
    Asks [.mapping, .releasing, .describing, .starting, .stopping] (rescan fs r) :=
  (Roster.asks_release.mono (by decide)).bind fun _ =>
    (asks_dropAll.mono (by decide)).bind fun _ =>
      (asks_instantiateAll.mono (by decide)).bind fun _ =>
        (asks_instantiateBuiltIns.mono (by decide)).bind fun _ =>
          ((asks_traverse fun _ => asks_activate.map).mono (by decide)).bind fun _ =>
            (asks_dropAll.mono (by decide)).bind fun _ => asks_done

theorem asks_load {id : PluginId} :
    Asks [.describing, .starting, .stopping] (r.load id) := by
  unfold load
  split
  · exact asks_done
  · exact asks_activate.bind fun _ => asks_done

theorem asks_unload {id : PluginId} : Asks [.stopping] (r.unload id) := by
  unfold unload
  split
  · exact asks_done
  · refine Roster.asks_releaseIf.bind fun x => ?_
    dsimp only
    split
    · exact asks_done
    · exact Plugin.asks_shutdown.bind fun _ => asks_done

theorem asks_enableFor {id : PluginId} {on : Bool} : Asks [.stopping] (r.enableFor id on) := by
  unfold enableFor
  split
  · exact asks_done
  · refine asks_ite_bind asks_done Roster.asks_releaseIf.map fun o => ?_
    dsimp only
    split
    · exact asks_done
    · exact Plugin.asks_enable.bind fun _ => asks_done

theorem asks_tick : Asks [.offering, .fetching, .stopping] r.tick := by
  refine (Roster.asks_arbitrate.mono (by decide)).bind fun o => ?_
  split
  · exact asks_done
  · refine (Plugin.asks_fetch.mono (by decide)).bind fun x => ?_
    obtain ⟨proceed, p, snapshot⟩ := x
    dsimp only
    split
    · exact asks_done
    · exact (Roster.asks_release.mono (by decide)).bind fun _ =>
        (Roster.asks_arbitrate.mono (by decide)).bind fun _ => asks_done

theorem asks_receive {m : Message} : Asks [.forwarding] (r.receive m) := by
  unfold receive
  induction r.loadedPlugins with
  | nil => exact asks_done
  | cons p ps ih =>
    refine Plugin.asks_receive.bind fun handled => ?_
    cases handled
    · exact ih
    · exact asks_done

theorem asks_pipeline {α : Type} {hook : Plugin → List α → Interaction (Bool × List α)}
    {ps : List Plugin} {samples : List α} (h : ∀ p samples, Asks [.forwarding] (hook p samples)) :
    Asks [.forwarding] (pipeline hook ps samples) :=
  asks_foldM fun x p => (h p x.2).bind fun _ => asks_done

theorem asks_infos {sorted : Bool} : Asks [.describing] (r.infos sorted) := by
  refine Asks.bind ?_ fun _ => asks_traverse fun _ => Plugin.asks_info
  unfold listing
  split
  · exact asks_done
  · exact (asks_traverse fun _ => Plugin.asks_name.bind fun _ => asks_done).bind fun _ => asks_done

end Registry

/-! ## Operations -/

/-- What an operation may ask for. -/
def Operation.purposes : Operation → List Purpose
  | rescan _ => [.mapping, .releasing, .describing, .starting, .stopping]
  | load _ => [.describing, .starting, .stopping]
  | unload _ | enableFor .. => [.stopping]
  | tick => [.offering, .fetching, .stopping]
  | notify _ | receive _ | audioInput .. | audioStage .. => [.forwarding]
  | infos _ => [.describing]
  | allowByDefault _ | registerBuiltIn _ => []

/-- What each operation asks for. -/
theorem perform_asks (op : Operation) (r : Registry) : Asks op.purposes (op.perform r) := by
  cases op with
  | rescan => exact Registry.asks_rescan.map
  | load => exact Registry.asks_load.map
  | unload => exact Registry.asks_unload.map
  | enableFor => exact Registry.asks_enableFor
  | tick => exact Registry.asks_tick.map
  | notify =>
    exact ((asks_traverse fun _ => Plugin.asks_notifyOf).bind fun _ => asks_done).map
  | receive => exact Registry.asks_receive.map
  | audioInput => exact (Registry.asks_pipeline fun _ _ => Plugin.asks_audioInput).map
  | audioStage => exact (Registry.asks_pipeline fun _ _ => Plugin.asks_audioStage).map
  | infos => exact Registry.asks_infos.map
  | allowByDefault | registerBuiltIn => exact asks_done

variable {op : Operation} {r s : Registry} {t : Transcript}

/-- Positional data is offered in ticks only. -/
theorem perform_offers (hop : op ≠ .tick) (h : Yields (op.perform r) t s) : t.offers = [] := by
  refine (perform_asks op r).offers ?_ h
  cases op <;> first | exact absurd rfl hop | simp [Operation.purposes]

/-- Code is mapped in scans only. -/
theorem perform_mapped (hop : ∀ fs, op ≠ .rescan fs) (h : Yields (op.perform r) t s) :
    t.mapped = 0 := by
  refine (perform_asks op r).mapped ?_ h
  cases op <;> first | exact absurd rfl (hop _) | simp [Operation.purposes]

end PluginHost
