import PluginHost.Proofs.Plugin.Alone
import PluginHost.Proofs.Plugin.Step

/-!
# Sessions of one plugin

A plugin that accepts an offer of positional data begins a session, and hears of its end. Here a
plugin is used by itself, with no registry around it: any operations in any order, whatever it
answers.

* **`Plugin.Demand`**: the operations on a plugin. **`Demand.perform`**: the plugin after one of
  them.
* **`Plugin.Turn`** and **`Demand.turn`**: an operation leaves the session alone, begins one, or
  ends it.
* **`Plugin.Used`**: operations one after the other, with the number of sessions that began in them.
* **`Used.balanced`**: each session that began has ended, and the plugin heard of that, or goes on.
* **`sessions_end_iff`**: when a plugin is let go of, it has heard of the end of every session,
  unless it is active without being loaded.
-/

namespace PluginHost

namespace Plugin

open Interaction Transcript

variable {p p' q q' : Plugin} {t u : Transcript} {n : Nat}

/-! ## Operations -/

/-- An operation on a plugin, with its arguments. -/
inductive Demand where
  | init
  | shutdown
  | enable (on : Bool)
  | registerApi
  | offer (processes : List Process)
  | fetch (s : Snapshot)
  | stopPositional
  | name
  | description
  | author
  | version
  | apiVersion
  | features
  | deactivateFeatures (requested : FeatureSet)
  | info
  | showAbout
  | showConfig
  | notifyOf (n : Notification)
  | receive (m : Message)
  | audioInput (samples : List Int16) (channels : UInt16) (speech : Bool)
  | audioStage (stage : AudioStage) (samples : List Binary32) (channels : UInt16)

/-- Puts a question to a plugin, which stays what it is. -/
def asked {α : Type} (p : Plugin) (x : Interaction α) : Interaction Plugin := (fun _ => p) <$> x

/-- The plugin after an operation. -/
def Demand.perform (p : Plugin) : Demand → Interaction Plugin
  | init => Prod.snd <$> p.init
  | shutdown => p.shutdown
  | enable on => p.enable on
  | registerApi => p.asked p.registerApi
  | offer processes => Prod.snd <$> p.offer processes
  | fetch s => (·.2.1) <$> p.fetch s
  | stopPositional => p.stopPositional
  | name => p.asked p.name
  | description => p.asked p.description
  | author => p.asked p.author
  | version => p.asked p.version
  | apiVersion => p.asked p.apiVersion
  | features => p.asked p.features
  | deactivateFeatures requested => p.asked (p.deactivateFeatures requested)
  | info => p.asked p.info
  | showAbout => p.asked p.showAbout
  | showConfig => p.asked p.showConfig
  | notifyOf n => p.asked (p.notifyOf n)
  | receive m => p.asked (p.receive m)
  | audioInput samples channels speech => p.asked (p.audioInput samples channels speech)
  | audioStage stage samples channels => p.asked (p.audioStage stage samples channels)

/-! ## What operations ask for -/

theorem asks_deactivateFeatures {requested : FeatureSet} :
    Asks [.describing] (p.deactivateFeatures requested) := asks_callOr rfl

theorem asks_showDialog {who : Occupant} {d : Option Dialog} :
    Asks [.showing] (Legacy.Adapter.showDialog who d) := by
  cases d with
  | none => exact asks_done
  | some d => exact (asks_call rfl).bind fun _ => asks_done

/-- What serves other purposes than stopping ends no session. -/
theorem stops_of_asks {α : Type} {x : Interaction α} {a : α} {ps : List Purpose} (hx : Asks ps x)
    (hps : .stopping ∉ ps) (h : Yields x t a) : t.stops = [] := by
  refine List.filter_eq_nil_iff.2 fun e he => ?_
  have hserves := hx t a h e he
  obtain ⟨query, r⟩ := e
  cases query with
  | plugin who c => cases c <;> first | exact Bool.false_ne_true | exact absurd hserves hps
  | _ => exact Bool.false_ne_true

/-- What a plugin is used for. Its code is mapped before and released afterwards. -/
def Demand.purposes : List Purpose :=
  [.describing, .starting, .stopping, .offering, .fetching, .forwarding, .showing]

/-- No operation maps code or releases it. -/
theorem Demand.asks_perform (d : Demand) : Asks purposes (d.perform p) := by
  cases d with
  | init => exact (asks_init.mono (by decide)).map
  | shutdown => exact asks_shutdown.mono (by decide)
  | enable on => exact asks_enable.mono (by decide)
  | registerApi => exact (asks_registerApi.mono (by decide)).map
  | offer processes => exact (asks_offer.mono (by decide)).map
  | fetch s => exact (asks_fetch.mono (by decide)).map
  | stopPositional => exact asks_stopPositional.mono (by decide)
  | name => exact (asks_name.mono (by decide)).map
  | description => exact (asks_description.mono (by decide)).map
  | author => exact (asks_author.mono (by decide)).map
  | version => exact (asks_version.mono (by decide)).map
  | apiVersion => exact (asks_apiVersion.mono (by decide)).map
  | features => exact (asks_features.mono (by decide)).map
  | deactivateFeatures requested => exact (asks_deactivateFeatures.mono (by decide)).map
  | info => exact (asks_info.mono (by decide)).map
  | showAbout => exact (asks_showDialog.mono (by decide)).map
  | showConfig => exact (asks_showDialog.mono (by decide)).map
  | notifyOf n => exact (asks_notifyOf.mono (by decide)).map
  | receive m => exact (asks_receive.mono (by decide)).map
  | audioInput samples channels speech => exact (asks_audioInput.mono (by decide)).map
  | audioStage stage samples channels => exact (asks_audioStage.mono (by decide)).map

/-! ## Sessions -/

/-- Positional data can be offered to the plugin with some success. -/
def CanBegin (p : Plugin) : Prop :=
  p.exports .offerPositional = true ∨ ∃ a, p.backend = .legacy a

/-- An older plugin hears of the end of a session through a callback, which it may not have. -/
def HearsEnds (p : Plugin) : Prop := ∀ a, p.backend = .legacy a → a.primary.hasUnlock = true

theorem canBegin_newborn : p.newborn.CanBegin ↔ p.CanBegin := by
  unfold CanBegin
  rw [exports_newborn]
  refine or_congr_right ?_
  unfold newborn asleep withCaches
  cases hb : p.backend <;> simp

/-- At most one call ends a session. -/
theorem parting_of_mem {e : Exchange} (h : e ∈ p.parting) : p.parting = [e] := by
  unfold parting heard at h ⊢
  repeat' split at h
  all_goals simp_all

/-- A plugin in which sessions can begin hears of their end, in one call. -/
theorem Sound.length_parting (hs : p.Sound) (hh : p.HearsEnds) (hc : p.CanBegin) :
    p.parting.length = 1 := by
  unfold parting
  cases hb : p.backend with
  | current e =>
    have hx : p.exports .offerPositional = true := by
      obtain hx | ⟨a, ha⟩ := hc
      · exact hx
      · simp [hb] at ha
    simp [heard, hs.exports_stop hx]
  | legacy a => simp [hh a hb]
  | unresolved =>
    have := hs.suits
    simp [hb, Backend.Suits] at this

/-- What an operation does to the session of a plugin. -/
inductive Turn (p : Plugin) (t : Transcript) (p' : Plugin) : Prop
  | goesOn (ht : t.stops = []) (ha : p'.active = p.active)
  | begins (hc : p.CanBegin) (ht : t.stops = []) (ha : p'.active = true)
  | ends (ht : t.stops = p.farewell) (ha : p'.active = false)

theorem stops_farewell : p.farewell.stops = p.farewell := by
  unfold farewell
  split
  · exact stops_parting
  · rfl

/-- A shutdown ends the session and nothing else. -/
theorem stops_closing : p.closing.stops = if p.loaded then p.farewell else [] := by
  have hquiet : (p.heard .shutdown .shutdown ()).stops = [] := by
    unfold heard
    split <;> rfl
  unfold closing
  split
  · rw [stops_append, stops_farewell, hquiet, List.append_nil]
  · rfl

/-- A question about a plugin, an event or a dialog leaves it alone. -/
theorem asked_turn {α : Type} {x : Interaction α} {ps : List Purpose} (hx : Asks ps x)
    (hps : .stopping ∉ ps) (h : Yields (p.asked x) t p') :
    p.Turn t p' ∧ p'.newborn = p.newborn := by
  obtain ⟨a, rfl, ha⟩ := yields_map.1 h
  exact ⟨.goesOn (stops_of_asks hx hps ha) rfl, rfl⟩

/-- An offer begins a session or leaves everything as it is. -/
theorem offer_turn {processes : List Process} {x : OfferCode × Plugin}
    (h : Yields (p.offer processes) t x) : p.Turn t x.2 ∧ x.2.newborn = p.newborn := by
  have hquiet := stops_of_asks asks_offer (by decide) h
  obtain ⟨hoffered, hx⟩ := offer_cases h
  rw [hx]
  by_cases hok : x.1 = .ok
  · rw [if_pos hok]
    refine ⟨.begins ?_ hquiet rfl, rfl⟩
    -- who accepted could be asked
    generalize x.1 = code at hoffered hok
    obtain hoffered | ⟨-, -, rfl⟩ := hoffered
    · cases hoffered with
      | unable => simp [OfferCode.ok, OfferCode.permanent] at hok
      | asked e hb he => exact .inl (by simpa [exports, hb] using he)
      | lockless a hb | locked a hb | lockedAmong a hb => exact .inr ⟨a, hb⟩
    · simp [OfferCode.ok, OfferCode.permanent] at hok
  · rw [if_neg hok]
    exact ⟨.goesOn hquiet rfl, rfl⟩

/-- Each operation does one thing to the session, and no operation makes another plugin of it. -/
theorem Demand.turn (d : Demand) (h : Yields (d.perform p) t p') :
    p.Turn t p' ∧ p'.newborn = p.newborn := by
  cases d with
  | init =>
    obtain ⟨x, rfl, hx⟩ := yields_map.1 h
    have hquiet := stops_of_asks asks_init (by decide) hx
    obtain hp | hp := init_result hx <;> rw [hp] <;> exact ⟨.goesOn hquiet rfl, rfl⟩
  | shutdown =>
    obtain ⟨rfl, rfl⟩ := shutdown_cases h
    cases hl : p.loaded with
    | true => exact ⟨.ends (by rw [stops_closing, if_pos hl]) rfl, rfl⟩
    | false => exact ⟨.goesOn (by simp [stops_closing, hl]) rfl, rfl⟩
  | enable on =>
    cases on with
    | true =>
      obtain ⟨rfl, rfl⟩ := enable_true_inv h
      cases p.loaded <;> exact ⟨.goesOn rfl rfl, rfl⟩
    | false =>
      obtain ⟨rfl, rfl⟩ := enable_false_inv h
      exact ⟨.ends stops_farewell rfl, rfl⟩
  | stopPositional =>
    obtain ⟨rfl, rfl⟩ := stopPositional_inv h
    exact ⟨.ends stops_farewell rfl, rfl⟩
  | offer processes =>
    obtain ⟨x, rfl, hx⟩ := yields_map.1 h
    exact offer_turn hx
  | fetch s =>
    obtain ⟨x, rfl, hx⟩ := yields_map.1 h
    have hquiet := stops_of_asks asks_fetch (by decide) hx
    obtain ⟨c, hp⟩ := fetch_result hx
    exact ⟨.goesOn hquiet (by rw [hp, active_withCaches]), by rw [hp, newborn_withCaches]⟩
  | registerApi => exact asked_turn asks_registerApi (by decide) h
  | name => exact asked_turn asks_name (by decide) h
  | description => exact asked_turn asks_description (by decide) h
  | author => exact asked_turn asks_author (by decide) h
  | version => exact asked_turn asks_version (by decide) h
  | apiVersion => exact asked_turn asks_apiVersion (by decide) h
  | features => exact asked_turn asks_features (by decide) h
  | deactivateFeatures requested => exact asked_turn asks_deactivateFeatures (by decide) h
  | info => exact asked_turn asks_info (by decide) h
  | showAbout => exact asked_turn asks_showDialog (by decide) h
  | showConfig => exact asked_turn asks_showDialog (by decide) h
  | notifyOf n => exact asked_turn asks_notifyOf (by decide) h
  | receive m => exact asked_turn asks_receive (by decide) h
  | audioInput samples channels speech => exact asked_turn asks_audioInput (by decide) h
  | audioStage stage samples channels => exact asked_turn asks_audioStage (by decide) h

/-! ## Use -/

/-- Whether a session began between two moments. -/
def begun (p p' : Plugin) : Nat := if !p.active && p'.active then 1 else 0

/-- Operations on a plugin one after the other, and how many sessions began in them. -/
inductive Used (p : Plugin) : Nat → Transcript → Plugin → Prop
  | unused : Used p 0 [] p
  | tail {n : Nat} {t u : Transcript} {q q' : Plugin} (h : Used p n t q) (d : Demand)
      (hd : Yields (d.perform q) u q') : Used p (n + begun q q') (t ++ u) q'

/-- Each session that began is over, and the plugin heard of that, or is the one that goes on. -/
structure Balanced (p : Plugin) (n : Nat) (t : Transcript) (q : Plugin) : Prop where
  newborn_eq : q.newborn = p.newborn
  canBegin : q.active = true → p.CanBegin
  own : ∀ e ∈ t.stops, p.parting = [e]
  heard : p.HearsEnds → n = t.stops.length + q.active.toNat

namespace Balanced

theorem parting_eq (h : p.Balanced n t q) : q.parting = p.parting := by
  rw [← parting_newborn, h.newborn_eq, parting_newborn]

/-- Ending the session of a plugin is heard of once, if there is one. -/
theorem length_farewell (h : p.Balanced n t q) (hs : p.Sound) (hh : p.HearsEnds) :
    q.farewell.length = q.active.toNat := by
  cases ha : q.active with
  | false => rw [farewell_of_inactive ha]; rfl
  | true =>
    rw [farewell_of_active ha, h.parting_eq, hs.length_parting hh (h.canBegin ha)]
    rfl

theorem own_farewell (h : p.Balanced n t q) {e : Exchange} (he : e ∈ q.farewell) :
    p.parting = [e] := by
  unfold farewell at he
  split at he
  · rw [h.parting_eq] at he
    exact parting_of_mem he
  · simp at he

/-- **One operation keeps the balance.** The cases are those of a turn: a session goes on, begins or
ends. -/
theorem tail (h : p.Balanced n t q) (hs : p.Sound) (ht : q.Turn u q')
    (hq : q'.newborn = q.newborn) : p.Balanced (n + begun q q') (t ++ u) q' := by
  have hnew : q'.newborn = p.newborn := hq.trans h.newborn_eq
  cases ht with
  | goesOn hu ha =>
    refine ⟨hnew, fun h' => h.canBegin (ha ▸ h'), ?_, fun hh => ?_⟩ <;>
      rw [stops_append, hu, List.append_nil]
    · exact h.own
    · rw [h.heard hh, begun, ha]
      cases q.active <;> rfl
  | begins hc hu ha =>
    refine ⟨hnew, fun _ => ?_, ?_, fun hh => ?_⟩
    · rw [← canBegin_newborn, ← h.newborn_eq, canBegin_newborn]
      exact hc
    · rw [stops_append, hu, List.append_nil]
      exact h.own
    · rw [stops_append, hu, List.append_nil, h.heard hh, begun, ha]
      cases q.active <;> rfl
  | ends hu ha =>
    refine ⟨hnew, fun h' => by simp [ha] at h', ?_, fun hh => ?_⟩
    · rw [stops_append, hu]
      exact fun e he => (List.mem_append.1 he).elim (h.own e) h.own_farewell
    · rw [stops_append, hu, List.length_append, h.length_farewell hs hh, h.heard hh, begun, ha]
      cases q.active <;> rfl

end Balanced

/-- The sessions that began are over or go on, after any use. -/
theorem Used.balanced (hs : p.Sound) (ha : p.active = false) (h : p.Used n t q) :
    p.Balanced n t q := by
  induction h with
  | unused => exact ⟨rfl, by simp [ha], by simp [stops], by simp [stops, ha]⟩
  | tail _ d hd ih => exact ih.tail hs (d.turn hd).1 (d.turn hd).2

/-- No code is released in a transcript. -/
def KeepsCode (t : Transcript) : Prop := ∀ e ∈ t, ∀ who, e.query ≠ .plugin who .unload

theorem keepsCode_of_asks {α : Type} {x : Interaction α} {a : α} {ps : List Purpose}
    (hx : Asks ps x) (hps : .releasing ∉ ps) (h : Yields x t a) : KeepsCode t := by
  intro e he who hunload
  have hserves := hx t a h e he
  rw [hunload] at hserves
  exact hps hserves

theorem Used.keepsCode (h : p.Used n t q) : KeepsCode t := by
  induction h with
  | unused => simp [KeepsCode]
  | tail _ d hd ih =>
    have hu := keepsCode_of_asks d.asks_perform (by decide) hd
    exact fun e he => (List.mem_append.1 he).elim (ih e) (hu e)

/-- The code is released last. -/
theorem drop_keepsCode {x : Unit} (h : Yields p.drop t x) :
    t = p.closing ++ [⟨.plugin p.who .unload, ()⟩] ∧ KeepsCode p.closing := by
  refine ⟨drop_inv h, ?_⟩
  obtain ⟨_, _, _, -, hshutdown, -⟩ := yields_bind.1 h
  rw [← (shutdown_cases hshutdown).1]
  exact keepsCode_of_asks asks_shutdown (by decide) hshutdown

/-! ## Recorded use -/

/-- One more operation, in a world that answers each query always in the same way. -/
def useOnce (answer : (q : Query) → q.Reply) (a : Nat × Transcript × Plugin) (d : Demand) :
    Nat × Transcript × Plugin :=
  let x := (d.perform a.2.2).record answer
  (a.1 + begun a.2.2 x.2, a.2.1 ++ x.1, x.2)

/-- The sessions that begin, what is asked, and the plugin afterwards. -/
def recordUse (answer : (q : Query) → q.Reply) (p : Plugin) (ds : List Demand) :
    Nat × Transcript × Plugin :=
  ds.foldl (useOnce answer) (0, [], p)

/-- Operations that are carried out with fixed answers are a use. -/
theorem used_recordUse (answer : (q : Query) → q.Reply) (p : Plugin) (ds : List Demand) :
    p.Used (p.recordUse answer ds).1 (p.recordUse answer ds).2.1 (p.recordUse answer ds).2.2 := by
  suffices hfold : ∀ a : Nat × Transcript × Plugin, p.Used a.1 a.2.1 a.2.2 →
      let b := ds.foldl (useOnce answer) a
      p.Used b.1 b.2.1 b.2.2 from hfold (0, [], p) .unused
  induction ds with
  | nil => exact fun _ h => h
  | cons d ds ih => exact fun a h => ih (useOnce answer a d) (h.tail d (yields_record answer _))

/-! ## The end -/

/-- A plugin that was created is used and let go of. Its code is released once, at the end. The
calls that end a session are its own, and it got one for each session that began, unless it was
active without being loaded when it was let go of: then the last session did not end. -/
theorem sessions_end_iff {source : Source} {generation : Generation} {ledger ledger' : Ledger}
    {t₀ : Transcript} {x : Unit}
    (hcreate : Yields (create source generation ledger) t₀ (.ok p, ledger'))
    (hused : p.Used n t q) (hdrop : Yields q.drop u x) :
    (∃ w, t ++ u = w ++ [⟨.plugin p.who .unload, ()⟩] ∧ KeepsCode w) ∧
    (∀ e ∈ (t ++ u).stops, p.parting = [e]) ∧
    (p.HearsEnds →
      n = (t ++ u).stops.length + (q.active && !q.loaded).toNat ∧
      (n = (t ++ u).stops.length ↔ (q.active = true → q.loaded = true))) := by
  obtain ⟨hs, hunloaded⟩ : p.Sound ∧ p.loaded = false := by
    cases create_inv hcreate with
    | born p hp => exact ⟨hp.sound, hp.unloaded⟩
  have hb := hused.balanced hs (hs.flags_of_unloaded hunloaded).2
  obtain ⟨rfl, hkeeps⟩ := drop_keepsCode hdrop
  have hwho : q.who = p.who := by rw [← who_newborn, hb.newborn_eq, who_newborn]
  have hstops : stops (t ++ (q.closing ++ [⟨.plugin q.who .unload, ()⟩])) =
      t.stops ++ if q.loaded then q.farewell else [] := by
    rw [stops_append, stops_append, stops_closing]
    simp [stops, Exchange.isStop]
  rw [hstops]
  refine ⟨⟨t ++ q.closing, by rw [hwho, List.append_assoc], fun e he => ?_⟩, ?_, fun hh => ?_⟩
  · exact (List.mem_append.1 he).elim (hused.keepsCode e) (hkeeps e)
  · intro e he
    refine (List.mem_append.1 he).elim (hb.own e) fun he => ?_
    split at he
    · exact hb.own_farewell he
    · simp at he
  · have hcount := hb.heard hh
    have hlast := hb.length_farewell hs hh
    cases hl : q.loaded <;> cases ha : q.active <;> simp_all

/-! ## A plugin by itself -/

/-- One of the plugins of a duo, when it was created. -/
def soloist : Plugin :=
  ⟨⟨0, .builtIn 0⟩, 1, .current, "duo", .current (.ofTable Duo.table), true, false, false, false⟩

theorem create_soloist :
    Yields (create (.builtIn 0) .current .initial)
      [⟨.plugin ⟨0, .builtIn 0⟩ .load, some Duo.table⟩] (.ok soloist, ⟨⟨2⟩, 1⟩) :=
  yields_record (Duo.answer .zero) (create (.builtIn 0) .current .initial)

/-- It takes an offer before it is started, and is let go of: the session that began does not
end. -/
theorem session_unended :
    ∃ t₀ l t u q, Yields (create (.builtIn 0) .current .initial) t₀ (.ok soloist, l) ∧
      soloist.HearsEnds ∧ soloist.Used 1 t q ∧ Yields q.drop u () ∧ (t ++ u).stops.length ≠ 1 := by
  refine ⟨_, _, _, _, _, create_soloist, by simp [HearsEnds, soloist],
    used_recordUse (Duo.answer .zero) soloist [.offer []],
    yields_record (Duo.answer .zero) _, ?_⟩
  decide +kernel

/-- It takes two offers and is started in between: the first session is stopped, the second ends
when the plugin is let go of. -/
theorem sessions_end_iff_soloist :
    let a := soloist.recordUse (Duo.answer .zero) [.offer [], .init, .stopPositional, .offer []]
    let u := (a.2.2.drop.record (Duo.answer .zero)).1
    soloist.HearsEnds ∧ a.1 = 2 ∧ a.1 = (a.2.1 ++ u).stops.length := by
  intro a u
  have hears : soloist.HearsEnds := by simp [HearsEnds, soloist]
  have hend := sessions_end_iff create_soloist (used_recordUse _ _ _)
    (yields_record (Duo.answer .zero) a.2.2.drop)
  exact ⟨hears, by decide +kernel, (hend.2.2 hears).2.2 (by decide +kernel)⟩

end Plugin

end PluginHost
