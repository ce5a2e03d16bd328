import PluginHost.Proofs.Registry.Identity
import PluginHost.Proofs.Text.RoundTrip

/-!
# Where events go

Notifications and received data go to the loaded plugins that export the function for them, in the
order of the identities.

* **`Registry.hearers`**: these plugins.
* **`Registry.Tells`**: a notification is one and the same call of each of them.
  **`Registry.Notifying`**: the five notifications, each with its function and its arguments.
  **`notifying`**: it is so.
* **`Routed`**: how far a message gets. It goes no further than to the first plugin that handles it.
* **`Registry.Delivered`**: who gets a message, and what comes of it.
* **`routing`**: this holds after every history.
-/

namespace PluginHost

open Interaction Transcript

namespace Registry

variable {r s : Registry} {p q : Plugin} {t u : Transcript}

/-! ## Who is reached -/

/-- The loaded plugins of the current interface that export a function. -/
def hearers (r : Registry) (e : EntryPoint) : List Plugin :=
  r.plugins.filter fun p => p.loaded && p.exports e

theorem hearers_eq {e : EntryPoint} : r.hearers e = r.loadedPlugins.filter (·.exports e) := by
  simp only [hearers, loadedPlugins, List.filter_filter, Bool.and_comm]

theorem mem_hearers {e : EntryPoint} :
    p ∈ r.hearers e ↔ p ∈ r.plugins ∧ p.loaded = true ∧ p.exports e = true := by
  simp [hearers]

/-! ## Notifications -/

/-- Each plugin that exports the function is called once, with the same arguments. -/
theorem traverse_notifyOf {n : Notification} {ps : List Plugin} {us : List Unit}
    (h : Yields (Interaction.traverse (fun p : Plugin => p.notifyOf n) ps) t us) :
    t.map (·.query) = (ps.filter (·.exports n.entryPoint)).map fun p => .plugin p.who n.call := by
  induction ps generalizing t us with
  | nil =>
    obtain ⟨rfl, -⟩ := yields_traverse_nil.1 h
    rfl
  | cons p ps ih =>
    obtain ⟨u, v, _, us, rfl, rfl, h₁, h₂⟩ := yields_traverse_cons.1 h
    rw [List.map_append, ih h₂]
    obtain ⟨he, rfl⟩ | ⟨he, x, rfl⟩ := Plugin.notify_inv h₁ <;> simp [he]

/-- Whatever the plugins do, a notification calls each plugin that has the function once, in order,
and makes the same call of each. -/
def Tells (r : Registry) (n : Notification) (e : EntryPoint) (call : Call) : Prop :=
  ∀ t x, Yields (r.notify n) t x → t.map (·.query) = (r.hearers e).map fun p => .plugin p.who call

/-- A notification tells each hearer in turn, with one call. -/
theorem tells_notify {n : Notification} : r.Tells n n.entryPoint n.call := by
  intro t x h
  obtain ⟨_, _, _, rfl, h₁, h₂⟩ := yields_bind.1 h
  rw [(yields_done.1 h₂).1, List.append_nil, hearers_eq]
  exact traverse_notifyOf h₁

/-- The five notifications. Each goes to the function of its own and carries what it was given,
nothing left out and nothing in another's place. -/
structure Notifying (r : Registry) : Prop where
  serverConnected : ∀ c, r.Tells (.serverConnected c) .serverConnected (.serverConnected c)
  serverDisconnected : ∀ c,
    r.Tells (.serverDisconnected c) .serverDisconnected (.serverDisconnected c)
  channelEntered : ∀ c user previous new,
    r.Tells (.channelEntered c user previous new) .channelEntered
      (.channelEntered c user previous new)
  channelExited : ∀ c user channel,
    r.Tells (.channelExited c user channel) .channelExited (.channelExited c user channel)
  talkingChanged : ∀ c user state,
    r.Tells (.talkingChanged c user state) .talkingChanged (.talkingChanged c user state)

/-- The calls of the five broadcasts, with the arguments as they were passed in. -/
theorem notifying (r : Registry) : r.Notifying where
  serverConnected _ := tells_notify
  serverDisconnected _ := tells_notify
  channelEntered _ _ _ _ := tells_notify
  channelExited _ _ _ := tells_notify
  talkingChanged _ _ _ := tells_notify

end Registry

/-! ## Messages -/

/-- A plugin gets a message and says whether it handled it. -/
def Message.exchange (m : Message) (p : Plugin) (handled : Bool) : Exchange :=
  ⟨.plugin p.who (.receiveData m.connection m.sender m.data (Utf8.encode m.dataId)), handled⟩

/-- An exchange with a message tells who was asked and whether it was handled. -/
theorem Message.exchange_inj {m : Message} {p q : Plugin} {a b : Bool} :
    m.exchange p a = m.exchange q b ↔ p.who = q.who ∧ a = b := by
  constructor
  · intro h
    have hwho : p.who = q.who := (Query.plugin.inj (congrArg Exchange.query h)).1
    rw [exchange, exchange, hwho, Exchange.mk.injEq, heq_eq_eq] at h
    exact ⟨hwho, h.2⟩
  · rintro ⟨hwho, rfl⟩
    rw [exchange, exchange, hwho]

/-- A message goes to plugins one after the other, up to the first that handles it. -/
inductive Routed (m : Message) : List Plugin → Transcript → Bool → Prop
  | exhausted : Routed m [] [] false
  | handled (p : Plugin) (ps : List Plugin) : Routed m (p :: ps) [m.exchange p true] true
  | passed (p : Plugin) {ps : List Plugin} {t : Transcript} {b : Bool} (h : Routed m ps t b) :
      Routed m (p :: ps) (m.exchange p false :: t) b

namespace Routed

variable {m : Message} {ps : List Plugin} {p q : Plugin} {t : Transcript} {b : Bool}

/-- Each exchange is with one of the plugins. -/
theorem exists_of_mem (h : Routed m ps t b) {e : Exchange} (he : e ∈ t) :
    ∃ p ∈ ps, ∃ handled, e = m.exchange p handled := by
  induction h with
  | exhausted => simp at he
  | handled p ps => exact ⟨p, by simp, true, by simpa using he⟩
  | passed p h ih =>
    rcases List.mem_cons.1 he with rfl | he
    · exact ⟨p, by simp, false, rfl⟩
    · obtain ⟨q, hq, handled, rfl⟩ := ih he
      exact ⟨q, List.mem_cons_of_mem p hq, handled, rfl⟩

/-- A message is handled if and only if some plugin said so. -/
theorem handled_iff (h : Routed m ps t b) : b = true ↔ ∃ p ∈ ps, m.exchange p true ∈ t := by
  induction h with
  | exhausted => simp
  | handled p ps => simp
  | @passed p ps t b h ih =>
    rw [ih]
    constructor
    · rintro ⟨q, hq, he⟩
      exact ⟨q, List.mem_cons_of_mem p hq, List.mem_cons_of_mem _ he⟩
    · rintro ⟨q, -, he⟩
      -- the first plugin did not handle it
      rcases List.mem_cons.1 he with he | he
      · exact absurd (Message.exchange_inj.1 he).2 (by decide)
      · obtain ⟨q', hq', handled, hsame⟩ := h.exists_of_mem he
        obtain rfl := (Message.exchange_inj.1 hsame).2
        exact ⟨q', hq', hsame ▸ he⟩

theorem not_mem_of_fresh (h : Routed m ps t b) {x : Bool} (hq : q.who ∉ ps.map (·.who)) :
    m.exchange q x ∉ t := by
  intro he
  obtain ⟨p, hp, y, hsame⟩ := h.exists_of_mem he
  exact hq (List.mem_map.2 ⟨p, hp, (Message.exchange_inj.1 hsame).1.symm⟩)

/-- Who is called is reached before anybody handled the message. -/
theorem called_iff (h : Routed m ps t b) (hd : (ps.map (·.who)).Nodup)
    (hs : ps.Pairwise fun p q => p.id < q.id) (hp : p ∈ ps) :
    (∃ handled, m.exchange p handled ∈ t) ↔ ∀ q ∈ ps, q.id < p.id → m.exchange q true ∉ t := by
  -- nobody comes before the first
  have hleast {first : Plugin} {ps : List Plugin} (hfirst : ∀ q ∈ ps, first.id < q.id) :
      ∀ q ∈ first :: ps, ¬ q.id < first.id := fun q hq hlt =>
    (List.mem_cons.1 hq).elim (fun he => UInt32.lt_irrefl _ (he ▸ hlt))
      fun hq => UInt32.lt_asymm hlt (hfirst q hq)
  induction h generalizing p with
  | exhausted => simp at hp
  | handled first ps =>
    obtain ⟨hfresh, -⟩ := List.nodup_cons.1 hd
    obtain ⟨hfirst, -⟩ := List.pairwise_cons.1 hs
    rcases List.mem_cons.1 hp with rfl | hp
    · exact iff_of_true ⟨true, by simp⟩ fun q hq hlt => absurd hlt (hleast hfirst q hq)
    · refine iff_of_false ?_ fun hnone => hnone first (by simp) (hfirst p hp) (by simp)
      rintro ⟨x, hx⟩
      exact hfresh (List.mem_map.2 ⟨p, hp, (Message.exchange_inj.1 (List.mem_singleton.1 hx)).1⟩)
  | @passed first ps t b h ih =>
    obtain ⟨hfresh, hd⟩ := List.nodup_cons.1 hd
    obtain ⟨hfirst, hs⟩ := List.pairwise_cons.1 hs
    rcases List.mem_cons.1 hp with rfl | hp
    · exact iff_of_true ⟨false, by simp⟩ fun q hq hlt => absurd hlt (hleast hfirst q hq)
    · -- what the first answered is neither about `p` nor about anybody who handled the message
      have hother {x : Bool} : m.exchange p x ∈ m.exchange first false :: t ↔ m.exchange p x ∈ t :=
        List.mem_cons.trans (or_iff_right fun he =>
          hfresh (List.mem_map.2 ⟨p, hp, (Message.exchange_inj.1 he).1⟩))
      have hhandled {q : Plugin} :
          m.exchange q true ∈ m.exchange first false :: t ↔ m.exchange q true ∈ t :=
        List.mem_cons.trans (or_iff_right fun he => by simpa using (Message.exchange_inj.1 he).2)
      simp only [hother, hhandled, ih hd hs hp, List.forall_mem_cons]
      exact (and_iff_right fun _ => h.not_mem_of_fresh hfresh).symm

end Routed

namespace Plugin

variable {m : Message} {p : Plugin} {t : Transcript} {b : Bool}

/-- A message whose data identity has a zero character is not handed over. -/
theorem receive_of_nul (hm : '\x00' ∈ m.dataId.toList) : p.receive m = .done false := by
  simp [receive, Utf8.hasNul_eq, hm]

/-- A plugin that has the hook is asked once, and its answer is the result. -/
theorem receive_of_plain (hm : '\x00' ∉ m.dataId.toList) (h : Yields (p.receive m) t b) :
    (p.exports .receiveData = true ∧ t = [m.exchange p b]) ∨
      (p.exports .receiveData = false ∧ t = [] ∧ b = false) := by
  rw [receive, if_neg (by simp [Utf8.hasNul_eq, hm])] at h
  obtain ⟨rfl, hb⟩ := callOr_inv h
  cases he : p.exports .receiveData with
  | true => exact .inl ⟨rfl, if_pos he⟩
  | false => exact .inr ⟨rfl, if_neg (by simp [he]), hb he⟩

end Plugin

namespace Registry

variable {r s : Registry} {m : Message} {t : Transcript} {b : Bool}

theorem receiveInTurn_of_nul {ps : List Plugin} (hm : '\x00' ∈ m.dataId.toList) :
    receiveInTurn m ps = .done false := by
  induction ps with
  | nil => rfl
  | cons p ps ih =>
    rw [receiveInTurn, Plugin.receive_of_nul hm]
    exact ih

/-- A message goes along those that have the hook, up to the first that handles it. -/
theorem receiveInTurn_routed {ps : List Plugin} (hm : '\x00' ∉ m.dataId.toList)
    (h : Yields (receiveInTurn m ps) t b) : Routed m (ps.filter (·.exports .receiveData)) t b := by
  induction ps generalizing t with
  | nil =>
    obtain ⟨rfl, rfl⟩ := yields_done.1 h
    exact .exhausted
  | cons p ps ih =>
    obtain ⟨u, v, handled, rfl, h₁, h₂⟩ := yields_bind.1 h
    obtain ⟨he, rfl⟩ | ⟨he, rfl, rfl⟩ := Plugin.receive_of_plain hm h₁
    · rw [List.filter_cons, if_pos he]
      cases handled with
      | true =>
        obtain ⟨rfl, rfl⟩ := yields_done.1 h₂
        exact .handled p _
      | false => exact .passed p (ih h₂)
    · rw [List.filter_cons, if_neg (by simp [he])]
      exact ih h₂

/-- Who gets a message that can be handed over, and whether somebody handled it. -/
structure Delivered (r : Registry) (m : Message) (t : Transcript) (b : Bool) : Prop where
  routed : Routed m (r.hearers .receiveData) t b
  /-- A plugin gets it if nobody with a smaller identity handled it. -/
  called_iff : ∀ p ∈ r.plugins, (∃ handled, m.exchange p handled ∈ t) ↔
    p.loaded = true ∧ p.exports .receiveData = true ∧
      ∀ q ∈ r.plugins, q.loaded = true → q.id < p.id → m.exchange q true ∉ t
  handled_iff : b = true ↔ ∃ p ∈ r.plugins, m.exchange p true ∈ t
  /-- The plugins read the data identity that was given. -/
  dataId : ∀ memory, Terminated (Utf8.encode m.dataId) memory →
    Utf8.decodeTerminated memory = m.dataId

/-- Registered plugins are told apart by who they are. -/
theorem nodup_who (hc : r.Consistent) : (r.plugins.map (·.who)).Nodup := by
  have hhandles : ((r.plugins.map (·.who)).map (·.handle)).Nodup := by
    rw [List.map_map]
    exact hc.roster.distinct
  exact hhandles.of_map _

/-- **A message is delivered.** In the order of the identities it goes to each loaded plugin that
has the hook, up to the first that handles it. -/
theorem receive_delivered (hc : r.Consistent) (hs : r.plugins.Pairwise fun p q => p.id < q.id)
    (hm : '\x00' ∉ m.dataId.toList) (h : Yields (r.receive m) t b) : r.Delivered m t b := by
  have hrouted : Routed m (r.hearers .receiveData) t b := by
    rw [hearers_eq]
    exact receiveInTurn_routed hm h
  have hsub : (r.hearers .receiveData).Sublist r.plugins := List.filter_sublist ..
  -- a registered plugin that was called is one of those that the message goes to
  have hcalled {p : Plugin} {x : Bool} (hp : p ∈ r.plugins) (he : m.exchange p x ∈ t) :
      p ∈ r.hearers .receiveData := by
    obtain ⟨q, hq, y, hsame⟩ := hrouted.exists_of_mem he
    have hwho := (Message.exchange_inj.1 hsame).1
    exact List.inj_on_of_nodup_map (nodup_who hc) hp (hsub.subset hq) hwho ▸ hq
  refine ⟨hrouted, fun p hp => ?_, ?_, fun _ => Utf8.decodeTerminated_encode hm⟩
  · have hiff := fun hp => hrouted.called_iff (p := p) ((nodup_who hc).sublist (hsub.map _))
      (hs.sublist hsub) hp
    constructor
    · rintro ⟨x, hx⟩
      have hmem := hcalled hp hx
      obtain ⟨-, hl, he⟩ := mem_hearers.1 hmem
      exact ⟨hl, he, fun q hq _ hlt hq' => (hiff hmem).1 ⟨x, hx⟩ q (hcalled hq hq') hlt hq'⟩
    · rintro ⟨hl, he, hnone⟩
      refine (hiff (mem_hearers.2 ⟨hp, hl, he⟩)).2 fun q hq hlt => ?_
      obtain ⟨hq, hql, -⟩ := mem_hearers.1 hq
      exact hnone q hq hql hlt
  · rw [hrouted.handled_iff]
    exact ⟨fun ⟨p, hp, he⟩ => ⟨p, hsub.subset hp, he⟩, fun ⟨p, hp, he⟩ => ⟨p, hcalled hp he, he⟩⟩

end Registry

/-! ## Every history -/

/-- The operations that pass on what happens in the voice client. -/
def Operation.isBroadcast : Operation → Bool
  | notify _ | receive _ | audioInput .. | audioStage .. => true
  | _ => false

namespace Registry

variable {r : Registry} {p : Plugin}

theorem perform_broadcast {s : Registry} {op : Operation} {t : Transcript}
    (hop : op.isBroadcast = true) (h : Yields (op.perform r) t s) : s = r := by
  cases op with
  | notify | receive | audioInput | audioStage => exact (yields_map.1 h).choose_spec.1
  | _ => simp [Operation.isBroadcast] at hop

/-- A registry that was reached in some history. A message goes to the loaded plugins that export
the function for it, in the order of their identities, up to the first that handles it, and to
nobody if its data identity has a zero character. A notification goes to all of them with its own
arguments. No broadcast changes anything. -/
theorem routing {directories : PluginDirectories} {h : History}
    (hf : (new directories).Follows h r) :
    (∀ m t b, '\x00' ∉ m.dataId.toList → Yields (r.receive m) t b → r.Delivered m t b) ∧
    (∀ m t b, '\x00' ∈ m.dataId.toList → Yields (r.receive m) t b → t = [] ∧ b = false) ∧
    r.Notifying ∧
    (∀ e, (r.hearers e).Pairwise fun p q => p.id < q.id) ∧
    ∀ op t s, op.isBroadcast = true → Yields (Operation.perform r op) t s → s = r := by
  have hsorted := hf.ordered.sorted
  refine ⟨fun m t b => receive_delivered (hf.consistent (consistent_new directories)) hsorted,
    fun m t b hm h => ?_, r.notifying, fun e => hsorted.sublist (List.filter_sublist ..),
    fun _ _ _ => perform_broadcast⟩
  rw [receive, receiveInTurn_of_nul hm] at h
  exact yields_done.1 h

end Registry

/-! ## A host with four plugins

All are part of the host and export the functions for events and audio. The first is unloaded. The
third handles what it gets, the others pass it on. -/

namespace Switchboard

/-- The functions without which a plugin is none, then those for events and audio. -/
def symbols : List String :=
  ["init", "shutdown", "getName", "getAPIVersion", "registerAPIFunctions",
    "onServerConnected", "onServerDisconnected", "onChannelEntered", "onChannelExited",
    "onUserTalkingStateChanged", "onReceiveData",
    "onAudioInput", "onAudioSourceFetched", "onAudioSourceProcessed", "onAudioOutputAboutToPlay"]

def table : SymbolTable := ⟨"switchboard", symbols.map (·, 1)⟩

def answer : (q : Query) → q.Reply
  | .plugin _ .load => some table
  | .plugin _ .apiVersion => .pluginApi
  | .plugin ⟨_, .builtIn 2⟩ (.receiveData ..) => true
  | .plugin _ c => c.silence
  | .processes => []
  | .report _ => ()
  | .write _ => .ok ()
  | .pause _ => ()

def operations : List Operation :=
  List.replicate 4 (.registerBuiltIn ⟨"switchboard", .current⟩) ++ [.rescan ⟨[], []⟩, .unload 1]

def start : History × Registry := (Registry.new ⟨none, none⟩).record answer operations

def message : Message := ⟨1, 7, [1, 2, 3], "chess"⟩

/-- The plugins that are left once the first is unloaded. -/
def left : List Occupant := [⟨1, .builtIn 1⟩, ⟨2, .builtIn 2⟩, ⟨3, .builtIn 3⟩]

end Switchboard

namespace Registry

/-- The second plugin passes the message on and the third handles it, so the fourth does not get it.
All three hear of a user who goes from one channel to another. -/
theorem routing_switchboard :
    let r := Switchboard.start.2
    let x := (r.receive Switchboard.message).record Switchboard.answer
    let n : Notification := .channelEntered 1 7 20 30
    let y := (r.notify n).record Switchboard.answer
    (new ⟨none, none⟩).Follows Switchboard.start.1 r ∧ '\x00' ∉ Switchboard.message.dataId.toList ∧
      r.Delivered Switchboard.message x.1 x.2 ∧ x.2 = true ∧
      x.1.map (·.handle?) = [some 1, some 2] ∧
      y.1.map (·.query) =
        Switchboard.left.map (fun who => .plugin who (.channelEntered 1 7 20 30)) ∧
      ∀ t s, Yields ((Operation.notify n).perform r) t s → s = r := by
  intro r x n y
  have hf : (new ⟨none, none⟩).Follows Switchboard.start.1 r := follows_record _ _ _
  obtain ⟨hreceive, -, hnotify, -, hsame⟩ := routing hf
  have htold := hnotify.channelEntered 1 7 20 30 _ _ (yields_record Switchboard.answer _)
  have hleft : (r.hearers .channelEntered).map (·.who) = Switchboard.left := by decide +kernel
  rw [← Function.comp_def (fun who => Query.plugin who (.channelEntered 1 7 20 30)),
    ← List.map_map, hleft] at htold
  exact ⟨hf, by decide, hreceive _ _ _ (by decide) (yields_record _ _), by decide +kernel,
    by decide +kernel, htold, fun t s => hsame _ t s rfl⟩

end Registry

end PluginHost
