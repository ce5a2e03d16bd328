import PluginHost.Demo
import PluginHost.Proofs.Plugin.Alone
import PluginHost.Proofs.Text.RoundTrip

/-!
# The same programme through two interfaces

What a plugin delivers does not depend on its interface, but how it looks in memory does.

* **`Scene`**: what is delivered in one fetch. **`FetchReply.Shows`**, **`LegacyFetchReply.Shows`**:
  how it looks in memory through either interface.
* **`FetchReply.Shows.frameOf_eq`**, **`LegacyFetchReply.Shows.frameOf_eq`**: the frame that is read
  from there is the same.
* **`Programme`**: what a plugin answers to offers and shows in fetches. **`Programme.Staged`**: one
  world in which a plugin of the current interface plays it, and one in which an older plugin does.
  **`Programme.staged_world`**: every programme can be staged.
* **`Plugin.IsCurrent.run_fetch`**, **`Plugin.IsLegacy.run_fetch`** and the others: what the two
  plugins do in their worlds.
-/

namespace PluginHost

open Interaction

/-! ## Scenes -/

/-- What a plugin delivers in one fetch: some of the vectors, two texts that it may leave out, and
whether it goes on. -/
structure Scene where
  vectors : Pose (Option Vector3)
  context : Option String
  identity : Option String
  proceed : Bool
  context_plain : ∀ t ∈ context, '\x00' ∉ t.toList
  identity_plain : ∀ t ∈ identity, '\x00' ∉ t.toList
  identity_short : ∀ t ∈ identity, t.length ≤ 65536

/-- The frame of a scene. A text that is left out is empty. -/
def Scene.frame (x : Scene) : Frame :=
  ⟨x.vectors, x.context.getD "", x.identity.getD "", x.proceed⟩

/-- A plugin of the current interface points at the bytes of a text and a zero. -/
structure FetchReply.Shows (r : FetchReply) (x : Scene) : Prop where
  vectors : r.vectors = x.vectors
  context : Option.Rel (fun t memory => Terminated (Utf8.encode t) memory) x.context r.context
  identity : Option.Rel (fun t memory => Terminated (Utf8.encode t) memory) x.identity r.identity
  proceed : r.proceed = x.proceed

/-- An older plugin points at the bytes of the context, which it counts, and at the units of the
identity and a zero. -/
structure LegacyFetchReply.Shows (r : LegacyFetchReply) (x : Scene) : Prop where
  vectors : r.vectors = x.vectors
  context : Option.Rel (fun t memory => Utf8.encode t <+: memory ∧
    r.contextLength = (Utf8.encode t).length) x.context r.context
  identity : Option.Rel (fun t memory => Terminated (t.toList.map (·.val)) memory)
    x.identity r.identity
  attached : r.attached ≠ 0 ↔ x.proceed = true

/-- The reply of a plugin of the current interface that shows a scene. -/
def Scene.reply (x : Scene) : FetchReply :=
  ⟨x.vectors, x.context.map fun t => Utf8.encode t ++ [0],
    x.identity.map fun t => Utf8.encode t ++ [0], x.proceed⟩

/-- The reply of an older plugin that shows a scene. -/
def Scene.legacyReply (x : Scene) : LegacyFetchReply :=
  ⟨x.vectors, x.context.map Utf8.encode, (Utf8.encode (x.context.getD "")).length,
    x.identity.map Wide.encode, if x.proceed then 1 else 0⟩

/-- A word for a truth value. -/
theorem word_ne_zero {b : Bool} : (if b then 1 else 0 : Int32) ≠ 0 ↔ b = true := by
  cases b <;> decide

/-- A text with a zero behind it shows the text. -/
theorem Scene.shows_reply (x : Scene) : x.reply.Shows x := by
  have htext (text : Option String) :
      Option.Rel (fun t memory => Terminated (Utf8.encode t) memory) text
        (text.map fun t => Utf8.encode t ++ [0]) := by
    cases text with
    | none => exact .none
    | some t => exact .some ⟨[0], rfl, by simp⟩
  exact ⟨rfl, htext x.context, htext x.identity, rfl⟩

theorem Scene.shows_legacyReply (x : Scene) : x.legacyReply.Shows x := by
  refine ⟨rfl, ?_, ?_, word_ne_zero⟩
  · unfold legacyReply
    cases x.context with
    | none => exact .none
    | some t => exact .some ⟨List.prefix_refl _, rfl⟩
  · unfold legacyReply
    cases x.identity with
    | none => exact .none
    | some t => exact .some ⟨[0], rfl, by simp⟩

/-! ## Frames -/

/-- A text that is terminated in memory is read back. -/
theorem Plugin.readText_of_terminated {text : Option String} {pointer : Option (List UInt8)}
    (hplain : ∀ t ∈ text, '\x00' ∉ t.toList)
    (h : Option.Rel (fun t memory => Terminated (Utf8.encode t) memory) text pointer) :
    (readText pointer).getD "" = text.getD "" := by
  cases h with
  | none => rfl
  | some h => exact Utf8.decodeTerminated_encode (hplain _ rfl) h

variable {x : Scene}

/-- A reply that shows a scene is read as its frame. -/
theorem FetchReply.Shows.frameOf_eq {r : FetchReply} (h : r.Shows x) :
    Plugin.frameOf r = x.frame := by
  rw [Plugin.frameOf, Scene.frame, h.vectors, h.proceed,
    Plugin.readText_of_terminated x.context_plain h.context,
    Plugin.readText_of_terminated x.identity_plain h.identity]

/-- The bytes that an older plugin counts are its context. -/
theorem LegacyFetchReply.Shows.decode_context {r : LegacyFetchReply} (h : r.Shows x) :
    Utf8.decode (Legacy.Adapter.contextBytes r) = x.context.getD "" := by
  have hcontext := h.context
  rw [Legacy.Adapter.contextBytes]
  generalize x.context = text, r.context = pointer at hcontext
  cases hcontext with
  | none => simp [Utf8.decode, Utf8.decodeChars]
  | some h =>
    obtain ⟨⟨rest, rfl⟩, hlength⟩ := h
    rw [hlength, Option.getD_some, List.take_left, Utf8.decode_encode]
    rfl

/-- The units up to the zero are its identity. -/
theorem LegacyFetchReply.Shows.decode_identity {r : LegacyFetchReply} (h : r.Shows x) :
    Wide.decode (Legacy.Adapter.identityUnits r) = x.identity.getD "" := by
  have hidentity := h.identity
  have hplain := x.identity_plain
  have hshort := x.identity_short
  rw [Legacy.Adapter.identityUnits]
  generalize x.identity = text, r.identity = pointer at hidentity hplain hshort
  cases hidentity with
  | none => rfl
  | some h => exact Wide.read_encode (hplain _ rfl) (String.length_toList ▸ hshort _ rfl) h

/-- The reply of an older plugin is read as the frame of the same scene. -/
theorem LegacyFetchReply.Shows.frameOf_eq {r : LegacyFetchReply} (h : r.Shows x) :
    Legacy.Adapter.frameOf r = x.frame := by
  have hproceed : (r.attached != 0) = x.proceed := by
    rw [Bool.eq_iff_iff, bne_iff_ne]
    exact h.attached
  rw [Legacy.Adapter.frameOf, Scene.frame, h.vectors, h.decode_context, h.decode_identity, hproceed]

/-! ## Programmes -/

/-- What is left open of a plugin that provides positional data: whether it takes the next offer,
what the next fetch shows, and how either moves the world. -/
structure Programme (σ : Type) where
  accepts : σ → Bool
  scene : σ → Scene
  offered : σ → σ
  fetched : σ → σ

variable {σ : Type} {W W' : World σ} {g : Programme σ} {c l : Nat}

namespace Programme

/-- A plugin of the current interface, version 1.0, that always starts. -/
structure PlayedByCurrent (g : Programme σ) (W : World σ) (c : Nat) : Prop where
  rests : Rests W c
  version : ∀ who s, who.handle = c →
    (W (.plugin who .apiVersion) s).1.major = 1 ∧ (W (.plugin who .apiVersion) s).1.minor = 0
  init : ∀ who s, who.handle = c → (W (.plugin who .init) s).1 = .ok
  offer : ∀ who names pids s, who.handle = c → W (.plugin who (.offerPositional names pids)) s =
    (if g.accepts s then .ok else .temporary, g.offered s)
  fetch : ∀ who s, who.handle = c → (W (.plugin who .fetchPositional) s).1.Shows (g.scene s) ∧
    (W (.plugin who .fetchPositional) s).2 = g.fetched s

/-- An older plugin, through whichever lock it has. -/
structure PlayedByLegacy (g : Programme σ) (W : World σ) (l : Nat) : Prop where
  rests : Rests W l
  tryLock : ∀ who s, who.handle = l → ((W (.plugin who .tryLock) s).1 ≠ 0 ↔ g.accepts s = true) ∧
    (W (.plugin who .tryLock) s).2 = g.offered s
  tryLockAmong : ∀ who entries s, who.handle = l →
    ((W (.plugin who (.tryLockAmong entries)) s).1 ≠ 0 ↔ g.accepts s = true) ∧
      (W (.plugin who (.tryLockAmong entries)) s).2 = g.offered s
  fetch : ∀ who s, who.handle = l → (W (.plugin who .fetchLegacy) s).1.Shows (g.scene s) ∧
    (W (.plugin who .fetchLegacy) s).2 = g.fetched s

/-- Two worlds in which the programme is played. They agree on all other plugins and on the process
table. -/
structure Staged (g : Programme σ) (W W' : World σ) (c l : Nat) : Prop where
  current : g.PlayedByCurrent W c
  legacy : g.PlayedByLegacy W' l
  others : ∀ who k, who.handle ≠ c → who.handle ≠ l → W (.plugin who k) = W' (.plugin who k)
  processes : W .processes = W' .processes

/-- Any answers to offers and any scenes make a programme: the world counts the offers and the
fetches. -/
def ofSequences (accepts : Nat → Bool) (scenes : Nat → Scene) : Programme (Nat × Nat) where
  accepts s := accepts s.1
  scene s := scenes s.2
  offered s := (s.1 + 1, s.2)
  fetched s := (s.1, s.2 + 1)

/-- What a plugin of either interface answers that plays a programme. -/
def answer (g : Programme σ) : (k : Call) → σ → k.Reply × σ
  | .apiVersion, s => (.pluginApi, s)
  | .offerPositional .., s => (if g.accepts s then .ok else .temporary, g.offered s)
  | .fetchPositional, s => ((g.scene s).reply, g.fetched s)
  | .tryLock, s => (if g.accepts s then 1 else 0, g.offered s)
  | .tryLockAmong _, s => (if g.accepts s then 1 else 0, g.offered s)
  | .fetchLegacy, s => ((g.scene s).legacyReply, g.fetched s)
  | k, s => (k.silence, s)

/-- The world in which every plugin plays the programme. -/
def world (g : Programme σ) : World σ
  | .plugin _ k, s => g.answer k s
  | .processes, s => ([], s)
  | .report _, s => ((), s)
  | .write _, s => (.ok (), s)
  | .pause _, s => ((), s)

/-- There is a stage for every programme. -/
theorem staged_world (g : Programme σ) (c l : Nat) : g.Staged g.world g.world c l := by
  have hrests (n : Nat) : Rests g.world n := by
    intro who k s _ hoffer hfetch
    cases k <;> first | rfl | exact absurd rfl hoffer | exact absurd rfl hfetch
  refine ⟨⟨hrests c, ?_, ?_, ?_, ?_⟩, ⟨hrests l, ?_, ?_, ?_⟩, fun _ _ _ _ => rfl, rfl⟩
  · exact fun _ _ _ => ⟨rfl, rfl⟩
  · exact fun _ _ _ => rfl
  · exact fun _ _ _ _ _ => rfl
  · exact fun _ s _ => ⟨(g.scene s).shows_reply, rfl⟩
  · exact fun _ _ _ => ⟨word_ne_zero, rfl⟩
  · exact fun _ _ _ _ => ⟨word_ne_zero, rfl⟩
  · exact fun _ s _ => ⟨(g.scene s).shows_legacyReply, rfl⟩

end Programme

/-! ## An adapter -/

theorem Plugin.lockCode_eq {word : Int32} {b : Bool} (h : word ≠ 0 ↔ b = true) :
    lockCode word = if b then .ok else .temporary := by
  unfold lockCode
  by_cases hword : word = 0
  · rw [if_pos hword, if_neg fun hb => h.2 hb hword]
  · rw [if_neg hword, if_pos (h.1 hword)]

namespace Legacy.Adapter

variable {a : Adapter} {who : Occupant}

/-- The plugin has a lock of either kind. -/
def HasLock (a : Adapter) : Prop :=
  (a.extended.map (·.hasTryLock)).getD false = true ∨ a.primary.hasTryLock = true

/-- An older plugin takes an offer if the programme does, through whichever lock it has. -/
theorem run_offer (hg : g.PlayedByLegacy W who.handle) (hlock : a.HasLock)
    (processes : List Process) (s : σ) :
    (a.offer who processes).run W s = (if g.accepts s then .ok else .temporary, g.offered s) := by
  unfold offer
  -- the lock with the process table first, the plain lock second
  cases hextended : (a.extended.map (·.hasTryLock)).getD false with
  | true =>
    obtain ⟨hword, hstate⟩ := hg.tryLockAmong who (lockEntries processes) s rfl
    exact Prod.ext (Plugin.lockCode_eq hword) hstate
  | false =>
    have hprimary : a.primary.hasTryLock = true := by simpa [HasLock, hextended] using hlock
    obtain ⟨hword, hstate⟩ := hg.tryLock who s rfl
    simp only [Bool.false_eq_true, if_false, hprimary, if_true]
    exact Prod.ext (Plugin.lockCode_eq hword) hstate

/-- What is kept of an older plugin after a fetch. -/
def refreshed (a : Adapter) (r : LegacyFetchReply) : Adapter :=
  { a with
    contextCache := a.contextCache.refresh Utf8.decode (contextBytes r)
    identityCache := a.identityCache.refresh Wide.decode (identityUnits r) }

theorem Coherent.refreshed (h : a.Coherent) (r : LegacyFetchReply) :
    (a.refreshed r).Coherent := ⟨h.1.refresh _, h.2.refresh _⟩

/-- The caches do not show in what is fetched. -/
theorem run_fetch (hcoherent : a.Coherent) (hfetch : a.primary.hasFetch = true) (who : Occupant)
    (snapshot : Snapshot) (s : σ) :
    (a.fetch who snapshot).run W s =
      (((frameOf (W (.plugin who .fetchLegacy) s).1).proceed,
        a.refreshed (W (.plugin who .fetchLegacy) s).1,
        snapshot.apply (frameOf (W (.plugin who .fetchLegacy) s).1)),
        (W (.plugin who .fetchLegacy) s).2) := by
  have hframe (r : LegacyFetchReply) : frameOf r = ⟨r.vectors, (a.refreshed r).contextCache.text,
      (a.refreshed r).identityCache.text, r.attached != 0⟩ := by
    rw [refreshed, hcoherent.1.text_refresh, hcoherent.2.text_refresh]
    rfl
  unfold fetch
  rw [if_neg (by simp [hfetch]), hframe]
  rfl

end Legacy.Adapter

namespace Plugin

variable {p : Plugin} {s : σ}

/-! ## The two plugins -/

/-- What shows of a plugin from outside. -/
structure Badge where
  id : PluginId
  loaded : Bool
  enabled : Bool
  active : Bool
deriving DecidableEq, Repr

def badge (p : Plugin) : Badge := ⟨p.id, p.loaded, p.enabled, p.active⟩

/-- A plugin of the current interface that can provide positional data. -/
structure IsCurrent (c : Nat) (p : Plugin) : Prop where
  handle : p.handle = c
  valid : p.valid = true
  generation : p.generation = .current
  exports : ∀ e ∈ EntryPoint.mandatory ++ EntryPoint.positional, p.exports e = true

/-- An older plugin that can provide positional data: it has a lock of either kind and a fetch. -/
structure IsLegacy (l : Nat) (p : Plugin) : Prop where
  handle : p.handle = l
  valid : p.valid = true
  generation : p.generation = .legacy
  adapter : ∃ a, p.backend = .legacy a ∧ a.Coherent ∧ a.primary.hasFetch = true ∧ a.HasLock

/-- A registered plugin of the current interface that exports one function for positional data has
all three of them. -/
theorem Sound.isCurrent (h : p.Sound) (hg : p.generation = .current)
    (hfetch : p.exports .fetchPositional = true) : IsCurrent p.handle p := by
  refine ⟨rfl, h.valid, hg, fun e he => ?_⟩
  rcases List.mem_append.1 he with he | he
  · exact h.exports_mandatory hg e he
  · unfold exports at hfetch ⊢
    split at hfetch
    · rename_i entries hb
      obtain ⟨table, hr⟩ := h.exists_table hb
      exact EntryPoints.has_positional hr (by decide) he hfetch
    · cases hfetch

/-- The caches of a registered older plugin belong to their texts. -/
theorem Sound.isLegacy {a : Legacy.Adapter} (h : p.Sound) (hb : p.backend = .legacy a)
    (hfetch : a.primary.hasFetch = true) (hlock : a.HasLock) : IsLegacy p.handle p := by
  have hsuits := h.suits
  rw [hb] at hsuits
  cases hg : p.generation with
  | current => simp [hg, Backend.Suits] at hsuits
  | legacy =>
    rw [hg] at hsuits
    exact ⟨rfl, h.valid, hg, a, hb, hsuits, hfetch, hlock⟩

namespace IsCurrent

variable (h : IsCurrent c p)
include h

/-- A plugin of the current interface is driven through its exports. -/
theorem backend : ∃ e, p.backend = .current e := by
  have hinit := h.exports .init (by decide)
  unfold Plugin.exports at hinit
  split at hinit
  · exact ⟨_, ‹_›⟩
  · simp at hinit

variable (hg : g.PlayedByCurrent W c)
include hg

theorem rests : Rests W p.handle := h.handle ▸ hg.rests

theorem run_handTable (s : σ) : (Registry.handTable p).run W s = (.ok (), s) := by
  have hsupports : HostTable.supports (W (.plugin p.who .apiVersion) s).1 = true := by
    obtain ⟨hmajor, hminor⟩ := hg.version p.who s h.handle
    simp [HostTable.supports, hmajor, hminor]
  have hstate : (W (.plugin p.who .apiVersion) s).2 = s :=
    h.rests hg _ _ _ rfl (by decide) (by decide)
  have hregister : p.registerApi.run W s = ((), s) := run_notify (h.rests hg) rfl s
  simp only [Registry.handTable, h.generation, apiVersion, bind_eq, run_bind,
    run_callOr (h.exports .apiVersion (by decide)), HostTable.require, hsupports, if_true, hstate,
    hregister]
  rfl

/-- It starts without moving the world. -/
theorem run_init (hl : p.loaded = false) (s : σ) :
    p.init.run W s = ((.ok, { p with loaded := true }), s) := by
  obtain ⟨e, hb⟩ := h.backend
  have hrest := h.rests hg
  have hinfo : (p.notify .hostInfo (.hostInfo .host .pluginApi .minimumPluginApi)).run W s =
      ((), s) := run_notify hrest rfl s
  have hinit : (p.callOr .init .init .ok).run W s = (.ok, s) := by
    rw [run_callOr (h.exports .init (by decide))]
    exact Prod.ext (hg.init p.who s h.handle) (hrest _ _ _ rfl (by decide) (by decide))
  have hid : (p.notify .registerId (.registerId p.id)).run W s = ((), s) := run_notify hrest rfl s
  unfold init
  rw [if_neg (by simp [h.valid]), if_neg (by simp [hl]), hb]
  simp only [bind_eq, run_bind, hinfo, hinit, hid]
  rfl

theorem run_activate {allowed : Bool} (s : σ) : (Registry.activate allowed p).run W s =
    ((.ok .ok, if p.loaded then p else toggled { p with loaded := true } allowed), s) :=
  Plugin.run_activate (h.rests hg) (h.run_handTable hg) (h.run_init hg) s

/-- It takes an offer if the programme does. -/
theorem run_offer {processes : List Process} (s : σ) : (p.offer processes).run W s =
    ((if g.accepts s then (.ok, { p with active := true }) else (.temporary, p)), g.offered s) := by
  obtain ⟨e, hb⟩ := h.backend
  simp only [offer, hb, bind_eq, run_bind, run_callOr (h.exports .offerPositional (by decide)),
    hg.offer p.who _ _ s h.handle]
  cases g.accepts s <;> rfl

/-- It delivers the scene of the programme. -/
theorem run_fetch {a : Snapshot} (s : σ) : (p.fetch a).run W s =
    (((g.scene s).proceed, p, (a.apply (g.scene s).frame).sanitized), g.fetched s) := by
  obtain ⟨e, hb⟩ := h.backend
  have he : e.has .fetchPositional = true := by
    have hexports := h.exports .fetchPositional (by decide)
    rwa [Plugin.exports, hb] at hexports
  obtain ⟨hshows, hstate⟩ := hg.fetch p.who s h.handle
  have hrun : (p.call .fetchPositional).run W s = W (.plugin p.who .fetchPositional) s := rfl
  simp only [fetch, hb, he, if_true, bind_eq, run_bind, hrun, hshows.frameOf_eq, hstate]
  rfl

end IsCurrent

namespace IsLegacy

variable (h : IsLegacy l p)
include h

variable (hg : g.PlayedByLegacy W l)
include hg

theorem rests : Rests W p.handle := h.handle ▸ hg.rests

/-- An older plugin has no functions for this, and is loaded and permitted in the same way. -/
theorem run_activate {allowed : Bool} (s : σ) : (Registry.activate allowed p).run W s =
    ((.ok .ok, if p.loaded then p else toggled { p with loaded := true } allowed), s) := by
  refine Plugin.run_activate (h.rests hg) (fun s => ?_) (fun hl s => ?_) s
  · rw [Registry.handTable, h.generation]
    rfl
  · obtain ⟨a, hb, -⟩ := h.adapter
    simp only [init, h.valid, hl, hb]
    rfl

/-- It takes an offer if the programme does. -/
theorem run_offer {processes : List Process} (s : σ) : (p.offer processes).run W s =
    ((if g.accepts s then (.ok, { p with active := true }) else (.temporary, p)), g.offered s) := by
  obtain ⟨a, hb, -, -, hlock⟩ := h.adapter
  have hplayed : g.PlayedByLegacy W p.who.handle := by rwa [← h.handle] at hg
  simp only [offer, hb, bind_eq, run_bind, Legacy.Adapter.run_offer hplayed hlock]
  cases g.accepts s <;> rfl

/-- It delivers the scene of the programme, and what shows of it is as before. -/
theorem run_fetch {a : Snapshot} (s : σ) : ∃ q : Plugin, (p.fetch a).run W s =
      (((g.scene s).proceed, q, (a.apply (g.scene s).frame).sanitized), g.fetched s) ∧
    IsLegacy l q ∧ q.badge = p.badge := by
  obtain ⟨b, hb, hcoherent, hfetch, hlock⟩ := h.adapter
  obtain ⟨hshows, hstate⟩ := hg.fetch p.who s h.handle
  have hrun := Legacy.Adapter.run_fetch (W := W) hcoherent hfetch p.who a s
  rw [hshows.frameOf_eq, hstate] at hrun
  let b' := b.refreshed (W (.plugin p.who .fetchLegacy) s).1
  refine ⟨{ p with backend := .legacy b' }, ?_, ⟨h.handle, h.valid, h.generation, b', rfl,
    hcoherent.refreshed _, hfetch, hlock⟩, rfl⟩
  simp only [fetch, hb, bind_eq, run_bind, hrun]
  rfl

end IsLegacy

end Plugin
end PluginHost
