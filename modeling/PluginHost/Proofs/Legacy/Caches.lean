import PluginHost.Proofs.Plugin.Programme

/-!
# Caches that do not show

An older plugin hands out its texts on every fetch, and most of the time they are the ones of last
time. A buffer is decoded only if it changed, and a text is copied only where it is not there yet.
Neither makes a difference to what is fetched.

* **`ChangeCache.ofBuffers`**: what a cache is after some buffers, said by the buffers alone.
* **`Adapter.sparingFetch`**, **`Adapter.freshFetch`**: a fetch that spares every copy it can, and
  one that decodes what it reads each time. **`Adapter.fetch_eq_sparing`**,
  **`Adapter.fetch_eq_fresh`**: they come to the same.
* **`Adapter.Visited`**: fetches one after the other. Whatever happened to the snapshot in between,
  each finds some snapshot.
* **`caches_unobservable`**: what each of them leaves, and what the caches are afterwards.
-/

namespace PluginHost

open Interaction

/-! ## One cache -/

namespace ChangeCache

variable {α : Type} [DecidableEq α] {decode : List α → String}

/-- How often a buffer differs from the one before it. The first is compared with an empty one. -/
def changes (buffers : List (List α)) : Nat :=
  (([] :: buffers).zip buffers).countP fun pair => pair.1 != pair.2

/-- One more buffer is a change if it differs from the last one. -/
theorem changes_concat (buffers : List (List α)) (b : List α) :
    changes (buffers ++ [b]) = changes buffers + if buffers.getLast?.getD [] = b then 0 else 1 := by
  -- the last buffer is paired with the one in front of it
  have hzip : ([] :: (buffers ++ [b])).zip (buffers ++ [b]) =
      ([] :: buffers).zip buffers ++ [(buffers.getLast?.getD [], b)] := by
    generalize ([] : List α) = first
    induction buffers generalizing first with
    | nil => rfl
    | cons c buffers ih =>
      have hlast : (c :: buffers).getLast?.getD first = buffers.getLast?.getD c := by
        rw [List.getLast?_cons, Option.getD_some]
      rw [hlast, List.cons_append, List.zip_cons_cons, List.zip_cons_cons, ih c, List.cons_append]
  rw [changes, hzip, List.countP_append, List.countP_singleton]
  simp [changes]

/-- The cache once some buffers were taken in. -/
def ofBuffers (decode : List α → String) (buffers : List (List α)) : ChangeCache α :=
  ⟨buffers.getLast?.getD [], decode (buffers.getLast?.getD []), changes buffers⟩

theorem ofBuffers_nil (h : decode [] = "") : ofBuffers decode [] = empty := by
  rw [ofBuffers, List.getLast?_nil, Option.getD_none, h]
  rfl

/-- A refreshed cache has seen one more buffer. -/
theorem refresh_ofBuffers (buffers : List (List α)) (b : List α) :
    (ofBuffers decode buffers).refresh decode b = ofBuffers decode (buffers ++ [b]) := by
  have hlast : (buffers ++ [b]).getLast?.getD [] = b := by simp
  rw [refresh, ofBuffers, ofBuffers, hlast, changes_concat]
  dsimp only
  by_cases h : buffers.getLast?.getD [] = b
  · rw [if_pos h, if_pos h, h, Nat.add_zero]
  · rw [if_neg h, if_neg h]

theorem coherent_ofBuffers (buffers : List (List α)) :
    (ofBuffers decode buffers).Coherent decode := rfl

end ChangeCache

/-! ## One fetch -/

/-- What a pointer to the context and a length stand for. -/
def LegacyFetchReply.contextBuffer (r : LegacyFetchReply) : List UInt8 :=
  match r.context with
  | none => []
  | some memory => memory.take r.contextLength

/-- What a pointer to the identity stands for: the units before the first zero, and never too
many. -/
def LegacyFetchReply.identityBuffer (r : LegacyFetchReply) : List UInt32 :=
  match r.identity with
  | none => []
  | some memory => (memory.take 65536).takeWhile (· != 0)

namespace Legacy

/-- A text once another one was copied over it, which is done only if the two differ. -/
def copiedOver (old new : String) : String := if old = new then old else new

/-- Copying a text over another one gives the text. -/
theorem copiedOver_eq (old new : String) : copiedOver old new = new := by
  unfold copiedOver
  split
  · assumption
  · rfl

/-- The bytes that are read are those that the plugin counts, of those that it points at. -/
theorem contextBytes_eq (r : LegacyFetchReply) : Adapter.contextBytes r = r.contextBuffer := by
  unfold Adapter.contextBytes LegacyFetchReply.contextBuffer
  cases r.context with
  | none => exact List.take_nil
  | some memory => rfl

/-- The units that are read are those up to a zero. -/
theorem identityUnits_eq (r : LegacyFetchReply) : Adapter.identityUnits r = r.identityBuffer := by
  unfold Adapter.identityUnits LegacyFetchReply.identityBuffer Wide.terminated
  rw [Wide.scan_eq]
  cases r.identity with
  | none => rw [Option.getD_none, List.take_nil, List.takeWhile_nil]
  | some memory => rfl

namespace Adapter

variable {a b : Adapter} {who : Occupant} {s : Snapshot}

/-- A fetch that spares every copy it can: a buffer is decoded only if it is not the one of last
time, and a text of the snapshot is written to only if it is not the one of the cache. -/
def sparingFetch (a : Adapter) (who : Occupant) (s : Snapshot) :
    Interaction (Bool × Adapter × Snapshot) := do
  if !a.primary.hasFetch then return (false, a, .zeroed)
  let r ← Interaction.call who .fetchLegacy
  let contextCache := a.contextCache.refresh Utf8.decode r.contextBuffer
  let identityCache := a.identityCache.refresh Wide.decode r.identityBuffer
  return (r.attached != 0, { a with contextCache, identityCache },
    ⟨r.vectors.zipWith Option.getD s.pose, copiedOver s.context contextCache.text,
      copiedOver s.identity identityCache.text⟩)

/-- A fetch without caches: what is read is decoded, and what is decoded is written. -/
def freshFetch (a : Adapter) (who : Occupant) (s : Snapshot) : Interaction (Bool × Snapshot) := do
  if !a.primary.hasFetch then return (false, .zeroed)
  let r ← Interaction.call who .fetchLegacy
  return (r.attached != 0, ⟨r.vectors.zipWith Option.getD s.pose, Utf8.decode r.contextBuffer,
    Wide.decode r.identityBuffer⟩)

/-- A text need not be copied over one that is the same. -/
theorem fetch_eq_sparing : a.fetch who s = a.sparingFetch who s := by
  unfold fetch sparingFetch
  simp only [contextBytes_eq, identityUnits_eq, copiedOver_eq]
  rfl

/-- The caches do not show in what is asked, in what the snapshot is afterwards or in whether the
plugin wants to go on. -/
theorem fetch_eq_fresh (h : a.Coherent) :
    (fun x => (x.1, x.2.2)) <$> a.fetch who s = a.freshFetch who s := by
  unfold fetch freshFetch
  simp only [h.1.text_refresh, h.2.text_refresh, contextBytes_eq, identityUnits_eq]
  split
  · rfl
  · rfl

/-- What comes of a fetch that was answered. -/
theorem answered_inv {r : LegacyFetchReply} {x : Bool × Adapter × Snapshot}
    (h : Yields (a.fetch who s) [⟨.plugin who .fetchLegacy, r⟩] x) :
    x = (r.attached != 0, a.refreshed r, s.apply ⟨r.vectors, (a.refreshed r).contextCache.text,
      (a.refreshed r).identityCache.text, r.attached != 0⟩) := by
  unfold fetch at h
  split at h
  · -- without a callback nothing is asked
    obtain ⟨ht, -⟩ := yields_done.1 h
    cases ht
  obtain ⟨u, v, r', ht, h₁, h₂⟩ := yields_bind.1 h
  obtain ⟨rfl, rfl⟩ := yields_done.1 h₂
  obtain rfl := yields_call.1 h₁
  obtain rfl : r' = r := by simpa using ht.symm
  rfl

end Adapter

/-! ## Fetches one after the other -/

/-- A fetch that was answered, between the snapshot as it was found and as it was left. -/
structure Visit where
  found : Snapshot
  reply : LegacyFetchReply
  proceed : Bool
  left : Snapshot

/-- The snapshot is left with what was fetched this time, whatever was fetched before and whatever
was found. Only a vector that the plugin did not write stays. -/
structure Visit.Afresh (x : Visit) : Prop where
  context : ∀ memory, x.reply.context = some memory →
    x.left.context = Utf8.decode (memory.take x.reply.contextLength)
  context_empty : x.reply.context = none ∨ x.reply.contextLength = 0 → x.left.context = ""
  identity : ∀ memory, x.reply.identity = some memory →
    x.left.identity = Wide.decode ((memory.take 65536).takeWhile (· != 0))
  identity_null : x.reply.identity = none → x.left.identity = ""
  pose : x.left.pose = x.reply.vectors.zipWith Option.getD x.found.pose
  proceed : x.proceed = true ↔ x.reply.attached ≠ 0

/-- The fetches of an adapter so far. Anything may happen to the snapshot between two of them. -/
inductive Adapter.Visited (who : Occupant) (a : Adapter) : List Visit → Adapter → Prop
  | nil : Visited who a [] a
  | snoc {xs : List Visit} {b c : Adapter} (x : Visit) (h : Visited who a xs b)
      (hx : Yields (b.fetch who x.found) [⟨.plugin who .fetchLegacy, x.reply⟩]
        (x.proceed, c, x.left)) :
      Visited who a (xs ++ [x]) c

namespace Adapter

variable {a b c : Adapter} {who : Occupant} {xs : List Visit} {x : Visit}

/-- The caches are what the buffers so far make of them. -/
structure Cached (xs : List Visit) (a : Adapter) : Prop where
  context : a.contextCache = .ofBuffers Utf8.decode (xs.map (·.reply.contextBuffer))
  identity : a.identityCache = .ofBuffers Wide.decode (xs.map (·.reply.identityBuffer))

theorem Cached.coherent (h : a.Cached xs) : a.Coherent := by
  rw [Coherent, h.context, h.identity]
  exact ⟨ChangeCache.coherent_ofBuffers _, ChangeCache.coherent_ofBuffers _⟩

/-- After a visit the caches have seen its buffers. -/
theorem Cached.refreshed (h : a.Cached xs) (x : Visit) :
    (a.refreshed x.reply).Cached (xs ++ [x]) := by
  constructor
  · rw [List.map_append, List.map_singleton, ← ChangeCache.refresh_ofBuffers, ← h.context,
      ← contextBytes_eq]
    rfl
  · rw [List.map_append, List.map_singleton, ← ChangeCache.refresh_ofBuffers, ← h.identity,
      ← identityUnits_eq]
    rfl

/-- A fetch takes in its own buffers, and the texts that it leaves are theirs. -/
theorem Cached.visit (h : b.Cached xs)
    (hx : Yields (b.fetch who x.found) [⟨.plugin who .fetchLegacy, x.reply⟩]
      (x.proceed, c, x.left)) :
    c.Cached (xs ++ [x]) ∧ x.Afresh := by
  obtain ⟨hproceed, hc, hleft⟩ : _ ∧ c = b.refreshed x.reply ∧ _ := by
    simpa only [Prod.mk.injEq] using answered_inv hx
  have hcontext : x.left.context = Utf8.decode x.reply.contextBuffer := by
    rw [hleft, ← contextBytes_eq]
    exact h.coherent.1.text_refresh _
  have hidentity : x.left.identity = Wide.decode x.reply.identityBuffer := by
    rw [hleft, ← identityUnits_eq]
    exact h.coherent.2.text_refresh _
  refine ⟨hc ▸ h.refreshed x, ?_⟩
  constructor
  case context =>
    intro memory hm
    rw [hcontext, LegacyFetchReply.contextBuffer, hm]
  case context_empty =>
    intro hnone
    have hbuffer : x.reply.contextBuffer = [] := by
      unfold LegacyFetchReply.contextBuffer
      rcases hnone with hnone | hzero
      · rw [hnone]
      · rw [hzero]
        cases x.reply.context <;> rfl
    rw [hcontext, hbuffer]
    exact Plugin.coherentCaches_empty.1.symm
  case identity =>
    intro memory hm
    rw [hidentity, LegacyFetchReply.identityBuffer, hm]
  case identity_null =>
    intro hnone
    rw [hidentity, LegacyFetchReply.identityBuffer, hnone]
    exact Plugin.coherentCaches_empty.2.symm
  case pose => rw [hleft]; rfl
  case proceed => simp [hproceed]

/-- The caches and all the snapshots after some fetches. -/
theorem Visited.cached (hv : a.Visited who xs b) (ha : a.Cached []) :
    b.Cached xs ∧ ∀ x ∈ xs, x.Afresh := by
  induction hv with
  | nil => exact ⟨ha, by simp⟩
  | snoc x _ hx ih =>
    obtain ⟨hc, hafresh⟩ := ih.1.visit hx
    refine ⟨hc, fun y hy => ?_⟩
    rcases List.mem_append.1 hy with hy | hy
    · exact ih.2 y hy
    · exact List.mem_singleton.1 hy ▸ hafresh

/-- An adapter begins with caches that no buffer was put into. -/
theorem cached_of_resolve {table : SymbolTable} {t : Transcript}
    (h : Yields (resolve who table) t (.ok a)) : a.Cached [] := by
  obtain ⟨hcontext, hidentity, -⟩ := (resolve_inv h).2 a rfl
  constructor
  · rw [hcontext, List.map_nil, ChangeCache.ofBuffers_nil Plugin.coherentCaches_empty.1.symm]
  · rw [hidentity, List.map_nil, ChangeCache.ofBuffers_nil Plugin.coherentCaches_empty.2.symm]

/-- The caches of an older plugin cannot be observed. Each of its fetches leaves the texts of its
own buffers, a further fetch is one that spares what it can and comes to the same as one without
caches, and the caches hold the last buffers, replaced as often as a buffer differed from the one
before it. -/
theorem caches_unobservable {table : SymbolTable} {t : Transcript}
    (hr : Yields (resolve who table) t (.ok a)) (hv : a.Visited who xs b) :
    (∀ x ∈ xs, x.Afresh) ∧
    (∀ s, b.fetch who s = b.sparingFetch who s) ∧
    (∀ s, (fun x => (x.1, x.2.2)) <$> b.fetch who s = b.freshFetch who s) ∧
    b.contextCache = .ofBuffers Utf8.decode (xs.map (·.reply.contextBuffer)) ∧
    b.identityCache = .ofBuffers Wide.decode (xs.map (·.reply.identityBuffer)) := by
  obtain ⟨hcached, hafresh⟩ := hv.cached (cached_of_resolve hr)
  exact ⟨hafresh, fun _ => fetch_eq_sparing, fun _ => fetch_eq_fresh hcached.coherent,
    hcached.context,
    hcached.identity⟩

/-- Whatever snapshot is found and whatever the plugin hands out, there is such a fetch. -/
theorem Visited.exists_answered (h : a.Visited who xs b) (hfetch : b.primary.hasFetch = true)
    (s : Snapshot) (r : LegacyFetchReply) :
    ∃ x c, x.found = s ∧ x.reply = r ∧ a.Visited who (xs ++ [x]) c ∧
      c.primary.hasFetch = true := by
  have hx : Yields (b.fetch who s) [⟨.plugin who .fetchLegacy, r⟩]
      (r.attached != 0, b.refreshed r, s.apply ⟨r.vectors, (b.refreshed r).contextCache.text,
        (b.refreshed r).identityCache.text, r.attached != 0⟩) := by
    unfold fetch
    rw [if_neg (by simp [hfetch])]
    exact yields_bind.2
      ⟨_, _, r, (List.append_nil _).symm, yields_call.2 rfl, yields_done.2 ⟨rfl, rfl⟩⟩
  exact ⟨⟨s, r, _, _⟩, b.refreshed r, rfl, rfl, h.snoc ⟨s, r, _, _⟩ hx, hfetch⟩

end Adapter

/-! ## A parrot -/

namespace Parrot

/-- It has a fetch and nothing else. -/
def primary : LegacyPrimary :=
  ⟨magic, none, none, false, false, false, false, false, true⟩

def table : SymbolTable := .ofNames "parrot" [LegacySymbol.primary]

def occupant : Occupant := ⟨0, .builtIn 0⟩

def answer : (q : Query) → q.Reply
  | .plugin _ .primaryFactory => some primary
  | .plugin _ c => c.silence
  | .processes => []
  | .report _ => ()
  | .write _ => .ok ()
  | .pause _ => ()

def adapter : Adapter := ⟨primary, none, none, unknownName, noDescription, .empty, .empty⟩

/-- What it says. The first byte is no character, and not all bytes count. -/
def phrase : LegacyFetchReply :=
  ⟨.replicate none, some [0xff, 0x61, 0x00, 0x62], 3, some [0xd800, 0x62, 0, 0x63], 1⟩

/-- What it says when it has nothing to say. -/
def hush : LegacyFetchReply := ⟨.replicate none, none, 7, none, 0⟩

/-- Its code is accepted as that of an older plugin. -/
theorem resolve_table :
    Yields (Adapter.resolve occupant table) [⟨.plugin occupant .primaryFactory, some primary⟩]
      (.ok adapter) := by
  have h := yields_record answer (Adapter.resolve occupant table)
  have hr : (Adapter.resolve occupant table).record answer =
      ([⟨.plugin occupant .primaryFactory, some primary⟩], .ok adapter) := by
    rfl
  rw [hr] at h
  exact h

end Parrot

namespace Adapter

/-- The parrot says the same twice and then falls silent. What it left in the snapshot is lost every
time. -/
theorem caches_unobservable_parrot :
    ∃ xs b, Parrot.adapter.Visited Parrot.occupant xs b ∧
      xs.map (·.found) = [.zeroed, .zeroed, .zeroed] ∧
      xs.map (·.reply) = [Parrot.phrase, Parrot.phrase, Parrot.hush] ∧
      xs.map (·.left.context) = ["\uFFFDa\u0000", "\uFFFDa\u0000", ""] ∧
      xs.map (·.left.identity) = ["\uFFFDb", "\uFFFDb", ""] ∧
      b.contextCache.replacements = 2 ∧ b.identityCache.replacements = 2 := by
  obtain ⟨x, _, hfx, hrx, hx, hx'⟩ :=
    (Visited.nil (a := Parrot.adapter)).exists_answered rfl .zeroed Parrot.phrase
  obtain ⟨y, _, hfy, hry, hy, hy'⟩ := hx.exists_answered hx' .zeroed Parrot.phrase
  obtain ⟨z, b, hfz, hrz, hz, -⟩ := hy.exists_answered hy' .zeroed Parrot.hush
  obtain ⟨hafresh, -, -, hcontext, hidentity⟩ := caches_unobservable Parrot.resolve_table hz
  have hspoken (v : Visit) (hv : v.Afresh) (hr : v.reply = Parrot.phrase) :
      v.left.context = "\uFFFDa\u0000" ∧ v.left.identity = "\uFFFDb" := by
    rw [hv.context [0xff, 0x61, 0x00, 0x62] (by rw [hr]; rfl),
      hv.identity [0xd800, 0x62, 0, 0x63] (by rw [hr]; rfl), hr]
    exact ⟨by decide +kernel, by decide +kernel⟩
  have hsilent : z.left.context = "" ∧ z.left.identity = "" :=
    ⟨(hafresh z (by simp)).context_empty (.inl (by rw [hrz]; rfl)),
      (hafresh z (by simp)).identity_null (by rw [hrz]; rfl)⟩
  refine ⟨_, b, hz, ?_, ?_, ?_, ?_, ?_, ?_⟩
  · simp [hfx, hfy, hfz]
  · simp [hrx, hry, hrz]
  · simp [hspoken x (hafresh x (by simp)) hrx, hspoken y (hafresh y (by simp)) hry, hsilent]
  · simp [hspoken x (hafresh x (by simp)) hrx, hspoken y (hafresh y (by simp)) hry, hsilent]
  · rw [hcontext]
    simp only [List.nil_append, List.cons_append, List.map_cons, List.map_nil, hrx, hry, hrz]
    decide +kernel
  · rw [hidentity]
    simp only [List.nil_append, List.cons_append, List.map_cons, List.map_nil, hrx, hry, hrz]
    decide +kernel

end Adapter
end Legacy
end PluginHost
