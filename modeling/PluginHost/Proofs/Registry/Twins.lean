import PluginHost.Proofs.Roster.Twins

/-!
# An older plugin in the place of a current one

Two registries that are the same but for one place, where one has a plugin of the current interface
and the other an older plugin that delivers the same. Nobody who looks at the registries from
outside can tell them apart.

* **`Registry.Twins`**: such registries.
* **`Errand`**: what a host does with its plugins between two scans. **`Outcome`**: what it hears of
  it.
* **`Sight`**: what shows of a registry. **`Registry.watch`**: what is heard and seen in a run.
* **`Twins.perform`**: every errand goes on in step.
* **`generations_agree`**: what is heard and seen in any run is the same.
-/

namespace PluginHost

open Interaction

/-! ## Errands -/

/-- What a host does with its plugins between two scans. -/
inductive Errand where
  | tick
  | enableFor (id : PluginId) (on : Bool)
  | load (id : PluginId)
  | unload (id : PluginId)
deriving DecidableEq, Repr

/-- What an errand returns. -/
inductive Outcome where
  | ticked (fresh : Bool)
  | toggled
  | loaded (result : Except PluginError Status)
  | unloaded (result : Except PluginError Unit)

def Errand.perform (r : Registry) : Errand → Interaction (Outcome × Registry)
  | tick => do
    let (fresh, r) ← r.tick
    return (.ticked fresh, r)
  | enableFor id on => do
    let r ← r.enableFor id on
    return (.toggled, r)
  | load id => do
    let (result, r) ← r.load id
    return (.loaded result, r)
  | unload id => do
    let (result, r) ← r.unload id
    return (.unloaded result, r)

/-- What shows of a registry: the snapshot, the identity of the provider, and of each plugin its
identity and whether it is loaded, enabled and active. -/
structure Sight where
  snapshot : Snapshot
  provider : Option PluginId
  plugins : List Plugin.Badge
deriving DecidableEq, Repr

namespace Registry

def sight (r : Registry) : Sight :=
  ⟨r.snapshot, r.providing?.map (·.id), r.plugins.map Plugin.badge⟩

variable {σ : Type} {W W' : World σ} {g : Programme σ} {c l : Nat} {r r' : Registry}

/-- What is returned and what is seen after every errand. -/
def watch (W : World σ) : List Errand → Registry → σ → List (Outcome × Sight)
  | [], _, _ => []
  | e :: es, r, s =>
    let x := (e.perform r).run W s
    (x.1.1, x.1.2.sight) :: watch W es x.1.2 x.2

/-- The second half of `enableFor`, with the roster that the first half leaves. -/
def enableIn (r : Registry) (id : PluginId) (on : Bool) (o : Roster) : Interaction Registry :=
  match o.byId? id with
  | none => return { r with roster := o }
  | some p => do
    let p ← p.enable on
    return { r with roster := o.update p }

/-! ## Twins -/

/-- Twins in the same places, with the same snapshot and the same permission by default. -/
structure Twins (c l : Nat) (r r' : Registry) : Prop where
  allowed : r.positionalDefault = r'.positionalDefault
  roster : r.roster.Twins c l r'.roster
  snapshot : r.snapshot = r'.snapshot

namespace Twins

variable (h : Twins c l r r')
include h

/-- What a host can see is the same in both. -/
theorem sight_eq : r.sight = r'.sight := by
  have hprovider : r.providing?.map (·.id) = r'.providing?.map (·.id) := by
    have hproviding := h.roster.providing?
    unfold Registry.providing?
    generalize r.roster.providing? = a, r'.roster.providing? = b at hproviding
    cases hproviding with
    | none => rfl
    | some hp => exact congrArg some hp.id_eq
  have hplugins : r.plugins.map Plugin.badge = r'.plugins.map Plugin.badge := by
    rw [← List.forall₂_eq_eq_eq]
    exact List.rel_map (fun _ _ hp => hp.badge_eq) h.roster.plugins
  rw [sight, sight, h.snapshot, hprovider, hplugins]

theorem with_roster {o o' : Roster} (ho : o.Twins c l o') :
    Twins c l { r with roster := o } { r' with roster := o' } :=
  ⟨h.allowed, ho, h.snapshot⟩

variable (hs : g.Staged W W' c l)
include hs

/-- From here on, one lemma for each operation, built from what plugins and rosters that are twins
do in step. -/
theorem load {id : PluginId} : InStep W W' (Beside (Twins c l)) (r.load id) (r'.load id) := by
  have hfind := h.roster.byId? id
  unfold Registry.load Registry.byId?
  generalize r.roster.byId? id = a, r'.roster.byId? id = b at hfind
  cases hfind with
  | none => exact inStep_done ⟨rfl, h⟩
  | some hp =>
    dsimp only
    rw [h.allowed]
    exact (hp.activate hs).bind fun x y hxy =>
      inStep_done ⟨hxy.1, h.with_roster (h.roster.update hxy.2)⟩

theorem unload {id : PluginId} : InStep W W' (Beside (Twins c l)) (r.unload id) (r'.unload id) := by
  have hfind := h.roster.byId? id
  unfold Registry.unload Registry.byId?
  generalize r.roster.byId? id = a, r'.roster.byId? id = b at hfind
  cases hfind with
  | none => exact inStep_done ⟨rfl, h⟩
  | some _ =>
    refine (h.roster.releaseIf hs).bind fun x y hxy => ?_
    -- the provider was told to stop, so the plugin is looked for once more
    have hfind := hxy.2.byId? id
    dsimp only
    generalize x.2.byId? id = a, y.2.byId? id = b at hfind
    cases hfind with
    | none => exact inStep_done ⟨rfl, h.with_roster hxy.2⟩
    | some hp =>
      exact (hp.shutdown hs).bind fun _ _ hq => inStep_done ⟨rfl, h.with_roster (hxy.2.update hq)⟩

theorem enableIn {id : PluginId} {on : Bool} {o o' : Roster} (ho : o.Twins c l o') :
    InStep W W' (Twins c l) (r.enableIn id on o) (r'.enableIn id on o') := by
  have hfind := ho.byId? id
  unfold Registry.enableIn
  generalize o.byId? id = a, o'.byId? id = b at hfind
  cases hfind with
  | none => exact inStep_done (h.with_roster ho)
  | some hp => exact (hp.enable hs).bind fun _ _ hq => inStep_done (h.with_roster (ho.update hq))

theorem enableFor {id : PluginId} {on : Bool} :
    InStep W W' (Twins c l) (r.enableFor id on) (r'.enableFor id on) := by
  have hfind := h.roster.byId? id
  unfold Registry.enableFor Registry.byId?
  generalize r.roster.byId? id = a, r'.roster.byId? id = b at hfind
  cases hfind with
  | none => exact inStep_done h
  | some _ =>
    -- who is forbidden and provides is told to stop first
    cases on with
    | true => exact (inStep_done (R := Roster.Twins c l) h.roster).bind fun _ _ => h.enableIn hs
    | false =>
      exact ((h.roster.releaseIf hs).bind fun _ _ hxy => inStep_done hxy.2).bind
        fun _ _ => h.enableIn hs

/-- Both look for a provider, fetch and fail over in step. The frames are the same because both
worlds play the same scene. -/
theorem tick : InStep W W' (Beside (Twins c l)) r.tick r'.tick := by
  unfold Registry.tick
  refine (h.roster.arbitrate hs h.roster.handles).bind fun o o' ho => ?_
  have hproviding := ho.providing?
  dsimp only
  generalize o.providing? = a, o'.providing? = b at hproviding
  cases hproviding with
  | none => exact inStep_done ⟨rfl, h.allowed, ho, rfl⟩
  | some hp =>
    dsimp only
    rw [h.snapshot]
    refine (hp.fetch hs).bind fun x y hxy => ?_
    obtain ⟨proceed, p, a⟩ := x
    obtain ⟨proceed', p', a'⟩ := y
    obtain ⟨hproceed, hp, ha⟩ := hxy
    obtain rfl : proceed = proceed' := hproceed
    obtain rfl : a = a' := ha
    dsimp only at hp ⊢
    have ho := ho.update hp
    split
    · exact inStep_done ⟨rfl, h.allowed, ho, rfl⟩
    · -- the provider stopped, so its session ends and the others are asked
      refine (ho.release hs).bind fun o o' ho => ?_
      rw [hp.id_eq]
      exact (ho.arbitrate hs (ho.handles_others p'.id)).bind fun _ _ ho =>
        inStep_done ⟨rfl, h.allowed, ho, rfl⟩

/-- Every errand is run in step. -/
theorem perform (e : Errand) :
    InStep W W' (Beside (Twins c l)) (e.perform r) (e.perform r') := by
  cases e with
  | tick =>
    exact (h.tick hs).bind fun _ _ hxy => inStep_done ⟨congrArg Outcome.ticked hxy.1, hxy.2⟩
  | enableFor id on => exact (h.enableFor hs).bind fun _ _ hr => inStep_done ⟨rfl, hr⟩
  | load id =>
    exact (h.load hs).bind fun _ _ hxy => inStep_done ⟨congrArg Outcome.loaded hxy.1, hxy.2⟩
  | unload id =>
    exact (h.unload hs).bind fun _ _ hxy => inStep_done ⟨congrArg Outcome.unloaded hxy.1, hxy.2⟩

end Twins

/-- Whatever the programme is, whatever the other plugins do and whatever errands are run: with a
plugin of the current interface and with an older one the same is returned and the same is seen. -/
theorem generations_agree (hs : g.Staged W W' c l) (h : Twins c l r r') (es : List Errand) (s : σ) :
    watch W es r s = watch W' es r' s := by
  induction es generalizing r r' s with
  | nil => rfl
  | cons e es ih =>
    obtain ⟨⟨houtcome, hr⟩, hstate⟩ := h.perform hs e s
    simp only [watch]
    rw [houtcome, hr.sight_eq, hstate, ih hr]

end Registry

/-! ## A game with either plugin -/

namespace Understudy

/-- What both interfaces look for. -/
def table : SymbolTable :=
  ⟨"game", (EntryPoint.mandatory ++ EntryPoint.positional).map (fun e => (e.symbol, 1)) ++
    [(LegacySymbol.primary, 1)]⟩

/-- An older plugin with the plain lock. -/
def primary : LegacyPrimary :=
  ⟨Legacy.magic, none, some (Wide.encode "game"), false, false, true, true, false, true⟩

/-- Everybody is found and starts. -/
def answer : (q : Query) → q.Reply
  | .plugin _ .load => some table
  | .plugin _ .apiVersion => .pluginApi
  | .plugin _ .primaryFactory => some primary
  | .plugin _ c => c.silence
  | .processes => []
  | .report _ => ()
  | .write _ => .ok ()
  | .pause _ => ()

/-- A scan finds the game's plugin, of one interface or the other, and a second plugin. -/
def operations (generation : Generation) : List Operation :=
  [.registerBuiltIn ⟨"game", generation⟩, .registerBuiltIn ⟨"other", .current⟩, .rescan ⟨[], []⟩]

def start (generation : Generation) : Registry :=
  ((Registry.new ⟨none, none⟩).record answer (operations generation)).2

def current : Plugin :=
  ⟨⟨0, .builtIn 0⟩, 1, .current, "game", .current (.ofTable table), true, true, true, false⟩

def older : Plugin :=
  ⟨⟨0, .builtIn 0⟩, 1, .legacy, "game",
    .legacy ⟨primary, none, none, "game", Legacy.noDescription, .empty, .empty⟩,
    true, true, true, false⟩

def other : Plugin := { current with who := ⟨1, .builtIn 1⟩, id := 2 }

theorem plugins_start : (start .current).plugins = [current, other] ∧
    (start .legacy).plugins = [older, other] := by
  decide +kernel

/-- Both registries hold the plugin that is played twice, once in each generation, and another
one. -/
theorem twins_start : Registry.Twins 0 0 (start .current) (start .legacy) := by
  obtain ⟨hcurrent, holder⟩ := plugins_start
  have hallowed : (start .current).positionalDefault = (start .legacy).positionalDefault := rfl
  have hsnapshot : (start .current).snapshot = (start .legacy).snapshot := rfl
  have hprovider :
      (start .current).roster.provider = none ∧ (start .legacy).roster.provider = none :=
    ⟨rfl, rfl⟩
  have hsound {generation : Generation} {p : Plugin} (hp : p ∈ (start generation).plugins) :
      p.Sound :=
    ((Registry.follows_record answer _ _).consistent (Registry.consistent_new _)).roster.sound p hp
  have hmem : current ∈ (start .current).plugins := by
    rw [hcurrent]
    exact List.mem_cons_self ..
  have hmem' : older ∈ (start .legacy).plugins := by
    rw [holder]
    exact List.mem_cons_self ..
  have hpair : Plugin.Twin current.handle older.handle current older :=
    .pair ((hsound hmem).isCurrent rfl (by decide +kernel))
      ((hsound hmem').isLegacy rfl rfl (.inr rfl)) rfl
  refine ⟨hallowed, ⟨?_, ?_⟩, hsnapshot⟩
  · change List.Forall₂ _ (start .current).plugins (start .legacy).plugins
    rw [hcurrent, holder]
    exact .cons hpair (.cons (.other (by decide) (by decide)) .nil)
  · rw [hprovider.1, hprovider.2]
    exact .none

/-- The first frame has a text for both, the second leaves one out and writes another vector. -/
def opening : Scene where
  vectors := { Pose.replicate none with avatarPosition := some ⟨.one, .zero, .zero⟩ }
  context := some "match"
  identity := some "hero"
  proceed := true
  context_plain := by rintro _ ⟨⟩; decide
  identity_plain := by rintro _ ⟨⟩; decide
  identity_short := by rintro _ ⟨⟩; decide

def middle : Scene where
  vectors := { Pose.replicate none with cameraPosition := some ⟨.zero, .one, .zero⟩ }
  context := none
  identity := some "hero"
  proceed := true
  context_plain := by rintro _ ⟨⟩
  identity_plain := by rintro _ ⟨⟩; decide
  identity_short := by rintro _ ⟨⟩; decide

def ending : Scene := { middle with proceed := false }

/-- Two offers are refused for now. After two frames the game is over. -/
def programme : Programme (Nat × Nat) :=
  .ofSequences (fun n => 2 ≤ n) fun
    | 0 => opening
    | 1 => middle
    | _ => ending

def errands : List Errand :=
  [.tick, .tick, .tick, .unload 1, .load 1, .tick, .enableFor 1 false, .tick]

end Understudy

namespace Registry

/-- Either plugin refuses at first, provides for two ticks, is unloaded and started again, and is
forbidden in the end. -/
theorem generations_agree_understudy :
    watch Understudy.programme.world Understudy.errands (Understudy.start .current) (0, 0) =
        watch Understudy.programme.world Understudy.errands (Understudy.start .legacy) (0, 0) ∧
      (watch Understudy.programme.world Understudy.errands (Understudy.start .legacy) (0, 0)).map
          (fun x => x.2.provider) =
        [none, some 1, some 1, none, none, some 2, some 2, none] :=
  ⟨generations_agree (Understudy.programme.staged_world 0 0) Understudy.twins_start
    Understudy.errands (0, 0), by decide +kernel⟩

end Registry
end PluginHost
