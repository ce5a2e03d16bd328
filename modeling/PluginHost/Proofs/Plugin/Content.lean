import PluginHost.Demo
import PluginHost.Installer
import PluginHost.Proofs.Plugin.Attempt

/-!
# Libraries that answer by their content

What a library answers when it is loaded or asked about itself may depend on anything. Here it
depends on the content of the file alone, wherever the file is and whenever it is asked.

* **`Nature`**: what libraries answer, by their content. **`Transcript.Natural`**: everybody
  answered like that.
* **`Interaction.Agree`**: two interactions come to related results, whenever libraries answer by
  their content. **`Agree.bind`**: interactions that agree go on in agreement.
* **`agree_create`**, **`agree_info`**: whether a library becomes a plugin, how it is driven and
  what it says of itself does not depend on the file or on when it is tried.
* **`Interaction.Probes`**: one source is loaded, asked about itself and released, and nothing else.
-/

namespace PluginHost

open Interaction Transcript

/-- What libraries answer when they are loaded or asked about themselves, by their content. -/
abbrev Nature := Content → (c : Call) → c.Reply

/-- A library that is loaded or asked about itself answers by its content. -/
def Exchange.Natural (nature : Nature) : Exchange → Prop
  | ⟨.plugin ⟨_, .library _ (some (_, content))⟩ c, r⟩ =>
    c = .load ∨ c.isMetadata = true → r = nature content c
  | _ => True

/-- Libraries answered by their content. -/
def Transcript.Natural (nature : Nature) (t : Transcript) : Prop := ∀ e ∈ t, e.Natural nature

/-- A library with this content. -/
def Source.Holds (source : Source) (content : Content) : Prop :=
  ∃ path l, source = .library path (some (l, content))

section

variable {nature : Nature} {t u : Transcript} {content : Content} {who : Occupant} {c : Call}
  {r : c.Reply}

theorem Transcript.Natural.left (h : Natural nature (t ++ u)) : t.Natural nature :=
  fun e he => h e (List.mem_append_left u he)

theorem Transcript.Natural.right (h : Natural nature (t ++ u)) : u.Natural nature :=
  fun e he => h e (List.mem_append_right t he)

/-- A library that is mapped or asked about itself answers by its content. -/
theorem Transcript.Natural.reply_eq (h : Natural nature [⟨.plugin who c, r⟩])
    (hw : who.source.Holds content) (hc : c = .load ∨ c.isMetadata = true) :
    r = nature content c := by
  obtain ⟨handle, source⟩ := who
  obtain ⟨path, l, rfl⟩ := hw
  exact h _ (List.mem_singleton_self _) hc

end

/-- Libraries answer by their content, and nobody else has anything to say. -/
def Nature.answer (nature : Nature) : (q : Query) → q.Reply
  | .plugin ⟨_, .library _ (some (_, content))⟩ c => nature content c
  | .plugin _ c => c.silence
  | .processes => []
  | .report _ => ()
  | .write _ => .ok ()
  | .pause _ => ()

/-- Whatever libraries answer by their content, there are such libraries. -/
theorem Interaction.natural_record {α : Type} (nature : Nature) (x : Interaction α) :
    Transcript.Natural nature (x.record nature.answer).1 := by
  induction x with
  | done a => exact fun e he => absurd he List.not_mem_nil
  | ask q next ih =>
    intro e he
    rcases List.mem_cons.1 he with rfl | he
    · match q with
      | .plugin ⟨_, .library _ (some (_, _))⟩ _ => exact fun _ => rfl
      | .plugin ⟨_, .library _ none⟩ _ => trivial
      | .plugin ⟨_, .builtIn _⟩ _ => trivial
      | .processes => trivial
      | .report _ => trivial
      | .write _ => trivial
      | .pause _ => trivial
    · exact ih _ e he

namespace Interaction

variable {α β γ δ : Type} {nature : Nature} {R : α → β → Prop} {Q : γ → δ → Prop}
  {x x' : Interaction α} {y y' : Interaction β} {source : Source}

/-! ## Agreement -/

/-- Whenever libraries answer by their content, the results are related. -/
def Agree (nature : Nature) (R : α → β → Prop) (x : Interaction α) (y : Interaction β) : Prop :=
  ∀ t a u b, Yields x t a → Yields y u b → t.Natural nature → u.Natural nature → R a b

/-- From here on, agreement is closed under the ways in which interactions are built. -/
theorem agree_done {a : α} {b : β} (h : R a b) : Agree nature R (done a) (done b) := by
  intro t a' u b' ha hb _ _
  rw [(yields_done.1 ha).2, (yields_done.1 hb).2]
  exact h

/-- Two libraries of one content answer a question alike. -/
theorem agree_call {who who' : Occupant} {content : Content} {c : Call}
    (hw : who.source.Holds content) (hw' : who'.source.Holds content)
    (hc : c = .load ∨ c.isMetadata = true) :
    Agree nature (fun r r' => r = r') (call who c) (call who' c) := by
  intro t r u r' hr hr' ht hu
  rw [yields_call.1 hr] at ht
  rw [yields_call.1 hr'] at hu
  rw [ht.reply_eq hw hc, hu.reply_eq hw' hc]

/-- Agreement of what is done first, and of what follows related results, is agreement of the
whole. -/
theorem Agree.bind {f : α → Interaction γ} {g : β → Interaction δ} (hx : Agree nature R x y)
    (hf : ∀ a b, R a b → Agree nature Q (f a) (g b)) : Agree nature Q (x.bind f) (y.bind g) := by
  intro t c u d hc hd ht hu
  obtain ⟨t₁, t₂, a, rfl, hx₁, hf₁⟩ := yields_bind.1 hc
  obtain ⟨u₁, u₂, b, rfl, hy₁, hg₁⟩ := yields_bind.1 hd
  have hab : R a b := hx t₁ a u₁ b hx₁ hy₁ ht.left hu.left
  exact hf a b hab t₂ c u₂ d hf₁ hg₁ ht.right hu.right

/-- A question that is put under a condition, with what follows in either case. -/
theorem agree_ite_bind {b : Bool} {f : α → Interaction γ} {g : β → Interaction δ}
    (hx : Agree nature R x y) (hx' : Agree nature R x' y')
    (hf : ∀ a b, R a b → Agree nature Q (f a) (g b)) :
    Agree nature Q (if b then x >>= f else x' >>= f) (if b then y >>= g else y' >>= g) := by
  cases b
  · exact hx'.bind hf
  · exact hx.bind hf

/-! ## Probes -/

/-- One source is loaded, asked about itself and released, and nothing else. -/
def Probes (source : Source) (x : Interaction α) : Prop :=
  ∀ t a, Yields x t a → ∀ e ∈ t, ∃ handle c, e.query = .plugin ⟨handle, source⟩ c ∧
    (c = .load ∨ c = .unload ∨ c.isMetadata = true)

/-- From here on, the same for probes. -/
theorem probes_done {a : α} : Probes source (done a) := by
  intro t b h e he
  simp [(yields_done.1 h).1] at he

theorem probes_call {who : Occupant} {c : Call}
    (hc : c = .load ∨ c = .unload ∨ c.isMetadata = true) : Probes who.source (call who c) := by
  intro t r h e he
  rw [yields_call.1 h] at he
  rw [List.mem_singleton.1 he]
  exact ⟨who.handle, c, rfl, hc⟩

theorem Probes.bind {f : α → Interaction γ} (hx : Probes source x)
    (hf : ∀ t a, Yields x t a → Probes source (f a)) : Probes source (x.bind f) := by
  intro t b h e he
  obtain ⟨u, v, a, rfl, hu, hv⟩ := yields_bind.1 h
  rcases List.mem_append.1 he with he | he
  · exact hx u a hu e he
  · exact hf u a hu v b hv e he

theorem probes_ite_bind {b : Bool} {f : α → Interaction γ} (hx : Probes source x)
    (hx' : Probes source x') (hf : ∀ a, Probes source (f a)) :
    Probes source (if b then x >>= f else x' >>= f) := by
  cases b
  · exact hx'.bind fun _ a _ => hf a
  · exact hx.bind fun _ a _ => hf a

end Interaction

variable {nature : Nature} {who who' : Occupant} {content : Content} {source source' : Source}
  {ledger ledger' : Ledger} {generation : Generation}

/-! ## Older plugins -/

namespace Legacy

/-- Two libraries of one content describe themselves alike. -/
theorem agree_readDescription {primary : LegacyPrimary} (hw : who.source.Holds content)
    (hw' : who'.source.Holds content) :
    Agree nature (fun s s' => s = s') (readDescription who primary)
    (readDescription who' primary) := by
  refine agree_ite_bind (R := fun s s' => s = s') ?_ (agree_done rfl) ?_
  · refine (agree_call hw hw' (.inr rfl)).bind ?_
    rintro long _ rfl
    exact agree_done rfl
  · rintro long _ rfl
    exact agree_done rfl

/-- The label of a table appears in errors only. -/
theorem agree_resolve {table table' : SymbolTable} (hexports : table.exports = table'.exports)
    (hw : who.source.Holds content) (hw' : who'.source.Holds content) :
    Agree nature (fun x y => x.toOption = y.toOption) (Adapter.resolve who table)
      (Adapter.resolve who' table') := by
  unfold Adapter.resolve
  rw [hexports]
  split
  · exact agree_done rfl
  refine (agree_call (c := .primaryFactory) hw hw' (.inr rfl)).bind ?_
  rintro (_ | primary) _ rfl
  · exact agree_done rfl
  dsimp only
  split
  · exact agree_done rfl
  split
  · exact agree_done rfl
  refine agree_ite_bind (agree_call hw hw' (.inr rfl)) (agree_done rfl) ?_
  rintro extended _ rfl
  refine agree_ite_bind (agree_call hw hw' (.inr rfl)) (agree_done rfl) ?_
  rintro dialogs _ rfl
  refine (agree_readDescription hw hw').bind ?_
  rintro description _ rfl
  exact agree_done rfl

theorem probes_readDescription {primary : LegacyPrimary} :
    Probes who.source (readDescription who primary) := by
  refine probes_ite_bind ?_ probes_done fun _ => probes_done
  exact (probes_call (.inr (.inr rfl))).bind fun _ _ _ => probes_done

theorem probes_resolve {table : SymbolTable} : Probes who.source (Adapter.resolve who table) := by
  unfold Adapter.resolve
  split
  · exact probes_done
  refine (probes_call (.inr (.inr rfl))).bind fun _ r _ => ?_
  cases r with
  | none => exact probes_done
  | some primary =>
    dsimp only
    split
    · exact probes_done
    split
    · exact probes_done
    refine probes_ite_bind (probes_call (.inr (.inr rfl))) probes_done fun _ => ?_
    refine probes_ite_bind (probes_call (.inr (.inr rfl))) probes_done fun _ => ?_
    exact probes_readDescription.bind fun _ _ _ => probes_done

end Legacy

/-! ## Creation -/

namespace Plugin

variable {p q : Plugin}

/-- The interface of a plugin and how it is driven. -/
def kind (p : Plugin) : Generation × Backend := (p.generation, p.backend)

/-- Two libraries of one content pass validation with the same result, or both fail. -/
theorem agree_validate {table table' : SymbolTable} (hexports : table.exports = table'.exports)
    (hw : who.source.Holds content) (hw' : who'.source.Holds content) :
    Agree nature (fun x y => x.toOption = y.toOption) (validate generation who table)
      (validate generation who' table') := by
  cases generation with
  | current =>
    refine agree_done ?_
    have hfirst : EntryPoints.firstMissing? table = EntryPoints.firstMissing? table' := by
      unfold EntryPoints.firstMissing?
      rw [hexports]
    have hall : EntryPoints.ofTable table = EntryPoints.ofTable table' := by
      unfold EntryPoints.ofTable EntryPoints.exportsPositional
      rw [hexports]
    unfold EntryPoints.resolve
    rw [hfirst, hall]
    cases EntryPoints.firstMissing? table' <;> rfl
  | legacy =>
    refine (Legacy.agree_resolve hexports hw hw').bind fun x y hxy => agree_done ?_
    cases x <;> cases y <;> simp_all [Except.map, Except.toOption]

/-- Two attempts to use libraries with one content end alike, but for identities and errors. -/
theorem agree_create (hs : source.Holds content) (hs' : source'.Holds content) :
    Agree nature (fun x y => x.1.toOption.map kind = y.1.toOption.map kind)
      (create source generation ledger) (create source' generation ledger') := by
  refine (agree_call hs hs' (.inl rfl)).bind ?_
  rintro (_ | table) _ rfl
  · exact agree_done rfl
  obtain ⟨path, l, rfl⟩ := hs
  obtain ⟨path', l', rfl⟩ := hs'
  have hvalid : Agree nature (fun x y => x.toOption = y.toOption)
      (validate generation ⟨ledger.nextHandle, .library path (some (l, content))⟩
        { table with origin := path.text })
      (validate generation ⟨ledger'.nextHandle, .library path' (some (l', content))⟩
        { table with origin := path'.text }) :=
    agree_validate rfl ⟨path, l, rfl⟩ ⟨path', l', rfl⟩
  refine hvalid.bind fun x y hxy => ?_
  cases x with
  | ok b =>
    cases y with
    | ok b' =>
      obtain rfl : b = b' := by simpa [Except.toOption] using hxy
      exact agree_done rfl
    | error e => simp [Except.toOption] at hxy
  | error e =>
    cases y with
    | ok b => simp [Except.toOption] at hxy
    | error e' =>
      intro t a u a' ha ha' _ _
      obtain ⟨_, _, _, -, -, ha⟩ := yields_bind.1 ha
      obtain ⟨_, _, _, -, -, ha'⟩ := yields_bind.1 ha'
      rw [(yields_done.1 ha).2, (yields_done.1 ha').2]
      rfl

theorem probes_validate {table : SymbolTable} :
    Probes who.source (validate generation who table) := by
  cases generation with
  | current => exact probes_done
  | legacy => exact Legacy.probes_resolve.bind fun _ _ _ => probes_done

/-- Creating a plugin is a probe of its source. -/
theorem probes_create : Probes source (create source generation ledger) := by
  have hload : Probes source (Interaction.call ⟨ledger.nextHandle, source⟩ .load) :=
    probes_call (.inl rfl)
  have hunload : Probes source (Interaction.call ⟨ledger.nextHandle, source⟩ .unload) :=
    probes_call (.inr (.inl rfl))
  refine hload.bind fun _ r _ => ?_
  cases r with
  | none => exact probes_done
  | some table =>
    have hvalid : Probes source
        (validate generation ⟨ledger.nextHandle, source⟩ (labelled source table)) := probes_validate
    refine hvalid.bind fun _ x _ => ?_
    cases x with
    | ok b => exact probes_done
    | error e => exact hunload.bind fun _ _ _ => probes_done

/-! ## Descriptions -/

/-- Two plugins of one kind with the same content answer a question alike. -/
theorem agree_callOr {e : EntryPoint} {c : Call} {d : c.Reply} (hk : p.kind = q.kind)
    (hp : p.who.source.Holds content) (hq : q.who.source.Holds content)
    (hc : c.isMetadata = true) :
    Agree nature (fun r r' => r = r') (p.callOr e c d) (q.callOr e c d) := by
  have hexports : p.exports e = q.exports e := by
    unfold exports
    rw [(Prod.mk.inj hk).2]
  unfold callOr
  rw [hexports]
  split
  · exact agree_call hp hq (.inr hc)
  · exact agree_done rfl

theorem probes_callOr {e : EntryPoint} {c : Call} {d : c.Reply} (hc : c.isMetadata = true) :
    Probes p.who.source (p.callOr e c d) := by
  unfold callOr
  split
  · exact probes_call (.inr (.inr hc))
  · exact probes_done

end Plugin

/-- What a plugin says of itself, and through which interface. -/
structure Profile where
  generation : Generation
  name : String
  version : Version
  apiVersion : Version
  author : String
  description : String
  features : FeatureSet
deriving DecidableEq, Repr

def PluginInfo.profile (i : PluginInfo) : Profile :=
  ⟨i.generation, i.name, i.version, i.apiVersion, i.author, i.description, i.features⟩

namespace Plugin

variable {p q : Plugin}

section

variable (hk : p.kind = q.kind) (hp : p.who.source.Holds content) (hq : q.who.source.Holds content)
include hk hp hq

/-- From here on, one lemma for each thing that a plugin says of itself. -/
theorem agree_name : Agree nature (fun r r' => r = r') p.name q.name := by
  have hb : p.backend = q.backend := (Prod.mk.inj hk).2
  unfold name
  rw [hb]
  split
  · exact agree_done rfl
  · refine (agree_callOr (c := .name) hk hp hq rfl).bind ?_
    rintro r _ rfl
    exact agree_done rfl

theorem agree_version : Agree nature (fun r r' => r = r') p.version q.version := by
  have hb : p.backend = q.backend := (Prod.mk.inj hk).2
  unfold version
  rw [hb]
  split
  · exact agree_done rfl
  · exact agree_callOr (c := .version) hk hp hq rfl

theorem agree_author : Agree nature (fun r r' => r = r') p.author q.author := by
  refine (agree_callOr (c := .author) hk hp hq rfl).bind ?_
  rintro r _ rfl
  exact agree_done rfl

theorem agree_description :
    Agree nature (fun r r' => r = r') p.description q.description := by
  have hb : p.backend = q.backend := (Prod.mk.inj hk).2
  unfold description
  rw [hb]
  split
  · exact agree_done rfl
  · refine (agree_callOr (c := .description) hk hp hq rfl).bind ?_
    rintro r _ rfl
    exact agree_done rfl

theorem agree_features : Agree nature (fun r r' => r = r') p.features q.features := by
  have hb : p.backend = q.backend := (Prod.mk.inj hk).2
  unfold features
  rw [hb]
  split
  · exact agree_done rfl
  · exact agree_callOr (c := .features) hk hp hq rfl

/-- Two plugins of one kind whose libraries have one content say the same of themselves. -/
theorem agree_info : Agree nature (fun i j => i.profile = j.profile) p.info q.info := by
  have hg : p.generation = q.generation := (Prod.mk.inj hk).1
  refine (agree_name hk hp hq).bind ?_
  rintro name _ rfl
  refine (agree_version hk hp hq).bind ?_
  rintro version _ rfl
  refine (agree_callOr (c := .apiVersion) hk hp hq rfl).bind ?_
  rintro apiVersion _ rfl
  refine (agree_author hk hp hq).bind ?_
  rintro author _ rfl
  refine (agree_description hk hp hq).bind ?_
  rintro description _ rfl
  refine (agree_features hk hp hq).bind ?_
  rintro features _ rfl
  refine agree_done ?_
  unfold PluginInfo.profile
  rw [hg]

end

theorem probes_name : Probes p.who.source p.name := by
  unfold name
  split
  · exact probes_done
  · exact (probes_callOr rfl).bind fun _ _ _ => probes_done

theorem probes_version : Probes p.who.source p.version := by
  unfold version
  split
  · exact probes_done
  · exact probes_callOr rfl

theorem probes_author : Probes p.who.source p.author :=
  (probes_callOr rfl).bind fun _ _ _ => probes_done

theorem probes_description : Probes p.who.source p.description := by
  unfold description
  split
  · exact probes_done
  · exact (probes_callOr rfl).bind fun _ _ _ => probes_done

theorem probes_features : Probes p.who.source p.features := by
  unfold features
  split
  · exact probes_done
  · exact probes_callOr rfl

theorem probes_info : Probes p.who.source p.info :=
  probes_name.bind fun _ _ _ => probes_version.bind fun _ _ _ =>
    (probes_callOr rfl).bind fun _ _ _ => probes_author.bind fun _ _ _ =>
      probes_description.bind fun _ _ _ => probes_features.bind fun _ _ _ => probes_done

end Plugin

end PluginHost
