import PluginHost.Proofs.Registry.Notes

/-!
# Permissions follow from the history

* **`Recorded`**: a history with its notes.
* **`Course.offers_sublist`**, **`Course.eligible`**: who is offered positional data in a tick.
* **`permission_follows_history`**: the permission of a plugin is what the last event says that
  bears on it, and nothing is offered without it.
-/

namespace PluginHost

open Interaction Transcript PermissionEvent Standing

/-! ## Offers in a tick -/

/-- Who was offered the process table gave an answer. -/
theorem Roster.Chosen.offers_sublist {r o : Roster} {t : Transcript} {as : List Answer}
    {P : Option Plugin} (h : r.Chosen t as P o) :
    t.offers.Sublist (as.map fun a => (a.1.who, a.2)) := by
  cases h with
  | held p hp => exact .slnil
  | sought t as hn h => exact h.offers_sublist

namespace Registry

variable {r s : Registry} {op : Operation} {t : Transcript} {h : History} {as : List Answer}
  {notes more : List Note} {directories : PluginDirectories}

/-- The same for a tick, which may hold two rounds. -/
theorem Course.offers_sublist {x : Bool × Registry} (hx : r.Course t as x) :
    t.offers.Sublist (as.map fun a => (a.1.who, a.2)) := by
  cases hx with
  | idle t as o hchosen => exact hchosen.offers_sublist
  | fresh t as o p e f c hchosen ho hf hgo hcoh =>
    obtain ⟨-, hnone, -⟩ := Transcript.of_frame? hf
    rw [Transcript.offers_append, hnone, List.append_nil]
    exact hchosen.offers_sublist
  | stopped t u v as bs o p q snapshot hchosen ho hf hs =>
    have hoffers : (t ++ (u ++ (p.parting ++ v))).offers = t.offers ++ v.offers := by
      simp [hf.quiet.1, p.offers_parting]
    rw [hoffers, List.map_append]
    exact hchosen.offers_sublist.append hs.offers_sublist

/-- Whoever answers in a tick was loaded and had the permission when the tick began. -/
theorem Course.eligible {x : Bool × Registry} (hc : r.Consistent) (hx : r.Course t as x) :
    ∀ a ∈ as, ∃ p ∈ r.plugins, p.who = a.1.who ∧ p.loaded = true ∧ p.enabled = true := by
  have hflags : ∀ {p : Plugin},
      Roster.isEligible p = true → p.loaded = true ∧ p.enabled = true := by
    intro p hp
    simpa [Roster.isEligible] using hp
  have hfirst : ∀ a : Answer, a.1 ∈ r.plugins ∧ Roster.isEligible a.1 = true →
      ∃ p ∈ r.plugins, p.who = a.1.who ∧ p.loaded = true ∧ p.enabled = true :=
    fun a ha => ⟨a.1, ha.1, rfl, hflags ha.2⟩
  cases hx with
  | idle t as o hchosen => exact fun a ha => hfirst a (hchosen.eligible a ha)
  | fresh t as o p e f c hchosen ho hf hgo hcoh =>
    exact fun a ha => hfirst a (hchosen.eligible a ha)
  | stopped t u v as bs o p q snapshot hchosen ho hf hs =>
    intro a ha
    rcases List.mem_append.1 ha with ha | ha
    · exact hfirst a (hchosen.eligible a ha)
    · -- whoever is asked in the second round came through the first one with the permission
      obtain ⟨hmem, helig⟩ := hs.mem ha
      obtain ⟨hmem, hne⟩ := List.mem_filter.1 hmem
      have hid : q.id = p.id := hf.keeps (·.id) fun _ => by simp
      rcases Roster.mem_update.1 hmem with ⟨hmem, -⟩ | ⟨hsame, -⟩
      · rw [hchosen.plugins_eq hc.roster] at hmem
        obtain ⟨p', hp', hsettled⟩ := List.mem_map.1 hmem
        obtain ⟨hl, hen⟩ := hflags helig
        rw [← hsettled, Plugin.loaded_settled] at hl
        rw [← hsettled, Plugin.enabled_settled, Bool.and_eq_true] at hen
        exact ⟨p', hp', by rw [← hsettled, Plugin.who_settled], hl, hen.1⟩
      · rw [hsame] at hne
        simp [hid] at hne

/-! ## Recorded histories -/

/-- A history falls apart at each of its operations. -/
theorem Follows.split {a b : History} (hf : (new directories).Follows h s)
    (hsplit : h = a ++ (op, t) :: b) :
    ∃ r r', (new directories).Follows a r ∧ Yields (op.perform r) t r' ∧ r'.Follows b s := by
  induction hf generalizing b with
  | nil => simp at hsplit
  | @snoc h r r' op' t' hf hp ih =>
    -- the operation is the last one, or one of those before
    rcases List.eq_nil_or_concat b with rfl | ⟨b, x, rfl⟩
    · obtain ⟨rfl, hlast⟩ := List.append_inj' hsplit rfl
      obtain ⟨rfl, rfl⟩ := Prod.mk.inj (List.cons.inj hlast).1
      exact ⟨r, r', hf, hp, .nil⟩
    · have hearlier : h ++ [(op', t')] = (a ++ (op, t) :: b) ++ [x] := by simpa using hsplit
      obtain ⟨hh, hx⟩ := List.append_inj' hearlier rfl
      obtain ⟨r₁, r₂, ha, hop, hb⟩ := ih hh
      obtain rfl := (List.cons.inj hx).1
      rw [List.concat_eq_append]
      exact ⟨r₁, r₂, ha, hop, hb.snoc hp⟩

/-- A history from a new registry on, with the notes of all operations. -/
inductive Recorded (directories : PluginDirectories) : History → List Note → Registry → Prop
  | nil : Recorded directories [] [] (new directories)
  | snoc {h : History} {notes more : List Note} {r s : Registry} {op : Operation} {t : Transcript}
      (hr : Recorded directories h notes r) (hp : Yields (op.perform r) t s)
      (hn : r.Noted t s op more) : Recorded directories (h ++ [(op, t)]) (notes ++ more) s

/-- What is recorded is a history. -/
theorem Recorded.follows (hr : Recorded directories h notes s) : (new directories).Follows h s := by
  induction hr with
  | nil => exact .nil
  | snoc hr hp hn ih => exact ih.snoc hp

/-- Every history can be recorded. -/
theorem exists_recorded (hf : (new directories).Follows h s) :
    ∃ notes, Recorded directories h notes s := by
  induction hf with
  | nil => exact ⟨[], .nil⟩
  | snoc hf hp ih =>
    obtain ⟨notes, hr⟩ := ih
    obtain ⟨more, hn⟩ := exists_noted (hf.consistent (consistent_new directories)) hp
    exact ⟨notes ++ more, hr.snoc hp hn⟩

/-- The flags of the plugins keep up with the notes through every history. -/
theorem Recorded.records (hr : Recorded directories h notes s) : s.Records notes := by
  induction hr with
  | nil => exact records_new directories
  | snoc hr hp hn ih =>
    have hc := hr.follows.consistent (consistent_new directories)
    have hids := (List.pairwise_map.2 hr.follows.ordered.sorted).imp UInt32.ne_of_lt
    exact hn.records hc hids hp ih

/-- The offers that an operation makes are in its notes. -/
theorem Noted.offers_sublist (hn : r.Noted t s op more) (hp : Yields (op.perform r) t s) :
    (t.offers.map fun o => (o.1.handle, o.2)).Sublist (offersIn more) := by
  by_cases hop : op = .tick
  · subst hop
    cases hn with
    | tick hx =>
      rw [offersIn_offerNotes]
      have hsub := hx.offers_sublist.map fun o => (o.1.handle, o.2)
      rwa [List.map_map] at hsub
    | unknown htarget => simp [Operation.target?] at htarget
    | other _ _ htick => exact absurd rfl htick
  · rw [perform_offers hop hp]
    exact List.nil_sublist _

/-- Every offer of a history is among its notes. -/
theorem Recorded.offers_sublist (hr : Recorded directories h notes s) :
    (h.transcript.offers.map fun o => (o.1.handle, o.2)).Sublist (offersIn notes) := by
  induction hr with
  | nil => exact .slnil
  | @snoc h notes more r s op t hr hp hn ih =>
    have htr : History.transcript (h ++ [(op, t)]) = h.transcript ++ t := by
      simp [History.transcript]
    rw [htr, Transcript.offers_append, List.map_append, offersIn_append]
    exact ih.append (hn.offers_sublist hp)

/-- Whoever is offered something in an operation was loaded and had the permission before it. -/
theorem perform_eligible (hc : r.Consistent) (hp : Yields (op.perform r) t s) :
    ∀ o ∈ t.offers, ∃ p ∈ r.plugins, p.who = o.1 ∧ p.loaded = true ∧ p.enabled = true := by
  intro o ho
  by_cases hop : op = .tick
  · subst hop
    obtain ⟨x, -, h₁⟩ := yields_map.1 hp
    obtain ⟨as, hx⟩ := tick_course hc h₁
    obtain ⟨a, ha, rfl⟩ := List.mem_map.1 (hx.offers_sublist.subset ho)
    exact hx.eligible hc a ha
  · rw [perform_offers hop hp] at ho
    exact absurd ho List.not_mem_nil

/-! ## Permissions that nobody gave -/

end Registry

/-- The operation activates plugins. -/
def Operation.activates : Operation → Bool
  | rescan _ | load _ => true
  | _ => false

namespace Registry

variable {r s : Registry} {op : Operation} {t : Transcript} {h : History}
  {notes more : List Note} {directories : PluginDirectories} {n : Nat}

/-- A plugin is started with what is the default at that time. -/
theorem Noted.of_started {allowed : Bool} (hn : r.Noted t s op more)
    (he : (n, started allowed) ∈ more) :
    op.activates = true ∧ allowed = r.positionalDefault := by
  have hstart : ∀ {m : Nat} {result : Except PluginError Status},
      (n, started allowed) ∈ startNotes m r.positionalDefault result →
        allowed = r.positionalDefault := by
    intro m result hmem
    rcases (mem_startNotes hmem).2 with hevent | hevent
    · exact PermissionEvent.started.inj hevent
    · simp at hevent
  cases hn with
  | rescan =>
    obtain ⟨x, -, hx⟩ := List.mem_flatMap.1 he
    exact ⟨rfl, hstart hx⟩
  | load hp hl =>
    split at he
    · simp at he
    · exact ⟨rfl, hstart he⟩
  | tick hx => simp [offerNotes] at he
  | _ => simp at he

/-- Only the operation that switches positional data makes a note of it. -/
theorem Noted.of_toggled {on : Bool} (hn : r.Noted t s op more) (he : (n, toggled on) ∈ more) :
    ∃ id, op = .enableFor id on := by
  have hstart : ∀ {m : Nat} {allowed : Bool} {result : Except PluginError Status},
      (n, toggled on) ∉ startNotes m allowed result := by
    intro m allowed result hmem
    rcases (mem_startNotes hmem).2 with hevent | hevent <;> simp at hevent
  cases hn with
  | rescan =>
    obtain ⟨x, -, hx⟩ := List.mem_flatMap.1 he
    exact absurd hx hstart
  | load hp hl =>
    split at he
    · simp at he
    · exact absurd he hstart
  | @enableFor id on' p hp =>
    rw [List.mem_singleton, Prod.mk.injEq] at he
    exact ⟨id, by rw [PermissionEvent.toggled.inj he.2]⟩
  | tick hx => simp [offerNotes] at he
  | _ => simp at he

/-- Where the default is off and nobody is enabled, nobody gets the permission. -/
theorem Recorded.never_allowed (hr : Recorded directories h notes s)
    (hdefault : ∀ a op t b r, h = a ++ (op, t) :: b → (new directories).Follows a r →
      op.activates = true → r.positionalDefault = false)
    (henable : ∀ id t, (Operation.enableFor id true, t) ∉ h) :
    ∀ n, started true ∉ eventsOf n notes ∧ toggled true ∉ eventsOf n notes := by
  induction hr with
  | nil => simp [eventsOf]
  | @snoc h notes more r s op t hr hp hn ih =>
    intro n
    obtain ⟨hs, ht⟩ := ih
      (fun a op' t' b r' hsplit => hdefault a op' t' (b ++ [(op, t)]) r' (by rw [hsplit]; simp))
      (fun id t' hmem => henable id t' (List.mem_append_left _ hmem)) n
    rw [eventsOf_append, List.mem_append, List.mem_append]
    refine ⟨not_or.2 ⟨hs, fun hnow => ?_⟩, not_or.2 ⟨ht, fun hnow => ?_⟩⟩
    · obtain ⟨hop, hallowed⟩ := hn.of_started (mem_eventsOf.1 hnow)
      rw [hdefault h op t [] r rfl hr.follows hop] at hallowed
      exact absurd hallowed (by decide)
    · obtain ⟨id, rfl⟩ := hn.of_toggled (mem_eventsOf.1 hnow)
      exact henable id t (by simp)

/-- The permission of a plugin is what the last event says that bears on it: an activation that
succeeded, being enabled while it is loaded, being disabled, refusing an offer for good, being
unloaded. Nothing is offered to a plugin that is not loaded or has no permission. -/
theorem permission_follows_history (hf : (new directories).Follows h s) :
    ∃ notes, Recorded directories h notes s ∧
      (∀ p ∈ s.plugins, p.loaded = (after (eventsOf p.handle notes)).loaded ∧
        LastSays (eventsOf p.handle notes) p.enabled) ∧
      (h.transcript.offers.map fun o => (o.1.handle, o.2)).Sublist (offersIn notes) ∧
      (∀ n a code b, eventsOf n notes = a ++ offered code :: b → after a = ⟨true, true⟩) ∧
      (∀ a op t b, h = a ++ (op, t) :: b → ∃ r, (new directories).Follows a r ∧
        ∀ o ∈ t.offers, ∃ p ∈ r.plugins, p.who = o.1 ∧ p.loaded = true ∧ p.enabled = true) ∧
      (∀ n a b code c, eventsOf n notes = a ++ offered .permanent :: (b ++ offered code :: c) →
        toggled true ∈ b ∨ ∃ b₁ b₂, b = b₁ ++ unloaded :: b₂ ∧ started true ∈ b₂) ∧
      (∀ es code, code ≠ .permanent → after (es ++ [offered code]) = after es) ∧
      ((∀ a op t b r, h = a ++ (op, t) :: b → (new directories).Follows a r →
          op.activates = true → r.positionalDefault = false) →
        (∀ id t, (Operation.enableFor id true, t) ∉ h) → h.transcript.offers = []) := by
  obtain ⟨notes, hr⟩ := exists_recorded hf
  obtain ⟨hroster, -⟩ := hr.records
  refine ⟨notes, hr, fun p hp => ?_, hr.offers_sublist, fun n a code b he => ?_,
    fun a op t b hsplit => ?_, fun n a b code c he => ?_, fun _ _ => after_offered,
    fun hdefault henable => ?_⟩
  · have hstanding := hroster.standing p hp
    exact ⟨congrArg Standing.loaded hstanding,
      lastSays_iff.2 (congrArg Standing.permitted hstanding).symm⟩
  · exact hroster.lawful n a _ b he
  · obtain ⟨r, r', hr, hp, -⟩ := hf.split hsplit
    exact ⟨r, hr, perform_eligible (hr.consistent (consistent_new directories)) hp⟩
  · exact Lawful.asked_again (he ▸ hroster.lawful n)
  · have hnone := hr.never_allowed hdefault henable
    have hempty : offersIn notes = [] := by
      refine List.eq_nil_iff_forall_not_mem.2 fun ⟨n, code⟩ hmem => ?_
      exact (hroster.lawful n).never_offered (hnone n).1 (hnone n).2 code
        (mem_eventsOf.2 (mem_offersIn hmem))
    have hsub := hr.offers_sublist
    rw [hempty, List.sublist_nil, List.map_eq_nil_iff] at hsub
    exact hsub

end Registry

/-! ## A plugin that refuses for good -/

namespace Refuser

def answer : (q : Query) → q.Reply
  | .plugin _ (.offerPositional ..) => .permanent
  | q => Duo.answer .zero q

/-- Two ticks, and a third after the plugin was enabled again. -/
def ticks : List Operation :=
  [.registerBuiltIn ⟨"refuser", .current⟩, .rescan ⟨[], []⟩, .tick, .tick, .enableFor 1 true, .tick]

end Refuser

namespace Registry

/-- In the second tick the plugin is not asked. -/
theorem permission_follows_history_refuser :
    let x := Duo.start.record Refuser.answer Refuser.ticks
    x.1.map (fun e => (Transcript.offers e.2).map (·.2)) =
        [[], [], [.permanent], [], [], [.permanent]] ∧
      x.2.plugins.map (fun p => (p.loaded, p.enabled)) = [(true, false)] ∧
      ∃ notes, Recorded ⟨none, none⟩ x.1 notes x.2 ∧
        ∀ p ∈ x.2.plugins, LastSays (eventsOf p.handle notes) p.enabled := by
  obtain ⟨notes, hr, hflags, -⟩ :=
    permission_follows_history (follows_record Refuser.answer Duo.start Refuser.ticks)
  exact ⟨by decide +kernel, by decide +kernel, notes, hr, fun p hp => (hflags p hp).2⟩

end Registry

end PluginHost
