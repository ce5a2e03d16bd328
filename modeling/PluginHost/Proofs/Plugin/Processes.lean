import PluginHost.Demo
import PluginHost.Proofs.Plugin.Positional
import PluginHost.Proofs.Text.RoundTrip

/-!
# The process table as a plugin sees it

The host offers the same processes to every plugin. A plugin of the current interface gets names and
numbers in two lists side by side, an older one gets them in pairs and in the order of the names.

* **`Columns`**: two lists side by side that are the processes whose names can be handed over.
* **`ByName`**: the same processes in the order of their names, and in the old order where names are
  the same.
* **`Legacy.Adapter.wideLe_terminated`**: a zero at the end of wide texts does not change their
  order.
* **`Legacy.Adapter.exists_byName`**: what the process-aware lock of an older plugin gets.
* **`Plugin.offer_process_table`**: what is asked of a plugin in one offer, and what counts as a
  yes.
-/

namespace PluginHost

open Interaction

/-! ## Two lists side by side -/

/-- The processes whose names have no zero character, in their order, each name in the place of its
own number. The plugin reads each name up to the zero byte behind it. -/
structure Columns (processes : List Process) (names : List (List UInt8)) (pids : List UInt64) :
    Prop where
  length : names.length = pids.length
  pairs : names.zip pids = (processes.filter fun q => '\x00' ∉ q.name.toList).map fun q =>
    (Utf8.encode q.name, q.pid)
  read : names.map (fun bytes => Utf8.decodeTerminated (bytes ++ [0])) =
    (processes.filter fun q => '\x00' ∉ q.name.toList).map (·.name)

theorem Plugin.nameable_eq (processes : List Process) :
    nameable processes = processes.filter fun q => '\x00' ∉ q.name.toList := by
  simp [nameable, Utf8.hasNul_eq]

/-- The columns hold the names and process IDs of those processes whose names have no zero. -/
theorem Plugin.columns_nameable (processes : List Process) :
    Columns processes ((nameable processes).map fun q => Utf8.encode q.name)
      ((nameable processes).map (·.pid)) := by
  rw [nameable_eq]
  constructor
  case length => rw [List.length_map, List.length_map]
  case pairs => exact List.zip_map'
  case read =>
    rw [List.map_map]
    refine List.map_congr_left fun q hq => ?_
    have hname : '\x00' ∉ q.name.toList := by simpa using (List.mem_filter.1 hq).2
    exact Utf8.decodeTerminated_encode hname ⟨[0], rfl, by simp⟩

/-! ## In the order of the names -/

/-- The code points of a text. Texts are in order as these are. -/
def codePoints (s : String) : List Nat := s.toList.map Char.toNat

/-- One name comes before another one: where they first differ it has the lower code point, or it
ends there. -/
def NameLt (s t : String) : Prop := List.Lex (· < ·) (codePoints s) (codePoints t)

/-- The second list has the processes of the first one, in the order of their names. Processes with
the same name are in the order of the first list. -/
structure ByName (processes sorted : List Process) : Prop where
  perm : sorted.Perm processes
  ordered : sorted.Pairwise fun q r => ¬NameLt r.name q.name
  stable : ∀ name, sorted.filter (·.name = name) = processes.filter (·.name = name)

/-- Neither of two texts is before the other if and only if they are equal. -/
theorem nameLt_antisymm {s t : String} (h : ¬NameLt s t) (h' : ¬NameLt t s) : s = t := by
  have hpoints : codePoints s = codePoints t := List.le_antisymm h' h
  have hchars : s.toList = t.toList :=
    (List.map_inj_right fun _ _ hc => Char.ext (UInt32.toNat_inj.1 hc)).1 hpoints
  exact String.toList_inj.1 hchars

/-- A list is known from its order and from the parts of it that have the same name. -/
theorem eq_of_ordered {l l' : List Process} (hperm : l.Perm l')
    (hl : l.Pairwise fun q r => ¬NameLt r.name q.name)
    (hl' : l'.Pairwise fun q r => ¬NameLt r.name q.name)
    (hname : ∀ name, l.filter (·.name = name) = l'.filter (·.name = name)) : l = l' := by
  induction l generalizing l' with
  | nil => exact hperm.nil_eq
  | cons q l ih =>
    cases l' with
    | nil => cases hperm.eq_nil
    | cons r l' =>
      obtain ⟨hq, hrest⟩ := List.pairwise_cons.1 hl
      obtain ⟨hr, hrest'⟩ := List.pairwise_cons.1 hl'
      -- either head is somewhere in the other list, so neither name comes before the other one
      have hsame : q.name = r.name := by
        rcases List.mem_cons.1 (hperm.mem_iff.1 (List.mem_cons_self ..)) with hqr | hqr
        · rw [hqr]
        rcases List.mem_cons.1 (hperm.mem_iff.2 (List.mem_cons_self ..)) with hrq | hrq
        · rw [hrq]
        exact nameLt_antisymm (hr q hqr) (hq r hrq)
      have hheads := hname q.name
      rw [List.filter_cons_of_pos (by simp), List.filter_cons_of_pos (by simp [hsame])] at hheads
      obtain ⟨rfl, htails⟩ := List.cons_eq_cons.1 hheads
      refine congrArg (q :: ·) (ih hperm.cons_inv hrest hrest' fun name => ?_)
      by_cases h : q.name = name
      · exact h ▸ htails
      · simpa [h] using hname name

/-- There is one such order. -/
theorem ByName.unique {processes sorted sorted' : List Process} (h : ByName processes sorted)
    (h' : ByName processes sorted') : sorted = sorted' :=
  eq_of_ordered (h.perm.trans h'.perm.symm) h.ordered h'.ordered fun name =>
    (h.stable name).trans (h'.stable name).symm

namespace Legacy.Adapter

/-- The zero that ends a text is less than every other unit and equal to a zero in the text, so it
takes part in the comparison as the end of the text does. -/
theorem wideLe_terminated (us vs : List UInt32) :
    wideLe (us ++ [0]) (vs ++ [0]) = true ↔
      ¬List.Lex (· < ·) (vs.map UInt32.toNat) (us.map UInt32.toNat) := by
  induction us generalizing vs with
  | nil =>
    -- the terminator is smaller than what follows or ends the other text as well
    have hend : wideLe [0] (vs ++ [0]) = true := by
      cases vs with
      | nil => rfl
      | cons v vs =>
        by_cases hv : v = 0
        · simp [wideLe, hv]
        · simp [wideLe, UInt32.pos_iff_ne_zero.2 hv]
    exact iff_of_true hend List.not_lex_nil
  | cons u us ih =>
    cases vs with
    | nil =>
      -- nothing is in front of the terminator, and a text that goes on after a zero is longer
      have hend : wideLe (us ++ [0]) [] = false := by
        cases us <;> rfl
      simp [wideLe, hend]
    | cons v vs =>
      have hstep : wideLe (u :: us ++ [0]) (v :: vs ++ [0]) = true ↔
          u < v ∨ u = v ∧ wideLe (us ++ [0]) (vs ++ [0]) = true := by
        simp [wideLe]
      rw [hstep, ih, List.map_cons, List.map_cons, List.cons_lex_cons_iff, UInt32.lt_iff_toNat_lt,
        ← UInt32.toNat_inj]
      rcases Nat.lt_trichotomy u.toNat v.toNat with h | h | h
      · simp [h, Nat.lt_asymm h, Nat.ne_of_gt h]
      · simp [h]
      · simp [h, Nat.lt_asymm h, Nat.ne_of_gt h]

/-- The order of wide texts is that of their code points. -/
theorem wideLe_encode (s t : String) :
    wideLe (Wide.encode s) (Wide.encode t) = true ↔ ¬NameLt t s := by
  rw [Wide.encode, Wide.encode, wideLe_terminated, List.map_map, List.map_map]
  rfl

/-- The order of the entries that the process-aware lock gets. -/
def nameLe (q r : Process) : Bool := wideLe (Wide.encode q.name) (Wide.encode r.name)

theorem nameLe_iff {q r : Process} : nameLe q r = true ↔ ¬NameLt r.name q.name :=
  wideLe_encode q.name r.name

theorem nameLe_refl (q : Process) : nameLe q q = true :=
  nameLe_iff.2 (List.le_refl (codePoints q.name))

theorem nameLe_trans (q r s : Process) (h : nameLe q r = true) (h' : nameLe r s = true) :
    nameLe q s = true :=
  nameLe_iff.2 (List.le_trans (nameLe_iff.1 h) (nameLe_iff.1 h'))

theorem nameLe_total (q r : Process) : (nameLe q r || nameLe r q) = true := by
  rw [Bool.or_eq_true, nameLe_iff, nameLe_iff]
  exact List.le_total (codePoints q.name) (codePoints r.name)

/-- Sorting by name is stable. -/
theorem byName_mergeSort (processes : List Process) :
    ByName processes (processes.mergeSort nameLe) := by
  have hperm := List.mergeSort_perm processes nameLe
  constructor
  case perm => exact hperm
  case ordered =>
    exact (List.pairwise_mergeSort nameLe_trans nameLe_total processes).imp nameLe_iff.1
  case stable =>
    intro name
    -- the processes of one name are in order already, so sorting keeps them as they are
    have hsame : (processes.filter (·.name = name)).Pairwise fun q r => nameLe q r = true := by
      refine List.pairwise_of_forall_mem_list fun q hq r hr => ?_
      have hname : q.name = r.name := by
        rw [of_decide_eq_true (List.mem_filter.1 hq).2, of_decide_eq_true (List.mem_filter.1 hr).2]
      rw [nameLe_iff, hname]
      exact nameLe_iff.1 (nameLe_refl r)
    have hsub := (List.sublist_mergeSort nameLe_trans nameLe_total hsame List.filter_sublist).filter
      (·.name = name)
    rw [List.filter_filter] at hsub
    simp only [Bool.and_self] at hsub
    exact (hsub.eq_of_length (hperm.filter _).length_eq.symm).symm

/-- The process-aware lock gets all processes in the order of their names, each name as its code
points and a zero and next to its own number. -/
theorem exists_byName (processes : List Process) :
    ∃ sorted, ByName processes sorted ∧
      lockEntries processes = sorted.map fun q => (q.name.toList.map (·.val) ++ [0], q.pid) := by
  refine ⟨_, byName_mergeSort processes, ?_⟩
  have hle : ∀ q ∈ processes, ∀ r ∈ processes,
      nameLe q r = wideLe (Wide.encode q.name) (Wide.encode r.name) := fun _ _ _ _ => rfl
  exact (List.map_mergeSort (f := fun q : Process => (Wide.encode q.name, q.pid)) hle).symm

/-! ## Offers -/

/-- The lock that is given the process table. -/
def LocksAmong (a : Adapter) : Prop := ∃ e, a.extended = some e ∧ e.hasTryLock = true

/-- The lock with a process table is there if the extension says so. -/
theorem hasTryLock_iff {a : Adapter} :
    (a.extended.map (·.hasTryLock)).getD false = true ↔ a.LocksAmong := by
  unfold LocksAmong
  cases a.extended <;> simp

/-- An older plugin is asked once, with the process table if it has a lock for that. -/
theorem offer_inv {a : Adapter} {who : Occupant} {processes : List Process} {t : Transcript}
    {code : OfferCode} (h : Yields (a.offer who processes) t code) :
    (a.LocksAmong → ∃ word, t = [⟨.plugin who (.tryLockAmong (lockEntries processes)), word⟩] ∧
      code = Plugin.lockCode word) ∧
    (¬a.LocksAmong → a.primary.hasTryLock = true →
      ∃ word, t = [⟨.plugin who .tryLock, word⟩] ∧ code = Plugin.lockCode word) ∧
    (¬a.LocksAmong → a.primary.hasTryLock = false → t = [] ∧ code = .temporary) := by
  unfold offer at h
  rw [← hasTryLock_iff]
  split at h
  · rename_i hamong
    obtain ⟨u, v, word, rfl, hword, hcode⟩ := yields_bind.1 h
    obtain ⟨rfl, rfl⟩ := yields_done.1 hcode
    rw [yields_call.1 hword]
    exact ⟨fun _ => ⟨word, rfl, rfl⟩, absurd hamong, absurd hamong⟩
  · rename_i hamong
    refine ⟨fun hlock => absurd hlock hamong, fun _ hlock => ?_, fun _ hlock => ?_⟩
    · rw [if_pos hlock] at h
      obtain ⟨u, v, word, rfl, hword, hcode⟩ := yields_bind.1 h
      obtain ⟨rfl, rfl⟩ := yields_done.1 hcode
      rw [yields_call.1 hword]
      exact ⟨word, rfl, rfl⟩
    · rw [if_neg (by simp [hlock])] at h
      exact yields_done.1 h

end Legacy.Adapter

namespace Plugin

variable {p : Plugin} {processes : List Process} {t : Transcript} {x : OfferCode × Plugin}

/-- A lock succeeds with any word but zero. -/
theorem lockCode_eq_ok {word : Int32} : lockCode word = .ok ↔ word ≠ 0 := by
  unfold lockCode
  have hne : OfferCode.temporary ≠ .ok := by decide
  by_cases h : word = 0 <;> simp [h, hne]

/-- A plugin of the current interface gets the names and the numbers side by side, if it takes
offers at all. -/
theorem offer_current {e : EntryPoints} (hb : p.backend = .current e)
    (h : Yields (p.offer processes) t x) :
    (e.has .offerPositional = true → ∃ names pids, Columns processes names pids ∧
      t = [⟨.plugin p.who (.offerPositional names pids), x.1⟩]) ∧
    (e.has .offerPositional = false → t = [] ∧ x.1 = .permanent) := by
  have hexports : p.exports .offerPositional = e.has .offerPositional := by
    simp [exports, hb]
  unfold offer at h
  rw [hb] at h
  obtain ⟨u, v, code, rfl, hcode, hx⟩ := yields_bind.1 h
  obtain ⟨rfl, rfl⟩ := yields_done.1 hx
  obtain ⟨rfl, hdefault⟩ := callOr_inv hcode
  rw [hexports] at hdefault
  rw [List.append_nil, heard, hexports]
  refine ⟨fun he => ?_, fun he => ?_⟩
  · rw [if_pos he]
    exact ⟨_, _, columns_nameable processes, rfl⟩
  · rw [if_neg (by simp [he])]
    exact ⟨rfl, hdefault he⟩

/-- An older plugin is offered the process table through its adapter. -/
theorem offer_legacy {a : Legacy.Adapter} (hb : p.backend = .legacy a)
    (h : Yields (p.offer processes) t x) :
    Yields (a.offer p.who processes) t x.1 := by
  unfold offer at h
  rw [hb] at h
  obtain ⟨u, v, code, rfl, hcode, hx⟩ := yields_bind.1 h
  obtain ⟨rfl, rfl⟩ := yields_done.1 hx
  rw [List.append_nil]
  exact hcode

/-- What a plugin sees of the process table. A plugin of the current interface that takes offers
gets the processes whose names can be handed over, in two lists side by side. An older plugin gets
all of them in the order of their names if it has a lock for that; else its plain lock is asked,
which gets nothing. It is asked once at most, and any answer but zero is a yes. -/
theorem offer_process_table (h : Yields (p.offer processes) t x) :
    (∀ e, p.backend = .current e →
      (e.has .offerPositional = true → ∃ names pids, Columns processes names pids ∧
        t = [⟨.plugin p.who (.offerPositional names pids), x.1⟩]) ∧
      (e.has .offerPositional = false → t = [] ∧ x.1 = .permanent)) ∧
    ∀ a, p.backend = .legacy a →
      (a.LocksAmong → ∃ sorted word, ByName processes sorted ∧
        t = [⟨.plugin p.who (.tryLockAmong
          (sorted.map fun q => (q.name.toList.map (·.val) ++ [0], q.pid))), word⟩] ∧
        (x.1 = .ok ↔ word ≠ 0)) ∧
      (¬a.LocksAmong → a.primary.hasTryLock = true →
        ∃ word, t = [⟨.plugin p.who .tryLock, word⟩] ∧ (x.1 = .ok ↔ word ≠ 0)) ∧
      (¬a.LocksAmong → a.primary.hasTryLock = false → t = [] ∧ x.1 = .temporary) := by
  refine ⟨fun e hb => offer_current hb h, fun a hb => ?_⟩
  obtain ⟨hamong, hplain, hnone⟩ := Legacy.Adapter.offer_inv (offer_legacy hb h)
  refine ⟨fun hlock => ?_, fun hlock hprimary => ?_, hnone⟩
  · obtain ⟨word, rfl, hcode⟩ := hamong hlock
    obtain ⟨sorted, hsorted, hentries⟩ := Legacy.Adapter.exists_byName processes
    exact ⟨sorted, word, hsorted, by rw [hentries], by rw [hcode, lockCode_eq_ok]⟩
  · obtain ⟨word, rfl, hcode⟩ := hplain hlock hprimary
    exact ⟨word, rfl, by rw [hcode, lockCode_eq_ok]⟩

end Plugin

/-! ## A crowd -/

namespace Crowd

/-- Two processes have the same name, one name begins another one, and one contains a zero. -/
def processes : List Process := [⟨"b", 1⟩, ⟨"a\x00", 2⟩, ⟨"ab", 3⟩, ⟨"a", 4⟩, ⟨"b", 5⟩]

/-- It says yes to the lock that gets the process table. -/
def answer : (q : Query) → q.Reply
  | .plugin _ (.tryLockAmong _) => -1
  | .plugin _ c => c.silence
  | .processes => []
  | .report _ => ()
  | .write _ => .ok ()
  | .pause _ => ()

def plugin (backend : Backend) (generation : Generation) : Plugin :=
  ⟨⟨0, .builtIn 0⟩, 1, generation, "crowd", backend, true, true, true, false⟩

def current : Plugin := plugin (.current ⟨[.offerPositional]⟩) .current

def legacy : Plugin :=
  plugin (.legacy ⟨⟨Legacy.magic, none, none, false, false, true, true, false, true⟩,
    some ⟨Legacy.magic, 2, true⟩, none, "", "", .empty, .empty⟩) .legacy

/-- Names with a zero in them, duplicates and names that begin others, in their order. -/
theorem byName_processes :
    ByName processes [⟨"a", 4⟩, ⟨"a\x00", 2⟩, ⟨"ab", 3⟩, ⟨"b", 1⟩, ⟨"b", 5⟩] := by
  have h := Legacy.Adapter.byName_mergeSort processes
  simpa [processes, List.mergeSort, List.MergeSort.Internal.splitInTwo, Legacy.Adapter.nameLe,
    Wide.encode, Legacy.Adapter.wideLe] using h

end Crowd

namespace Plugin

/-- The plugin of the current interface gets four of the five processes, the older one gets all of
them in another order. Its lock says yes. -/
theorem offer_process_table_crowd :
    let x := (Crowd.current.offer Crowd.processes).record Crowd.answer
    let y := (Crowd.legacy.offer Crowd.processes).record Crowd.answer
    x.1 = [⟨.plugin ⟨0, .builtIn 0⟩
      (.offerPositional [[98], [97, 98], [97], [98]] [1, 3, 4, 5]), x.2.1⟩] ∧
    (∃ word ≠ 0, y.1 = [⟨.plugin ⟨0, .builtIn 0⟩ (.tryLockAmong
      [([97, 0], 4), ([97, 0, 0], 2), ([97, 98, 0], 3), ([98, 0], 1), ([98, 0], 5)]), word⟩]) ∧
    y.2.1 = .ok := by
  intro x y
  obtain ⟨hcurrent, -⟩ :=
    offer_process_table (yields_record Crowd.answer (Crowd.current.offer Crowd.processes))
  obtain ⟨-, hlegacy⟩ :=
    offer_process_table (yields_record Crowd.answer (Crowd.legacy.offer Crowd.processes))
  obtain ⟨names, pids, hcolumns, hx⟩ := (hcurrent _ rfl).1 (by decide)
  obtain ⟨sorted, word, hsorted, hy, hword⟩ := (hlegacy _ rfl).1 ⟨_, rfl, rfl⟩
  have hok : y.2.1 = .ok := rfl
  refine ⟨?_, ⟨word, hword.1 hok, ?_⟩, hok⟩
  · -- the two lists are those that the pairs fall apart into
    have hunzip := congrArg List.unzip hcolumns.pairs
    rw [List.unzip_zip hcolumns.length] at hunzip
    obtain ⟨rfl, rfl⟩ := Prod.mk.injEq .. ▸ hunzip
    exact hx
  · obtain rfl := hsorted.unique Crowd.byName_processes
    exact hy

end Plugin
end PluginHost
