import Mathlib.Data.List.Lex
import Mathlib.Data.Prod.Lex
import Mathlib.Data.String.Basic
import PluginHost.Path

/-!
# The order of paths, and files in directories

* **`Path.key`**: paths are compared by the keys of their steps, which are ordered linearly.
* **`Path.pairwise_mergeSort`**: sorting by the order of paths sorts.
* **`Path.IsName`**: what is the name of one file. **`Path.isName_of_fileName?`**: the last
  component of a path is one.
* **`Path.fileName?_join`**: a file in a directory has its own name.
-/

namespace PluginHost
namespace Path

/-- The rank of a step as a member of a linear order. -/
def Component.key (c : Component) : Nat ×ₗ String := toLex c.rank

theorem Component.key_injective {a b : Component} (h : a.key = b.key) : a = b := by
  have h : a.rank = b.rank := h
  cases a <;> cases b <;> simp_all [Component.rank]

theorem Component.before_iff {a b : Component} : a.before b = true ↔ a.key < b.key := by
  simp [Component.before, Component.key, Prod.Lex.lt_iff]

/-- The steps of a path as a member of a linear order: that of lists of their keys. -/
def key (p : Path) : List (Nat ×ₗ String) := p.components.map Component.key

/-- Paths are compared as lists of keys are, by the first difference. -/
theorem go_iff {as bs : List Component} :
    before.go as bs = true ↔ as.map Component.key < bs.map Component.key := by
  induction as generalizing bs with
  | nil => cases bs <;> simp [before.go]
  | cons a as ih =>
    cases bs with
    | nil => simp [before.go]
    | cons b bs =>
      have hkey : a.key = b.key ↔ a = b := ⟨Component.key_injective, congrArg _⟩
      simp [before.go, List.cons_lt_cons_iff, Component.before_iff, hkey, ih]

/-- The order of paths is that of their keys. -/
theorem before_iff {p q : Path} : p.before q = true ↔ p.key < q.key := go_iff

/-- No path comes before an earlier one of the sorted list. -/
theorem pairwise_mergeSort (ps : List Path) :
    (ps.mergeSort fun a b => !b.before a).Pairwise fun a b => b.before a = false := by
  have hle : ∀ a b : Path, (!b.before a) = true ↔ a.key ≤ b.key := by
    intro a b
    rw [Bool.not_eq_true', ← Bool.not_eq_true, before_iff, not_lt]
  have htrans : ∀ a b c : Path,
      (!b.before a) = true → (!c.before b) = true → (!c.before a) = true :=
    fun a b c hab hbc => (hle a c).2 (((hle a b).1 hab).trans ((hle b c).1 hbc))
  have htotal : ∀ a b : Path, ((!b.before a) || !a.before b) = true := by
    intro a b
    rw [Bool.or_eq_true, hle, hle]
    exact le_total a.key b.key
  have hsorted := List.pairwise_mergeSort htrans htotal ps
  exact hsorted.imp fun h => by simpa using h

/-! ## Files in directories -/

variable {d p : Path} {n : String}

/-- A text that names one file in a directory. -/
structure IsName (n : String) : Prop where
  no_slash : '/' ∉ n.toList
  ne_empty : n.toList ≠ []
  ne_here : n.toList ≠ ['.']
  ne_parent : n.toList ≠ ['.', '.']

/-- The last component of a path is a name: it is not empty, has no slash, and is none of the
dots. -/
theorem isName_of_fileName? (h : p.fileName? = some n) : IsName n := by
  unfold fileName? at h
  split at h
  · rename_i s hs
    obtain rfl := Option.some.inj h
    have hmem : Component.name s ∈ p.components := List.mem_of_getLast? hs
    unfold components at hmem
    rcases List.mem_append.1 hmem with hmem | hmem
    · -- the root and a leading dot are no names
      split at hmem
      · simp at hmem
      · split at hmem <;> simp at hmem
    · obtain ⟨piece, hpiece, hs⟩ := List.mem_filterMap.1 hmem
      have hslash := Pieces.not_mem_of_mem_split hpiece
      unfold Component.ofPiece? at hs
      split at hs
      · simp at hs
      · rename_i hplain
        split at hs
        · simp at hs
        · rename_i hparent
          obtain rfl : String.ofList piece = s := by simpa using hs
          rw [not_or] at hplain
          exact ⟨by simpa using hslash, by simpa using hplain.1, by simpa using hplain.2,
            by simpa using hparent⟩
  · simp at h

/-- The text of a file in a directory: the directory, perhaps without a slash at its end, a slash
and the name. -/
theorem exists_join (hd : d.text ≠ "") (hn : IsName n) : ∃ cs,
    (d.text.toList = cs ∨ d.text.toList = cs ++ ['/']) ∧
      (d.join ⟨n⟩).text.toList = cs ++ '/' :: n.toList := by
  have hname : (⟨n⟩ : Path).isAbsolute = false := by
    unfold isAbsolute
    have hfirst : n.toList.head? ≠ some '/' := fun h => hn.no_slash (List.mem_of_head? h)
    simpa using hfirst
  have hempty : d.text.isEmpty = false := by simpa using hd
  rw [join, hname, hempty, Bool.or_self, if_neg Bool.false_ne_true]
  split
  · rename_i hlast
    have hlast : d.text.toList.getLast? = some '/' := by simpa using hlast
    obtain ⟨cs, hcs⟩ := List.getLast?_eq_some_iff.1 hlast
    exact ⟨cs, .inr hcs, by simp [hcs]⟩
  · exact ⟨d.text.toList, .inl rfl, by simp⟩

/-- What is in a directory is not named by a single name. -/
theorem slash_mem_join {q : Path} (hd : d.text ≠ "") : '/' ∈ (d.join q).text.toList := by
  have hempty : d.text.isEmpty = false := by simpa using hd
  rw [join, hempty, Bool.or_false]
  split
  · rename_i hroot
    unfold isAbsolute at hroot
    exact List.mem_of_head? (by simpa using hroot)
  · split
    · rename_i hlast
      have hmem : '/' ∈ d.text.toList := List.mem_of_getLast? (by simpa using hlast)
      simp [hmem]
    · simp

/-- Joining a name to a path adds one piece. -/
theorem pieces_join (hd : d.text ≠ "") (hn : IsName n) : ∃ qs,
    (pieces d.text.toList = qs ∨ pieces d.text.toList = qs ++ [[]]) ∧
      pieces (d.join ⟨n⟩).text.toList = qs ++ [n.toList] := by
  obtain ⟨cs, hcs, hjoin⟩ := exists_join hd hn
  refine ⟨pieces cs, ?_, ?_⟩
  · rcases hcs with hcs | hcs
    · exact .inl (congrArg pieces hcs)
    · refine .inr ?_
      rw [hcs, pieces, Pieces.split_append]
      rfl
  · rw [hjoin, pieces, Pieces.split_append, Pieces.split_of_not_mem hn.no_slash]
    rfl

/-- A name that is joined does not make a path absolute. -/
theorem isAbsolute_join (hd : d.text ≠ "") (hn : IsName n) :
    (d.join ⟨n⟩).isAbsolute = d.isAbsolute := by
  obtain ⟨cs, hcs, hjoin⟩ := exists_join hd hn
  have hne : d.text.toList ≠ [] := by simpa using hd
  unfold isAbsolute
  rw [hjoin]
  cases cs with
  | nil =>
    rcases hcs with hcs | hcs
    · exact absurd hcs hne
    · rw [hcs]
      rfl
  | cons c cs => rcases hcs with hcs | hcs <;> rw [hcs] <;> rfl

/-- The name that was joined is the last component. -/
theorem fileName?_join (hd : d.text ≠ "") (hn : IsName n) : (d.join ⟨n⟩).fileName? = some n := by
  obtain ⟨qs, -, hjoin⟩ := pieces_join hd hn
  have hpiece : Component.ofPiece? n.toList = some (.name n) := by
    unfold Component.ofPiece?
    rw [if_neg (not_or.2 ⟨hn.ne_empty, hn.ne_here⟩), if_neg hn.ne_parent, String.ofList_toList]
  have hlast : ((d.join ⟨n⟩).components).getLast? = some (.name n) := by
    unfold components
    rw [hjoin]
    simp [hpiece]
  unfold fileName?
  rw [hlast]

/-- Whether a file is a library by its name does not depend on where it is. -/
theorem isPluginLibrary_congr {q : Path} (h : p.fileName? = q.fileName?) :
    p.isPluginLibrary = q.isPluginLibrary := by
  unfold isPluginLibrary extension?
  rw [h]

end Path
end PluginHost
