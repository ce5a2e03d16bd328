import Mathlib.Data.List.Nodup
import PluginHost.Settings.Layers

/-!
# Documents over each other

What a name has in a document that is put over another one, and in a whole stack of them.

* **`Layers.last?`**: the value that comes last for a name. **`Layers.values`**: all values for it.
* **`member?_overlayMembers`**: each name has the pile of its own values. **`pile_last`**: the value
  at the top of a pile is what counts, unless it is a table and lies on another one.
* **`merge_eq`**: all layers make one list of members.
* **`Joined`**: members joined name by name, the last value of each. **`joined_overlayMembers`**:
  documents that are put over each other are joined so.
-/

namespace PluginHost

/-- The members of a document, none for anything but an object. -/
def Json.members : Json → List (String × Json)
  | .object ms => ms
  | _ => []

namespace Layers

variable {ms above : List (String × Json)} {name other : String} {value : Json}

/-! ## Values of a name -/

/-- All values for a name, the first one in front. -/
def values (ms : List (String × Json)) (name : String) : List Json :=
  (ms.filter (·.1 == name)).map (·.2)

/-- The value that comes last for a name. -/
def last? (ms : List (String × Json)) (name : String) : Option Json := (values ms name).getLast?

@[simp] theorem values_nil : values [] name = [] := rfl

@[simp] theorem values_append :
    values (ms ++ above) name = values ms name ++ values above name := by
  simp [values]

@[simp] theorem values_cons_self : values ((name, value) :: ms) name = value :: values ms name := by
  simp [values]

theorem values_cons_of_ne (h : other ≠ name) :
    values ((other, value) :: ms) name = values ms name := by
  simp [values, h]

theorem mem_values : value ∈ values ms name ↔ (name, value) ∈ ms := by
  simp only [values, List.mem_map, List.mem_filter, beq_iff_eq, Prod.exists]
  constructor
  · rintro ⟨n, v, ⟨h, rfl⟩, rfl⟩
    exact h
  · exact fun h => ⟨name, value, ⟨h, rfl⟩, rfl⟩

@[simp] theorem last?_nil : last? [] name = none := rfl

/-- The last value comes from the upper members if they have one. -/
theorem last?_append : last? (ms ++ above) name = (last? above name).or (last? ms name) := by
  simp [last?, List.getLast?_append]

theorem last?_cons : last? ((name, value) :: ms) other =
    (last? ms other).or (if other = name then some value else none) := by
  rw [show (name, value) :: ms = [(name, value)] ++ ms from rfl, last?_append]
  by_cases h : other = name
  · simp [h, last?]
  · simp [h, last?, values_cons_of_ne (Ne.symm h)]

/-- A value comes last iff it lies on all the others. -/
theorem last?_eq_some : last? ms name = some value ↔ ∃ vs, values ms name = vs ++ [value] := by
  simp [last?, List.getLast?_eq_some_iff]

theorem last?_eq_none : last? ms name = none ↔ values ms name = [] := by
  simp [last?]

theorem mem_of_last? (h : last? ms name = some value) : (name, value) ∈ ms := by
  obtain ⟨vs, hvs⟩ := last?_eq_some.1 h
  exact mem_values.1 (by simp [hvs])

/-! ## One member -/

theorem member?_cons : member? ((name, value) :: ms) other =
    if other = name then some value else member? ms other := by
  by_cases h : other = name
  · simp [member?, h]
  · simp [member?, h, Ne.symm h]

theorem member?_isSome : (member? ms name).isSome = true ↔ ms.any (·.1 == name) = true := by
  simp [member?]

/-- The members with another value in all places of a name. -/
theorem member?_map_value : member? (ms.map fun (k, v) => if k == name then (k, value) else (k, v))
    other = if other = name then (member? ms name).map fun _ => value else member? ms other := by
  induction ms with
  | nil => simp [member?]
  | cons m ms ih =>
    obtain ⟨k, v⟩ := m
    by_cases hk : k = name
    · subst hk
      simp only [List.map_cons, beq_self_eq_true, if_true, member?_cons, ih]
      by_cases ho : other = k <;> simp [ho]
    · simp only [List.map_cons, beq_eq_false_iff_ne.2 hk, Bool.false_eq_true, if_false,
        member?_cons, ih]
      by_cases ho : other = name
      · simp [ho, Ne.symm hk]
      · simp [ho]

/-- A member that is put is found under its name, and the others are as before. -/
theorem member?_putMember :
    member? (putMember ms name value) other =
      if other = name then some value else member? ms other := by
  unfold putMember
  split
  · rename_i hin
    obtain ⟨v, hv⟩ := Option.isSome_iff_exists.1 (member?_isSome.2 hin)
    rw [member?_map_value, hv]
    rfl
  · rename_i hout
    -- the value comes last, and nothing before it has the name
    have hnone : member? ms name = none := by
      rw [← Option.not_isSome_iff_eq_none, member?_isSome]
      exact hout
    have hlast : member? [(name, value)] other = if other = name then some value else none :=
      member?_cons
    rw [member?, List.find?_append, Option.map_or]
    change (member? ms other).or (member? [(name, value)] other) = _
    rw [hlast]
    by_cases ho : other = name
    · rw [ho, hnone, if_pos rfl, Option.none_or]
    · rw [if_neg ho, if_neg ho, Option.or_none]

/-- A name that is there keeps its place, another one comes last. -/
theorem names_putMember : (putMember ms name value).map (·.1) =
    if ms.any (·.1 == name) then ms.map (·.1) else ms.map (·.1) ++ [name] := by
  unfold putMember
  split
  · rw [List.map_map]
    refine List.map_congr_left fun m _ => ?_
    simp only [Function.comp_apply]
    split <;> rfl
  · simp

/-- Names stay distinct when a member is put. -/
theorem nodup_putMember (h : (ms.map (·.1)).Nodup) :
    ((putMember ms name value).map (·.1)).Nodup := by
  rw [names_putMember]
  split
  · exact h
  · rename_i hout
    rw [List.nodup_append]
    refine ⟨h, by simp, fun a ha b hb => ?_⟩
    rintro rfl
    obtain rfl : a = name := by simpa using hb
    obtain ⟨m, hm, hma⟩ := List.mem_map.1 ha
    exact hout (List.any_eq_true.2 ⟨m, hm, by simpa using hma⟩)

/-- Where no name stands twice a name has one value at most. -/
theorem values_of_nodup (h : (ms.map (·.1)).Nodup) (name : String) :
    values ms name = (member? ms name).toList := by
  induction ms with
  | nil => rfl
  | cons m ms ih =>
    obtain ⟨k, v⟩ := m
    obtain ⟨hfresh, h'⟩ := List.nodup_cons.1 h
    by_cases hk : k = name
    · subst hk
      have hnone : member? ms k = none := by
        rw [← Option.not_isSome_iff_eq_none, member?_isSome]
        simpa using hfresh
      rw [values_cons_self, ih h', hnone, member?_cons, if_pos rfl]
      rfl
    · rw [values_cons_of_ne hk, ih h', member?_cons, if_neg (Ne.symm hk)]

theorem last?_of_nodup (h : (ms.map (·.1)).Nodup) : last? ms name = member? ms name := by
  rw [last?, values_of_nodup h]
  cases member? ms name <;> rfl

/-- Members put in one after the other: the last one of a name stays. -/
theorem foldl_putMember (ms above : List (String × Json)) (name : String)
    (h : (ms.map (·.1)).Nodup) :
    let all := above.foldl (fun ms m => putMember ms m.1 m.2) ms
    (all.map (·.1)).Nodup ∧ member? all name = (last? above name).or (member? ms name) := by
  induction above generalizing ms with
  | nil => exact ⟨h, rfl⟩
  | cons m above ih =>
    obtain ⟨k, v⟩ := m
    obtain ⟨hnodup, hmember⟩ := ih (putMember ms k v) (nodup_putMember h)
    refine ⟨hnodup, ?_⟩
    rw [List.foldl_cons, hmember, member?_putMember, last?_cons, Option.or_assoc]
    congr 1
    split <;> rfl

/-! ## Documents over documents -/

/-- An object is laid over what is below, member by member. -/
theorem overlay_object {under : Json} :
    overlay under (.object above) = .object (overlayMembers under.members above) := by
  cases under <;> rfl

/-- Anything but an object replaces what is below it. -/
theorem overlay_of_not_object {under : Json} (h : value.isObject = false) :
    overlay under value = value := by
  cases value <;> first | rfl | simp [Json.isObject] at h

/-- Members are laid over in turn. -/
theorem overlayMembers_append {rest : List (String × Json)} :
    overlayMembers ms (above ++ rest) = overlayMembers (overlayMembers ms above) rest := by
  induction above generalizing ms with
  | nil => rfl
  | cons m above ih =>
    obtain ⟨k, v⟩ := m
    exact ih

/-- Names stay distinct when members are laid over. -/
theorem nodup_overlayMembers (h : (ms.map (·.1)).Nodup) :
    ((overlayMembers ms above).map (·.1)).Nodup := by
  induction above generalizing ms with
  | nil => exact h
  | cons m above ih =>
    obtain ⟨k, v⟩ := m
    exact ih (nodup_putMember h)

/-- Values over each other, the first one at the bottom. -/
def pile (bottom : Option Json) (vs : List Json) : Option Json :=
  vs.foldl (fun under v => some (overlay (under.getD .null) v)) bottom

/-- Each name has the pile of its own values. -/
theorem member?_overlayMembers :
    member? (overlayMembers ms above) name = pile (member? ms name) (values above name) := by
  induction above generalizing ms with
  | nil => rfl
  | cons m above ih =>
    obtain ⟨k, v⟩ := m
    change member? (overlayMembers (putMember ms k _) above) name = _
    rw [ih, member?_putMember]
    by_cases hk : name = k
    · rw [if_pos hk, hk, values_cons_self]
      rfl
    · rw [if_neg hk, values_cons_of_ne (Ne.symm hk)]

/-- A value that stays what it is over anything but a table. -/
def Settled (value : Json) : Prop :=
  ∀ under : Json, under.isObject = false → overlay under value = value

theorem settled_of_not_object (h : value.isObject = false) : Settled value :=
  fun _ _ => overlay_of_not_object h

/-- Values without a table among them make no table. -/
theorem pile_not_object {bottom : Option Json} {vs : List Json}
    (hb : ∀ v ∈ bottom, v.isObject = false) (hvs : ∀ v ∈ vs, v.isObject = false) :
    ∀ v ∈ pile bottom vs, v.isObject = false := by
  induction vs generalizing bottom with
  | nil => exact hb
  | cons v vs ih =>
    obtain ⟨hv, hvs'⟩ := List.forall_mem_cons.1 hvs
    refine ih (fun w hw => ?_) hvs'
    obtain rfl := Option.some.inj hw
    rw [overlay_of_not_object hv]
    exact hv

/-- The value at the top is what counts, unless it is a table and lies on another table. -/
theorem pile_last {vs : List Json} (hv : Settled value)
    (htable : value.isObject = true → ∀ v ∈ vs, v.isObject = false) :
    pile none (vs ++ [value]) = some value := by
  rw [pile, List.foldl_append]
  change some (overlay ((pile none vs).getD .null) value) = some value
  cases ht : value.isObject with
  | false => rw [overlay_of_not_object ht]
  | true =>
    have hbelow : ((pile none vs).getD .null).isObject = false := by
      cases hp : pile none vs with
      | none => rfl
      | some v => exact pile_not_object (by simp) (htable ht) v hp
    rw [hv _ hbelow]

/-! ## Flat values -/

/-- No table, or a table with no table in it and no name twice. -/
def Flat (value : Json) : Prop :=
  (value.members.map (·.1)).Nodup ∧ ∀ m ∈ value.members, m.2.isObject = false

theorem flat_of_not_object (h : value.isObject = false) : Flat value := by
  cases value <;> first | exact ⟨.nil, by simp [Json.members]⟩ | simp [Json.isObject] at h

/-- New names with values that are no tables are added as they are. -/
theorem overlayMembers_of_flat (h : ((ms ++ above).map (·.1)).Nodup)
    (hflat : ∀ m ∈ above, m.2.isObject = false) : overlayMembers ms above = ms ++ above := by
  induction above generalizing ms with
  | nil => exact (List.append_nil ms).symm
  | cons m above ih =>
    obtain ⟨k, v⟩ := m
    obtain ⟨hv, hflat⟩ := List.forall_mem_cons.1 hflat
    -- the name is not there yet, so its member comes last
    have hout : ms.any (·.1 == k) = false := by
      rw [List.map_append, List.nodup_append] at h
      simp only [List.any_eq_false, beq_iff_eq]
      exact fun m hm => h.2.2 m.1 (List.mem_map_of_mem hm) k (by simp)
    rw [overlayMembers, overlay_of_not_object hv, putMember, hout, if_neg Bool.false_ne_true,
      ih ?_ hflat, List.append_assoc, List.singleton_append]
    rwa [List.append_assoc, List.singleton_append]

theorem settled_of_flat (h : Flat value) : Settled value := by
  cases value with
  | object above =>
    intro under hunder
    have hnone : under.members = [] := by
      cases under <;> first | rfl | simp [Json.isObject] at hunder
    have hall : overlayMembers [] above = [] ++ above := overlayMembers_of_flat h.1 h.2
    rw [overlay_object, hnone, hall, List.nil_append]
  | _ => exact settled_of_not_object rfl

/-! ## All layers -/

/-- Members are joined name by name. No name stands twice, nothing is made up, and of several values
for one name the last one wins. Only tables may be joined with each other, and what becomes of them
is left open here. -/
structure Joined (ms all : List (String × Json)) : Prop where
  once : (all.map (·.1)).Nodup
  absent : ∀ name, values ms name = [] → member? all name = none
  later_wins : ∀ name vs value, values ms name = vs ++ [value] → Flat value →
    (value.isObject = true → ∀ v ∈ vs, v.isObject = false) → member? all name = some value

/-- Laying members over nothing joins them name by name. -/
theorem joined_overlayMembers (ms : List (String × Json)) : Joined ms (overlayMembers [] ms) where
  once := nodup_overlayMembers .nil
  absent name h := by rw [member?_overlayMembers, h]; rfl
  later_wins name vs value h hflat htable := by
    rw [member?_overlayMembers, h]
    exact pile_last (settled_of_flat hflat) htable

/-- Layers without members may be left out. -/
theorem members_foldl_overlay (under : Json) (layers : List (List (String × Json))) :
    (((layers.map Json.object).filter (!isBlank ·)).foldl overlay under).members =
      overlayMembers under.members layers.flatten := by
  induction layers generalizing under with
  | nil => rfl
  | cons ms layers ih =>
    rw [List.flatten_cons, overlayMembers_append, List.map_cons]
    cases ms with
    | nil => exact ih under
    | cons m ms =>
      rw [List.filter_cons_of_pos rfl, List.foldl_cons, ih, overlay_object]
      rfl

/-- The members of a file, if there is one. -/
def fileMembers (file : Option Json) : List (String × Json) := file.elim [] Json.members

/-- All layers together make one list of members, because the command line is never without
members. -/
theorem merge_eq {file : Option Json} {environment commandLine : List (String × Json)}
    (hne : commandLine ≠ []) :
    merge (file.toList ++ [.object environment] ++ [.object commandLine]) =
      .object (overlayMembers [] (fileMembers file ++ environment ++ commandLine)) := by
  obtain ⟨m, rest, rfl⟩ := List.exists_cons_of_ne_nil hne
  -- what the file leaves at the bottom
  have hfile : ((file.toList.filter (!isBlank ·)).foldl overlay .null).members =
      overlayMembers [] (fileMembers file) := by
    cases file with
    | none => rfl
    | some j =>
      cases j with
      | object ms => cases ms <;> rfl
      | _ => rfl
  have hupper := members_foldl_overlay ((file.toList.filter (!isBlank ·)).foldl overlay .null)
    [environment]
  have hlast : [Json.object (m :: rest)].filter (!isBlank ·) = [Json.object (m :: rest)] := rfl
  rw [merge, List.filter_append, List.filter_append, List.foldl_append, List.foldl_append, hlast]
  simp only [List.map_cons, List.map_nil, List.flatten_cons, List.flatten_nil,
    List.append_nil] at hupper
  rw [List.foldl_cons, List.foldl_nil, overlay_object, hupper, hfile, overlayMembers_append,
    overlayMembers_append]

end Layers

end PluginHost
