import LogRelay.Config.Value

set_option autoImplicit false

namespace LogRelay.Config

namespace Value

def child? (name : String) : Value → Option Value
  | .map entries => entries.lookup name
  | _ => none

def at? (value : Value) (part name : String) : Option Value :=
  (value.child? part).bind (child? name)

def isMap : Value → Bool
  | .map _ => true
  | _ => false

theorem lookup_head (name other : String) (value : Value) (rest : List (String × Value)) :
    ((other, value) :: rest).lookup name =
      if name = other then some value else rest.lookup name := by
  rw [List.lookup_cons]
  by_cases same : name = other
  · simp [same]
  · have differ : (name == other) = false := by simp [same]
    rw [differ, if_neg same]

theorem lookup_put (name other : String) (value : Value) (entries : List (String × Value)) :
    (put name value entries).lookup other =
      if other = name then some value else entries.lookup other := by
  induction entries with
  | nil => rw [put, lookup_head]
  | cons entry rest ih =>
      obtain ⟨first, former⟩ := entry
      rw [put]
      by_cases same : first = name
      · rw [if_pos same, lookup_head, lookup_head, same]
        by_cases asked : other = name
        · rw [if_pos asked, if_pos asked]
        · rw [if_neg asked, if_neg asked, if_neg asked]
      · rw [if_neg same, lookup_head, lookup_head, ih]
        by_cases asked : other = first
        · rw [if_pos asked, if_neg (asked ▸ same), if_pos asked]
        · rw [if_neg asked, if_neg asked]

theorem lookup_absent (name : String) (entries : List (String × Value))
    (absent : name ∉ entries.map Prod.fst) : entries.lookup name = none := by
  rw [List.lookup_eq_none_iff]
  rintro ⟨other, value⟩ member
  rw [bne_iff_ne]
  rintro rfl
  exact absent (List.mem_map_of_mem member)

theorem lookup_merge_entries (entries later : List (String × Value)) (name : String)
    (once : (later.map Prod.fst).Nodup) :
    (mergeEntries entries later).lookup name =
      match later.lookup name with
      | none => entries.lookup name
      | some value => some ((entries.lookup name).elim value (merge · value)) := by
  induction later generalizing entries with
  | nil => rfl
  | cons entry rest ih =>
      obtain ⟨first, value⟩ := entry
      obtain ⟨absent, once⟩ := List.nodup_cons.mp once
      have one : mergeEntries entries ((first, value) :: rest) = mergeEntries
          (put first ((entries.lookup first).elim value (merge · value)) entries) rest := by
        rw [mergeEntries]
        cases entries.lookup first <;> rfl
      rw [one, ih _ once, lookup_put, lookup_head]
      by_cases same : name = first
      · rw [if_pos same, if_pos same, same, lookup_absent first rest absent]
      · rw [if_neg same, if_neg same]

theorem child_merge (former : Value) (later : List (String × Value)) (name : String)
    (once : (later.map Prod.fst).Nodup) :
    (former.merge (.map later)).child? name =
      match later.lookup name with
      | none => former.child? name
      | some value => some ((former.child? name).elim value (merge · value)) := by
  cases former with
  | map entries =>
      rw [merge]
      exact lookup_merge_entries entries later name once
  | _ =>
      rw [merge]
      · cases found : later.lookup name <;> simp [child?, found]
      · intro entries same
        cases same

theorem child_merge_one (former value : Value) (first name : String) :
    (former.merge (.map [(first, value)])).child? name =
      if name = first then some ((former.child? first).elim value (merge · value))
      else former.child? name := by
  rw [child_merge former _ name (by simp), lookup_head]
  by_cases same : name = first
  · rw [if_pos same, if_pos same, same]
  · rw [if_neg same, if_neg same]
    rfl

theorem at_merge_nest (former literal : Value) (part name part' name' : String) :
    (former.merge (literal.nest [part, name])).at? part' name' =
      if part' = part ∧ name' = name then
        some ((former.at? part name).elim literal (merge · literal))
      else former.at? part' name' := by
  rw [at?, nest, nest, nest, child_merge_one]
  by_cases samePart : part' = part
  · subst samePart
    rw [if_pos rfl, Option.bind_some, at?, at?]
    cases former.child? part' with
    | none =>
        rw [Option.elim_none, child?, lookup_head]
        by_cases sameName : name' = name
        · rw [if_pos sameName, if_pos ⟨rfl, sameName⟩]
          rfl
        · rw [if_neg sameName, if_neg fun both => sameName both.2]
          rfl
    | some below =>
        rw [Option.elim_some, child_merge_one]
        by_cases sameName : name' = name
        · rw [if_pos sameName, if_pos ⟨rfl, sameName⟩]
          rfl
        · rw [if_neg sameName, if_neg fun both => sameName both.2]
          rfl
  · rw [if_neg samePart, if_neg fun both => samePart both.1]
    rfl

end Value

-- A tree of two levels in which no name stands twice side by side and no part is empty.
structure Layered (entries : List (String × Value)) : Prop where
  once : (entries.map Prod.fst).Nodup
  parts : ∀ entry ∈ entries, ∃ fields, entry.2 = .map fields ∧ fields ≠ [] ∧
    (fields.map Prod.fst).Nodup

namespace Value

theorem put_names (name : String) (value : Value) (entries : List (String × Value)) :
    (put name value entries).map Prod.fst =
      if name ∈ entries.map Prod.fst then entries.map Prod.fst
      else entries.map Prod.fst ++ [name] := by
  induction entries with
  | nil => rfl
  | cons entry rest ih =>
      obtain ⟨first, former⟩ := entry
      rw [put]
      by_cases same : first = name
      · rw [if_pos same, if_pos (by simp [same])]
        simp [same]
      · have differ : name ≠ first := fun reversed => same reversed.symm
        rw [if_neg same, List.map_cons, ih]
        have later : name ∈ ((first, former) :: rest).map Prod.fst ↔ name ∈ rest.map Prod.fst := by
          simp [differ]
        by_cases member : name ∈ rest.map Prod.fst
        · rw [if_pos member, if_pos (later.mpr member), List.map_cons]
        · rw [if_neg member, if_neg (mt later.mp member), List.map_cons, List.cons_append]

theorem put_once (name : String) (value : Value) (entries : List (String × Value))
    (once : (entries.map Prod.fst).Nodup) : ((put name value entries).map Prod.fst).Nodup := by
  rw [put_names]
  split
  · exact once
  · next absent =>
    rw [List.nodup_append]
    refine ⟨once, by simp, ?_⟩
    rintro other member _ last rfl
    rw [List.mem_singleton.mp last] at member
    exact absent member

theorem put_ne_nil (name : String) (value : Value) (entries : List (String × Value)) :
    put name value entries ≠ [] := by
  intro empty
  have found := lookup_put name name value entries
  rw [empty, if_pos rfl] at found
  cases found

theorem put_mem (name : String) (value : Value) (entries : List (String × Value))
    (entry : String × Value) (member : entry ∈ put name value entries) :
    entry = (name, value) ∨ entry ∈ entries := by
  induction entries with
  | nil => exact .inl (List.mem_singleton.mp member)
  | cons head rest ih =>
      obtain ⟨first, former⟩ := head
      rw [put] at member
      split at member
      · rcases List.mem_cons.mp member with atHead | later
        · exact .inl atHead
        · exact .inr (List.mem_cons_of_mem _ later)
      · rcases List.mem_cons.mp member with rfl | later
        · exact .inr List.mem_cons_self
        · rcases ih later with new | old
          · exact .inl new
          · exact .inr (List.mem_cons_of_mem _ old)

theorem lookup_mem (name : String) (value : Value) (entries : List (String × Value))
    (found : entries.lookup name = some value) : (name, value) ∈ entries := by
  obtain ⟨front, rest, rfl, _⟩ := List.lookup_eq_some_iff.mp found
  exact List.mem_append_right _ List.mem_cons_self

end Value

theorem merge_one (entries : List (String × Value)) (name : String) (value : Value) :
    (Value.map entries).merge (.map [(name, value)]) =
      .map (Value.put name ((entries.lookup name).elim value (Value.merge · value)) entries) := by
  rw [Value.merge, Value.mergeEntries]
  cases entries.lookup name <;> rfl

theorem layered_merge_nest (entries : List (String × Value)) (literal : Value)
    (part name : String) (layered : Layered entries) :
    ∃ after, (Value.map entries).merge (literal.nest [part, name]) = .map after ∧
      Layered after := by
  rw [Value.nest, Value.nest, Value.nest, merge_one]
  refine ⟨_, rfl, Value.put_once _ _ _ layered.once, ?_⟩
  intro entry member
  rcases Value.put_mem _ _ _ _ member with rfl | old
  · cases found : entries.lookup part with
    | none => exact ⟨_, rfl, List.cons_ne_nil _ _, by simp⟩
    | some below =>
        obtain ⟨fields, same, _, once⟩ := layered.parts _ (Value.lookup_mem _ _ _ found)
        dsimp only at same
        subst same
        exact ⟨_, merge_one fields name literal, Value.put_ne_nil _ _ _, Value.put_once _ _ _ once⟩
  · exact layered.parts entry old

theorem layered_part (entries : List (String × Value)) (part : String) (layered : Layered entries) :
    (∃ value, entries.lookup part = some value) ↔
      ∃ name literal, (Value.map entries).at? part name = some literal := by
  constructor
  · rintro ⟨value, found⟩
    obtain ⟨fields, same, filled, _⟩ := layered.parts _ (Value.lookup_mem _ _ _ found)
    dsimp only at same
    subst same
    obtain ⟨⟨name, literal⟩, rest, rfl⟩ := List.exists_cons_of_ne_nil filled
    refine ⟨name, literal, ?_⟩
    rw [Value.at?, Value.child?, found, Option.bind_some, Value.child?, Value.lookup_head,
      if_pos rfl]
  · rintro ⟨name, literal, found⟩
    obtain ⟨value, there, _⟩ := Option.bind_eq_some_iff.mp found
    exact ⟨value, there⟩

theorem at_merge_layered (former : Value) (later : List (String × Value)) (part name : String)
    (layered : Layered later) :
    (former.merge (.map later)).at? part name =
      match (Value.map later).at? part name with
      | none => former.at? part name
      | some literal => some ((former.at? part name).elim literal (Value.merge · literal)) := by
  have below : (Value.map later).at? part name = (later.lookup part).bind (Value.child? name) := rfl
  rw [below, Value.at?, Value.at?, Value.child_merge former later part layered.once]
  cases found : later.lookup part with
  | none => rfl
  | some value =>
      obtain ⟨fields, same, _, once⟩ := layered.parts _ (Value.lookup_mem _ _ _ found)
      dsimp only at same
      subst same
      dsimp only [Option.bind_some]
      have entry : (Value.map fields).child? name = fields.lookup name := rfl
      cases former.child? part with
      | none =>
          rw [Option.elim_none, Option.bind_none, entry]
          cases fields.lookup name <;> rfl
      | some under =>
          rw [Option.elim_some, Option.bind_some, entry, Value.child_merge under fields name once]

end LogRelay.Config
