import Mathlib.Data.List.Infix
import LogRelay.Config.Environment
import LogRelay.Proofs.Config.Overlay

/-!
What an environment makes of its variables. A variable whose name is the mark, a part and a field,
in any case, stands for that field and for nothing else; the order of the variables is of no
account as long as no two of them have one name.
-/
set_option autoImplicit false

namespace LogRelay.Config

open Text

def lowered (name : String) : List Char := name.toList.map Char.toLower

def variableName (part name : String) : List Char :=
  variableMark ++ part.toList ++ '_' :: '_' :: name.toList

-- A part's or a field's name: without points and white space, and with its underscores standing
-- alone between other characters.
structure IsWord (word : String) : Prop where
  filled : word ≠ ""
  plain : ∀ c ∈ word.toList, c ≠ '.' ∧ isBlank c = false
  apart : ¬ ['_', '_'] <:+: '_' :: word.toList ++ ['_']

theorem is_word_iff (word : String) : IsWord word ↔
    word ≠ "" ∧ (word.toList.all fun c => c ≠ '.' && !isBlank c) = true ∧
      ¬ ['_', '_'] <:+: '_' :: word.toList ++ ['_'] := by
  rw [List.all_eq_true]
  simp only [Bool.and_eq_true, decide_eq_true_eq, Bool.not_eq_true']
  exact ⟨fun ⟨filled, plain, apart⟩ => ⟨filled, plain, apart⟩,
    fun ⟨filled, plain, apart⟩ => ⟨filled, plain, apart⟩⟩

instance (word : String) : Decidable (IsWord word) :=
  decidable_of_iff _ (is_word_iff word).symm

theorem drop_while_unblank (text : List Char) (unblank : ∀ c ∈ text, isBlank c = false) :
    text.dropWhile isBlank = text := by
  cases text with
  | nil => rfl
  | cons c rest =>
      apply List.dropWhile_cons_of_neg
      simp [unblank c List.mem_cons_self]

theorem trim_unblank (text : List Char) (unblank : ∀ c ∈ text, isBlank c = false) :
    trim text = text := by
  have reversed : ∀ c ∈ text.reverse, isBlank c = false := fun c member =>
    unblank c (List.mem_reverse.mp member)
  rw [trim, drop_while_unblank text unblank, drop_while_unblank _ reversed,
    List.reverse_reverse]

theorem lower_blank (c : Char) (blank : isBlank c = true) : c.toLower = c := by
  refine dif_neg ?_
  rintro ⟨above, below⟩
  have above : 65 ≤ c.toNat := above
  have below : c.toNat ≤ 90 := below
  have other : c ≠ ' ' := by
    rintro rfl
    exact absurd above (by decide)
  simp [isBlank, blankRanges, other] at blank
  omega

theorem pointed_apart (text : List Char) (apart : ¬ ['_', '_'] <:+: text) :
    pointed text = text := by
  induction text with
  | nil => rfl
  | cons c rest ih =>
      have below : ¬ ['_', '_'] <:+: rest := fun inside =>
        apart (inside.trans (List.suffix_cons c rest).isInfix)
      rw [pointed, ih below]
      rintro rest' rfl rfl
      exact apart ⟨[], rest', rfl⟩

-- The first two underscores in a row are those behind a text that has none.
theorem pointed_append (front rest : List Char) (apart : ¬ ['_', '_'] <:+: front ++ ['_']) :
    pointed (front ++ '_' :: '_' :: rest) = front ++ '.' :: pointed rest := by
  induction front with
  | nil => rfl
  | cons c front ih =>
      have below : ¬ ['_', '_'] <:+: front ++ ['_'] := fun inside =>
        apart (inside.trans (List.suffix_cons c _).isInfix)
      rw [List.cons_append, pointed, ih below, List.cons_append]
      rintro rest' rfl begins
      cases front with
      | nil => exact apart ⟨[], [], rfl⟩
      | cons d front =>
          cases begins
          exact apart ⟨[], front ++ ['_'], rfl⟩

theorem path_of_spelled (label part name : String) (partWord : IsWord part)
    (nameWord : IsWord name) (spelled : lowered label = variableName part name) :
    pathOf? label = some [part, name] := by
  have unblank : ∀ c ∈ variableName part name, isBlank c = false := by
    intro c member
    simp only [variableName, List.mem_append, List.mem_cons] at member
    rcases member with ((mark | inPart) | rfl | rfl | inName)
    · have clear : (variableMark.all fun c => !isBlank c) = true := by decide
      simpa using List.all_eq_true.mp clear c mark
    · exact (partWord.plain c inPart).2
    · decide
    · decide
    · exact (nameWord.plain c inName).2
  have trimmed : trim label.toList = label.toList := by
    apply trim_unblank
    intro c member
    cases blank : isBlank c with
    | false => rfl
    | true =>
        have there : c ∈ variableName part name := by
          rw [← spelled, ← lower_blank c blank]
          exact List.mem_map_of_mem member
        exact blank.symm.trans (unblank c there)
  have path : pointed (part.toList ++ '_' :: '_' :: name.toList) =
      part.toList ++ '.' :: name.toList := by
    rw [pointed_append, pointed_apart]
    · exact fun inside => nameWord.apart (inside.trans ⟨['_'], ['_'], rfl⟩)
    · exact fun inside => partWord.apart (inside.trans (List.suffix_cons '_' _).isInfix)
  have pathUnblank : ∀ c ∈ part.toList ++ '.' :: name.toList, isBlank c = false := by
    intro c member
    rcases List.mem_append.mp member with inPart | later
    · exact (partWord.plain c inPart).2
    · rcases List.mem_cons.mp later with rfl | inName
      · decide
      · exact (nameWord.plain c inName).2
  have partWhole : '.' ∉ part.toList := fun member => (partWord.plain '.' member).1 rfl
  have nameWhole : '.' ∉ name.toList := fun member => (nameWord.plain '.' member).1 rfl
  have marked : variableMark.isPrefixOf (variableName part name) = true := by
    rw [List.isPrefixOf_iff_prefix, variableName, List.append_assoc]
    exact List.prefix_append _ _
  have behind : (variableName part name).drop variableMark.length =
      part.toList ++ '_' :: '_' :: name.toList := by
    rw [variableName, List.append_assoc, List.drop_left]
  have lower : label.toList.map Char.toLower = variableName part name := spelled
  simp only [pathOf?, trimmed, lower, marked, behind, path, trim_unblank _ pathUnblank, if_true]
  rw [List.splitOn_append_cons_self_of_not_mem partWhole, List.splitOn_eq_singleton nameWhole]
  simp [partWord.filled, nameWord.filled]

def isSetting (label : String) : Bool := (pathOf? label).isSome

-- Each setting of the environment is for a field of a part, and no two have one name.
structure Addressed (environment : List (String × String)) : Prop where
  spelled : ∀ entry ∈ environment, isSetting entry.1 = true →
    ∃ part name, IsWord part ∧ IsWord name ∧ lowered entry.1 = variableName part name
  distinct : ((environment.filter (isSetting ·.1)).map (lowered ·.1)).Nodup

def Given (environment : List (String × String)) (part name : String) (literal : Value) : Prop :=
  ∃ entry ∈ environment, lowered entry.1 = variableName part name ∧
    Value.ofLiteral? entry.2 = some literal

def Readable (environment : List (String × String)) : Prop :=
  ∀ entry ∈ environment, isSetting entry.1 = true → (Value.ofLiteral? entry.2).isSome

theorem readable_cons (label text : String) (rest : List (String × String)) :
    Readable ((label, text) :: rest) ↔
      (isSetting label = true → (Value.ofLiteral? text).isSome) ∧ Readable rest :=
  List.forall_mem_cons

theorem addressed_rest (entry : String × String) (rest : List (String × String))
    (addressed : Addressed (entry :: rest)) : Addressed rest := by
  refine ⟨fun other member => addressed.spelled other (List.mem_cons_of_mem _ member), ?_⟩
  have distinct := addressed.distinct
  rw [List.filter_cons] at distinct
  split at distinct
  · exact (List.nodup_cons.mp distinct).2
  · exact distinct

theorem addressed_apart (entry other : String × String) (rest : List (String × String))
    (addressed : Addressed (entry :: rest)) (member : other ∈ rest) (path : List String)
    (found : pathOf? entry.1 = some path) : pathOf? other.1 ≠ some path := by
  intro same
  have setting : isSetting entry.1 = true := by rw [isSetting, found]; rfl
  have otherSetting : isSetting other.1 = true := by rw [isSetting, same]; rfl
  obtain ⟨part, name, partWord, nameWord, spelled⟩ :=
    addressed.spelled entry List.mem_cons_self setting
  obtain ⟨part', name', partWord', nameWord', spelled'⟩ :=
    addressed.spelled other (List.mem_cons_of_mem _ member) otherSetting
  rw [path_of_spelled _ _ _ partWord nameWord spelled] at found
  rw [path_of_spelled _ _ _ partWord' nameWord' spelled', ← found] at same
  cases same
  have distinct := addressed.distinct
  rw [List.filter_cons, if_pos setting, List.map_cons, List.nodup_cons, spelled,
    ← spelled'] at distinct
  exact distinct.1 (List.mem_map.mpr ⟨other, List.mem_filter.mpr ⟨member, otherSetting⟩, rfl⟩)

theorem add_foreign (value : Value) (label text : String) (foreign : pathOf? label = none) :
    addVariable? value label text = some value := by
  rw [addVariable?, foreign]

theorem add_setting (value : Value) (label text : String) (path : List String)
    (found : pathOf? label = some path) : addVariable? value label text =
      (Value.ofLiteral? text).map fun literal => value.merge (literal.nest path) := by
  rw [addVariable?, found]

def Written (environment : List (String × String)) (path : List String) (literal : Value) : Prop :=
  ∃ entry ∈ environment, pathOf? entry.1 = some path ∧ Value.ofLiteral? entry.2 = some literal

theorem written_cons (label text : String) (rest : List (String × String)) (path : List String)
    (literal : Value) : Written ((label, text) :: rest) path literal ↔
      (pathOf? label = some path ∧ Value.ofLiteral? text = some literal) ∨
        Written rest path literal := by
  simp [Written]

def addAll? (value : Value) (environment : List (String × String)) : Option Value :=
  environment.foldlM (fun value (name, text) => addVariable? value name text) value

theorem add_all_cons (value : Value) (label text : String) (rest : List (String × String)) :
    addAll? value ((label, text) :: rest) =
      (addVariable? value label text).bind fun next => addAll? next rest :=
  rfl

theorem add_all_readable (environment : List (String × String)) (value : Value) :
    (addAll? value environment).isSome ↔ Readable environment := by
  induction environment generalizing value with
  | nil => exact ⟨nofun, fun _ => rfl⟩
  | cons entry rest ih =>
      obtain ⟨label, text⟩ := entry
      rw [add_all_cons, readable_cons]
      cases found : pathOf? label with
      | none =>
          rw [add_foreign value label text found, isSetting, found]
          simpa using ih value
      | some path =>
          rw [add_setting value label text path found, isSetting, found]
          cases read : Value.ofLiteral? text with
          | none => simp
          | some literal => simpa using ih (value.merge (literal.nest path))

-- Each setting goes to a field that has none yet, so none of them is lost and none is changed.
theorem add_all_fields (environment : List (String × String)) (entries : List (String × Value))
    (after : Value) (addressed : Addressed environment) (layered : Layered entries)
    (free : ∀ entry ∈ environment, ∀ part name, pathOf? entry.1 = some [part, name] →
      (Value.map entries).at? part name = none)
    (added : addAll? (.map entries) environment = some after) :
    ∃ entries', after = .map entries' ∧ Layered entries' ∧
      ∀ part name literal, after.at? part name = some literal ↔
        (Value.map entries).at? part name = some literal ∨
        Written environment [part, name] literal := by
  induction environment generalizing entries with
  | nil =>
      cases added
      exact ⟨entries, rfl, layered, by simp [Written]⟩
  | cons entry rest ih =>
      have restAddressed := addressed_rest entry rest addressed
      have apart := addressed_apart entry
      obtain ⟨label, text⟩ := entry
      rw [add_all_cons] at added
      cases found : pathOf? label with
      | none =>
          rw [add_foreign _ label text found] at added
          obtain ⟨entries', same, layered', fields⟩ := ih entries restAddressed layered
            (fun other member => free other (List.mem_cons_of_mem _ member)) added
          refine ⟨entries', same, layered', ?_⟩
          intro part name literal
          rw [fields, written_cons, found]
          simp
      | some path =>
          obtain ⟨part, name, partWord, nameWord, spelled⟩ :=
            addressed.spelled _ List.mem_cons_self (by rw [isSetting, found]; rfl)
          have two := path_of_spelled label part name partWord nameWord spelled
          cases found.symm.trans two
          rw [add_setting _ label text _ found] at added
          obtain ⟨next, step, added⟩ := Option.bind_eq_some_iff.mp added
          obtain ⟨literal, read, rfl⟩ := Option.map_eq_some_iff.mp step
          have unset := free _ List.mem_cons_self part name found
          obtain ⟨between, merged, betweenLayered⟩ :=
            layered_merge_nest entries literal part name layered
          have at_between (part' name' : String) : (Value.map between).at? part' name' =
              if part' = part ∧ name' = name then some literal
              else (Value.map entries).at? part' name' := by
            rw [← merged, Value.at_merge_nest, unset]
            rfl
          rw [merged] at added
          obtain ⟨entries', same, layered', fields⟩ := ih between restAddressed betweenLayered
            (by
              intro other member part' name' otherFound
              rw [at_between, if_neg]
              · exact free other (List.mem_cons_of_mem _ member) part' name' otherFound
              · rintro ⟨rfl, rfl⟩
                exact apart other rest addressed member _ found otherFound)
            added
          refine ⟨entries', same, layered', ?_⟩
          intro part' name' literal'
          rw [fields, at_between, written_cons, found, read]
          by_cases asked : part' = part ∧ name' = name
          · obtain ⟨rfl, rfl⟩ := asked
            simp [unset]
          · have other : some [part, name] ≠ some [part', name'] := by
              intro same
              cases same
              exact asked ⟨rfl, rfl⟩
            rw [if_neg asked]
            simp only [other, false_and, false_or]

theorem written_iff_given (environment : List (String × String)) (part name : String)
    (literal : Value) (addressed : Addressed environment) :
    Written environment [part, name] literal ↔
      IsWord part ∧ IsWord name ∧ Given environment part name literal := by
  constructor
  · rintro ⟨entry, member, found, read⟩
    obtain ⟨part', name', partWord, nameWord, spelled⟩ :=
      addressed.spelled entry member (by rw [isSetting, found]; rfl)
    cases found.symm.trans (path_of_spelled _ _ _ partWord nameWord spelled)
    exact ⟨partWord, nameWord, entry, member, spelled, read⟩
  · rintro ⟨partWord, nameWord, entry, member, spelled, read⟩
    exact ⟨entry, member, path_of_spelled _ _ _ partWord nameWord spelled, read⟩

theorem environment_readable (environment : List (String × String)) :
    (ofEnvironment? environment).isSome ↔ Readable environment :=
  add_all_readable environment (.map [])

theorem environment_unreadable (environment : List (String × String)) :
    ofEnvironment? environment = none ↔ ∃ entry ∈ environment, isSetting entry.1 = true ∧
      Value.ofLiteral? entry.2 = none := by
  rw [← Option.not_isSome_iff_eq_none, environment_readable, Readable]
  simp only [Classical.not_forall, Option.not_isSome_iff_eq_none]
  constructor
  · rintro ⟨entry, member, setting, unread⟩
    exact ⟨entry, member, setting, unread⟩
  · rintro ⟨entry, member, setting, unread⟩
    exact ⟨entry, member, setting, unread⟩

theorem environment_fields (environment : List (String × String)) (overrides : Value)
    (addressed : Addressed environment) (found : ofEnvironment? environment = some overrides) :
    ∃ entries, overrides = .map entries ∧ Layered entries ∧
      ∀ part name literal, overrides.at? part name = some literal ↔
        IsWord part ∧ IsWord name ∧ Given environment part name literal := by
  obtain ⟨entries, same, layered, fields⟩ := add_all_fields environment [] overrides addressed
    ⟨List.nodup_nil, nofun⟩ (fun _ _ _ _ _ => rfl) found
  refine ⟨entries, same, layered, ?_⟩
  intro part name literal
  rw [fields, ← written_iff_given environment part name literal addressed]
  exact or_iff_right nofun

end LogRelay.Config
