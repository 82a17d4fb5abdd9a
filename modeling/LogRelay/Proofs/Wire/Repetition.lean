import LogRelay.Proofs.Wire.Heading
import LogRelay.Wire.Call

set_option autoImplicit false

namespace LogRelay.Wire

structure Field (α : Type) where
  kind : UInt8
  id : Int16
  value : Bytes
  content : α

def Field.bytes {α : Type} (field : Field α) : Bytes :=
  field.kind :: Bytes.put16 field.id.toUInt16 field.value

def structBytes {α : Type} (fields : List (Field α)) : Bytes :=
  fields.flatMap Field.bytes ++ [0]

-- What one call of a field reader does, said without the reader: it accepts the fields of a form
-- and adds what each of them says to the state.
def ReadsFields {σ α : Type} (reader : FieldReader σ) (Form : Field α → Prop) (add : σ → α → σ) :
    Prop :=
  ∀ (kind : UInt8) (id : Int16) (state after : σ) (input rest : Bytes), kind ≠ 0 →
    (reader.read kind id state input = .ok (after, rest) ↔
      ∃ value content, Form ⟨kind, id, value, content⟩ ∧ input = value ++ rest ∧
        after = add state content)

theorem fold_fields_stop {σ : Type} (reader : FieldReader σ) (state : σ) (rest : Bytes) :
    foldFields reader state (0 :: rest) = .ok (state, rest) := by
  rw [foldFields]
  simp

theorem fold_fields_field {σ : Type} (reader : FieldReader σ) (kind : UInt8) (id : Int16)
    (state after : σ) (value rest : Bytes) (named : kind ≠ 0)
    (read : reader.read kind id state value = .ok (after, rest)) :
    foldFields reader state (kind :: Bytes.put16 id.toUInt16 value) =
      foldFields reader after rest := by
  have numbered : takeInt16 (Bytes.put16 id.toUInt16 value) = .ok (id, value) :=
    (take_int16_iff _ value id).mpr rfl
  rw [foldFields]
  split
  · contradiction
  · split
    · simp_all
    · next number tail taken =>
      rw [numbered] at taken
      cases taken
      split
      · simp_all
      · next result behind valued =>
        rw [read] at valued
        cases valued
        rfl

-- What holds where a struct stops, and of each field if of all behind it, holds of the whole.
theorem fold_fields_induction {σ : Type} (reader : FieldReader σ) (motive : σ → Bytes → Prop)
    (after : σ) (rest : Bytes) (stop : motive after (0 :: rest))
    (field : ∀ kind id state middle body value tail, kind ≠ 0 → takeInt16 body = .ok (id, value) →
      reader.read kind id state value = .ok (middle, tail) → motive middle tail →
      motive state (kind :: body)) (state : σ) (input : Bytes)
    (read : foldFields reader state input = .ok (after, rest)) : motive state input := by
  -- The bytes left behind a field are fewer, so the induction is on the length of the input.
  induction input using (measure List.length).wf.induction generalizing state with
  | _ input ih =>
    unfold foldFields at read
    split at read
    · cases read
    · next kind body =>
      split at read
      · next stopped =>
        cases read
        rw [stopped]
        exact stop
      · next named =>
        split at read
        · cases read
        · next id value numbered =>
          split at read
          · cases read
          · next middle tail valued =>
            have first := take_int16_length numbered
            have second := reader.no_growth valued
            have shorter : tail.length < (kind :: body).length := by
              simp only [List.length_cons]
              omega
            exact field kind id state middle body value tail named numbered valued
              (ih tail shorter middle read)

theorem struct_bytes_cons {α : Type} (field : Field α) (fields : List (Field α)) (rest : Bytes) :
    structBytes (field :: fields) ++ rest = field.kind ::
      Bytes.put16 field.id.toUInt16 (field.value ++ (structBytes fields ++ rest)) := by
  simp [structBytes, Field.bytes]

theorem fold_fields_sound {σ α : Type} (reader : FieldReader σ) (Form : Field α → Prop)
    (add : σ → α → σ) (reads : ReadsFields reader Form add) (state after : σ) (input rest : Bytes)
    (read : foldFields reader state input = .ok (after, rest)) :
    ∃ fields : List (Field α), (∀ field ∈ fields, field.kind ≠ 0 ∧ Form field) ∧
      input = structBytes fields ++ rest ∧
      after = (fields.map Field.content).foldl add state := by
  refine fold_fields_induction reader (fun state input => ∃ fields : List (Field α),
    (∀ field ∈ fields, field.kind ≠ 0 ∧ Form field) ∧ input = structBytes fields ++ rest ∧
      after = (fields.map Field.content).foldl add state) after rest ?_ ?_ state input read
  · exact ⟨[], by simp, rfl, rfl⟩
  · intro kind id state middle body value tail named numbered valued later
    obtain ⟨fields, good, bytes, final⟩ := later
    obtain ⟨front, content, form, split, added⟩ :=
      (reads kind id state middle value tail named).mp valued
    refine ⟨⟨kind, id, front, content⟩ :: fields, ?_, ?_, ?_⟩
    · exact List.forall_mem_cons.mpr ⟨⟨named, form⟩, good⟩
    · rw [(take_int16_iff body value id).mp numbered, split, bytes, struct_bytes_cons]
    · rw [final, added]
      rfl

theorem fold_fields_complete {σ α : Type} (reader : FieldReader σ) (Form : Field α → Prop)
    (add : σ → α → σ) (reads : ReadsFields reader Form add) (fields : List (Field α))
    (good : ∀ field ∈ fields, field.kind ≠ 0 ∧ Form field) (state : σ) (rest : Bytes) :
    foldFields reader state (structBytes fields ++ rest) =
      .ok ((fields.map Field.content).foldl add state, rest) := by
  induction fields generalizing state with
  | nil => exact fold_fields_stop reader state rest
  | cons field tail ih =>
      obtain ⟨named, form⟩ := good field (by simp)
      have valued := (reads field.kind field.id state (add state field.content)
        (field.value ++ (structBytes tail ++ rest)) (structBytes tail ++ rest) named).mpr
          ⟨field.value, field.content, form, rfl, rfl⟩
      have step := fold_fields_field reader field.kind field.id state _ _ _ named valued
      rw [struct_bytes_cons, step, ih (fun later member => good later (by simp [member]))]
      rfl

theorem fold_fields_iff {σ α : Type} (reader : FieldReader σ) (Form : Field α → Prop)
    (add : σ → α → σ) (reads : ReadsFields reader Form add) (state after : σ)
    (input rest : Bytes) :
    foldFields reader state input = .ok (after, rest) ↔
      ∃ fields : List (Field α), (∀ field ∈ fields, field.kind ≠ 0 ∧ Form field) ∧
        input = structBytes fields ++ rest ∧
        after = (fields.map Field.content).foldl add state := by
  constructor
  · exact fold_fields_sound reader Form add reads state after input rest
  · rintro ⟨fields, good, rfl, rfl⟩
    exact fold_fields_complete reader Form add reads fields good state rest

theorem skip_many_iff {α : Type} (step : Bytes → Except Fault Bytes) (Form : α → Prop)
    (bytes : α → Bytes)
    (passes : ∀ input rest, step input = .ok rest ↔ ∃ item, Form item ∧ input = bytes item ++ rest)
    (count : Nat) (input rest : Bytes) :
    skipMany step count input = .ok rest ↔
      ∃ items : List α, items.length = count ∧ (∀ item ∈ items, Form item) ∧
        input = items.flatMap bytes ++ rest := by
  induction count generalizing input with
  | zero =>
      constructor
      · intro skipped
        cases skipped
        exact ⟨[], rfl, by simp, by simp⟩
      · rintro ⟨items, none, _, rfl⟩
        rw [List.length_eq_zero_iff.mp none]
        rfl
  | succ count ih =>
      constructor
      · intro skipped
        unfold skipMany at skipped
        split at skipped
        · cases skipped
        · next tail once =>
          obtain ⟨item, form, split⟩ := (passes input tail).mp once
          obtain ⟨items, length, forms, written⟩ := (ih tail).mp skipped
          refine ⟨item :: items, by simp [length], ?_, by simp [split, written]⟩
          intro other member
          rcases List.mem_cons.mp member with atHead | later
          · subst other
            exact form
          · exact forms other later
      · rintro ⟨items, length, forms, rfl⟩
        cases items with
        | nil => cases length
        | cons item items =>
            have once := (passes (bytes item ++ (items.flatMap bytes ++ rest)) _).mpr
              ⟨item, forms item (by simp), rfl⟩
            have others := (ih (items.flatMap bytes ++ rest)).mpr
              ⟨items, Nat.succ.inj length, fun other member => forms other (by simp [member]), rfl⟩
            rw [List.flatMap_cons, List.append_assoc, skipMany, once]
            exact others

end LogRelay.Wire
