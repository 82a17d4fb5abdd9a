import LogRelay.Delivery.Shipper

/-!
The line that an event becomes. It is read off the event's fields: the texts of the message, then
every other field as its name and its text, and the first error with its causes behind them.
-/
set_option autoImplicit false

namespace LogRelay.Delivery

def FieldValue.chain? : FieldValue → Option ErrorChain
  | .error chain => some chain
  | _ => none

def ErrorChain.behind : ErrorChain → List String
  | .root _ => []
  | .caused _ cause => cause.texts

def isError (field : String × FieldValue) : Bool := field.2.chain?.isSome

-- An error is no part of the message, whatever its name.
def isMessage (field : String × FieldValue) : Bool := field.1 = messageField && !isError field

def messageOf (fields : List (String × FieldValue)) : String :=
  .join ((fields.filter isMessage).map fun field => field.2.text)

def remarksOf (fields : List (String × FieldValue)) : String :=
  .join ((fields.filter fun field => !isMessage field).map fun field =>
    " " ++ field.1 ++ "=" ++ field.2.text)

def firstError? (fields : List (String × FieldValue)) : Option ErrorChain :=
  fields.findSome? fun field => field.2.chain?

def Layout.errorText (layout : Layout) : Option ErrorChain → String
  | none => ""
  | some chain =>
      " \x7b" ++ "\t".intercalate (chain.text :: chain.behind.take layout.causes) ++ "\x7d"

theorem chain_texts (chain : ErrorChain) : chain.texts = chain.text :: chain.behind := by
  cases chain <;> rfl

theorem chain_texts_ne_nil (chain : ErrorChain) : chain.texts ≠ [] := by
  rw [chain_texts]
  exact List.cons_ne_nil _ _

theorem trace_of_chain (layout : Layout) (error : Option ErrorChain) :
    layout.trace (error.elim [] ErrorChain.texts) = layout.errorText error := by
  cases error with
  | none => rfl
  | some chain => rw [Option.elim_some, chain_texts, Layout.trace, Layout.errorText]

namespace Digest

theorem add_message (digest : Digest) (field : String × FieldValue) (message : isMessage field) :
    digest.add field = { digest with message := digest.message ++ field.2.text } := by
  obtain ⟨name, value⟩ := field
  cases value <;> simp_all [isMessage, isError, FieldValue.chain?, add]

theorem add_first_error (digest : Digest) (field : String × FieldValue) (chain : ErrorChain)
    (error : field.2.chain? = some chain) (first : digest.trace = []) :
    digest.add field = { digest with trace := chain.texts } := by
  obtain ⟨name, value⟩ := field
  cases value <;> simp_all [FieldValue.chain?, add]

theorem add_remark (digest : Digest) (field : String × FieldValue)
    (other : isMessage field = false) (later : isError field = true → digest.trace ≠ []) :
    digest.add field = digest.attach field.1 field.2.text := by
  obtain ⟨name, value⟩ := field
  cases value <;> simp_all [isMessage, isError, FieldValue.chain?, FieldValue.text, add]

-- Behind the first error all errors are fields like others.
theorem add_all_behind_error (fields : List (String × FieldValue)) (digest : Digest)
    (later : digest.trace ≠ []) : fields.foldl add digest =
      ⟨digest.message ++ messageOf fields, digest.fields ++ remarksOf fields, digest.trace⟩ := by
  induction fields generalizing digest with
  | nil => simp [messageOf, remarksOf]
  | cons field rest ih =>
      rw [List.foldl_cons]
      cases message : isMessage field with
      | true =>
          have behind := ih { digest with message := digest.message ++ field.2.text } later
          rw [add_message digest field message, behind]
          simp [messageOf, remarksOf, message, String.append_assoc]
      | false =>
          rw [add_remark digest field message fun _ => later, ih (digest.attach _ _) later]
          simp [messageOf, remarksOf, message, attach, String.append_assoc]

theorem add_all (fields : List (String × FieldValue)) (digest : Digest)
    (first : digest.trace = []) : fields.foldl add digest =
      ⟨digest.message ++ messageOf fields, digest.fields ++ remarksOf (fields.eraseP isError),
        (firstError? fields).elim [] ErrorChain.texts⟩ := by
  induction fields generalizing digest with
  | nil =>
      obtain ⟨message, fields, trace⟩ := digest
      cases first
      simp [messageOf, remarksOf, firstError?]
  | cons field rest ih =>
      rw [List.foldl_cons]
      cases error : field.2.chain? with
      | some chain =>
          have isErr : isError field = true := by simp [isError, error]
          have noMessage : isMessage field = false := by simp [isMessage, isErr]
          rw [add_first_error digest field chain error first,
            add_all_behind_error rest _ (chain_texts_ne_nil chain)]
          simp [messageOf, firstError?, error, isErr, noMessage]
      | none =>
          have noErr : isError field = false := by simp [isError, error]
          cases message : isMessage field with
          | true =>
              have behind := ih { digest with message := digest.message ++ field.2.text } first
              rw [add_message digest field message, behind]
              simp [messageOf, remarksOf, firstError?, error, noErr, message, String.append_assoc]
          | false =>
              have remark : digest.add field = digest.attach field.1 field.2.text :=
                add_remark digest field message fun isErr => by simp [noErr] at isErr
              rw [remark, ih (digest.attach _ _) first]
              simp [messageOf, remarksOf, firstError?, error, noErr, message, attach,
                String.append_assoc]

end Digest

theorem event_line_written (layout : Layout) (event : Event) :
    layout.eventLine event = "[" ++ layout.host ++ "] " ++ event.level.name ++ " - " ++
      messageOf event.fields ++ remarksOf (event.fields.eraseP isError) ++
      layout.errorText (firstError? event.fields) := by
  have read : event.digest = ⟨messageOf event.fields, remarksOf (event.fields.eraseP isError),
      (firstError? event.fields).elim [] ErrorChain.texts⟩ := by
    rw [Event.digest, Digest.add_all event.fields .empty rfl]
    simp [Digest.empty]
  simp only [Layout.eventLine, read, Layout.line, trace_of_chain, String.append_assoc]

end LogRelay.Delivery
