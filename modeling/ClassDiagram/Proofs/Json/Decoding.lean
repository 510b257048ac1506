import ClassDiagram.Json.Decoder
import ClassDiagram.Proofs.Json.Acceptance

/-! # Taking records apart

A record is taken from the entries of an object if they fill its slots one after the other and lead
to a draft that can be finished (`record_of_leads`).  Each kind of field has the value that stands
for its content. -/

namespace ClassDiagram.Json.Decoder

variable {α δ : Type}

/-- The entry fills the free slot of its name. -/
def Fills (r : Record Decoder δ α) (draft : δ) (name : String) (v : Json) (draft' : δ) : Prop :=
  ∃ slot, r.slot? name = some slot ∧ slot.filled draft = false ∧ slot.fill draft v = .ok draft'

theorem recordEntries_of_leads {r : Record Decoder δ α} {draft draft' : δ}
    {entries : List (String × Json)} (h : Leads (Fills r) draft entries draft') :
    recordEntries r entries draft = .ok draft' := by
  induction h with
  | nil draft => rfl
  | cons he _ ih =>
      obtain ⟨slot, hslot, hfree, hfill⟩ := he
      simp only [recordEntries, hslot, hfree, hfill]
      exact ih

theorem record_of_leads {r : Record Decoder δ α} (draft : δ) {a : α}
    {entries : List (String × Json)} (h : Leads (Fills r) r.blank entries draft)
    (hfinish : r.finish draft = .ok a) : record r (.object entries) = .ok a := by
  simp only [record, recordEntries_of_leads h]
  exact hfinish

/-- A field that a draft keeps as an option is filled with what its decoder takes. -/
theorem fill_of {β : Type} {name : String} {required : Bool} {get : δ → Option β}
    {put : δ → β → δ} {take : Decoder β} {draft : δ} {v : Json} {b : β} (h : take v = .ok b) :
    (Slot.of name required get put take).fill draft v = .ok (put draft b) := by
  show put draft <$> take v = .ok (put draft b)
  rw [h]
  rfl

theorem word_string [Vocabulary α] {name : String} {a : α} (h : Vocabulary.ofName name = .ok a)
    (withinRecord : Bool) : word withinRecord (.string name) = .ok a := h

theorem optional_some {item : Decoder α} {v : Json} {a : α} (hv : v ≠ .null)
    (h : item v = .ok a) : optional item v = .ok (some a) := by
  cases v with
  | null => exact absurd rfl hv
  | _ => simp only [optional, h]; rfl

theorem eachItem_map {item : Decoder α} {f : α → Json} (h : ∀ a, item (f a) = .ok a)
    (as : List α) : eachItem item (as.map f) = .ok as := by
  induction as with
  | nil => rfl
  | cons a as ih =>
      simp only [List.map_cons, eachItem, h, ih]
      rfl

end ClassDiagram.Json.Decoder
