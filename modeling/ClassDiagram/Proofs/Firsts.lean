import ClassDiagram.Firsts
import Mathlib.Data.List.Basic

/-! # First occurrences, by key

An element is among the first occurrences if the search for its key finds it (`mem_firsts`), so no
two of them share a key (`nodup_firsts`), and searching them for a key is searching the whole list
(`find?_firsts`).  They stand in the order in which their keys first occur (`pairwise_firsts`), and
an element at the end of the list joins them at their end or not at all (`firsts_concat`).  A map
that keeps the keys keeps the first occurrences (`firsts_map`), and so does one that renames the
keys and keeps them apart (`firsts_map_of_injective`).  Where elements are their own keys, first
occurrences can be filtered before or after (`firsts_filter`). -/

namespace ClassDiagram

variable {α β : Type} [DecidableEq β] {key : α → β}

theorem mem_firstsFrom {seen : List β} {as : List α} {a : α} :
    a ∈ firstsFrom key seen as ↔ key a ∉ seen ∧ as.find? (key · == key a) = some a := by
  induction as generalizing seen with
  | nil => simp [firstsFrom]
  | cons b as ih =>
      rw [firstsFrom, List.find?_cons]
      by_cases hkey : key b = key a
      · by_cases hseen : key b ∈ seen
        · rw [if_pos hseen, ih]
          simp [hkey ▸ hseen]
        · rw [if_neg hseen, List.mem_cons, ih]
          simp [hkey, hkey ▸ hseen, eq_comm]
      · have hne : a ≠ b := fun hab => hkey (congrArg key hab.symm)
        by_cases hseen : key b ∈ seen
        · rw [if_pos hseen, ih, beq_eq_false_iff_ne.mpr hkey]
        · rw [if_neg hseen, List.mem_cons, ih, beq_eq_false_iff_ne.mpr hkey]
          simp [hne, Ne.symm hkey]

/-- The first occurrences are what a search for their keys finds. -/
theorem mem_firsts {as : List α} {a : α} :
    a ∈ firsts key as ↔ as.find? (key · == key a) = some a := by
  simp [firsts, mem_firstsFrom]

theorem nodup_firstsFrom (seen : List β) (as : List α) :
    ((firstsFrom key seen as).map key).Nodup := by
  induction as generalizing seen with
  | nil => exact List.nodup_nil
  | cons a as ih =>
      rw [firstsFrom]
      split
      · exact ih seen
      · refine List.nodup_cons.mpr ⟨fun hmem => ?_, ih (key a :: seen)⟩
        obtain ⟨b, hb, hkey⟩ := List.mem_map.mp hmem
        exact (mem_firstsFrom.mp hb).1 (hkey ▸ List.mem_cons_self)

/-- No two first occurrences share a key. -/
theorem nodup_firsts (key : α → β) (as : List α) : ((firsts key as).map key).Nodup :=
  nodup_firstsFrom [] as

theorem firstsFrom_sublist (seen : List β) (as : List α) :
    (firstsFrom key seen as).Sublist as := by
  induction as generalizing seen with
  | nil => exact List.Sublist.refl []
  | cons a as ih =>
      rw [firstsFrom]
      split
      · exact (ih seen).cons a
      · exact (ih (key a :: seen)).cons_cons a

/-- Reducing a list to first occurrences never moves an element. -/
theorem firsts_sublist (key : α → β) (as : List α) : (firsts key as).Sublist as :=
  firstsFrom_sublist [] as

theorem find?_firstsFrom {seen : List β} {k : β} (hk : k ∉ seen) (as : List α) :
    (firstsFrom key seen as).find? (key · == k) = as.find? (key · == k) := by
  induction as generalizing seen with
  | nil => rfl
  | cons a as ih =>
      rw [firstsFrom]
      by_cases hkey : key a = k
      · rw [if_neg (hkey ▸ hk), List.find?_cons_of_pos (by simpa using hkey),
          List.find?_cons_of_pos (by simpa using hkey)]
      · rw [List.find?_cons_of_neg (by simpa using hkey)]
        split
        · exact ih hk
        · rw [List.find?_cons_of_neg (by simpa using hkey)]
          exact ih (by simp [Ne.symm hkey, hk])

/-- What a search for a key finds is a first occurrence. -/
theorem find?_firsts (key : α → β) (k : β) (as : List α) :
    (firsts key as).find? (key · == k) = as.find? (key · == k) :=
  find?_firstsFrom List.not_mem_nil as

theorem firstsFrom_eq_self {seen : List β} {as : List α} (hnodup : (as.map key).Nodup)
    (hseen : ∀ a ∈ as, key a ∉ seen) : firstsFrom key seen as = as := by
  induction as generalizing seen with
  | nil => rfl
  | cons a as ih =>
      rw [List.map_cons, List.nodup_cons] at hnodup
      rw [firstsFrom, if_neg (hseen a List.mem_cons_self)]
      refine congrArg (a :: ·) (ih hnodup.2 fun b hb => ?_)
      rw [List.mem_cons, not_or]
      refine ⟨fun hkey => hnodup.1 (hkey ▸ List.mem_map_of_mem hb), ?_⟩
      exact hseen b (List.mem_cons_of_mem a hb)

/-- Elements with different keys are all first occurrences. -/
theorem firsts_eq_self {as : List α} (hnodup : (as.map key).Nodup) : firsts key as = as :=
  firstsFrom_eq_self hnodup fun _ _ => List.not_mem_nil

/-- Among elements with different keys, each is found by its key. -/
theorem find?_of_nodup {as : List α} (hnodup : (as.map key).Nodup) {a : α} (ha : a ∈ as) :
    as.find? (key · == key a) = some a := by
  have hfirst : a ∈ firsts key as := (firsts_eq_self hnodup).symm ▸ ha
  exact mem_firsts.mp hfirst

section map
variable {α' β' : Type} [DecidableEq β'] {key' : α' → β'} {f : α → α'} {r : β → β'}

theorem firstsFrom_map (hr : Function.Injective r) (hkey : ∀ a, key' (f a) = r (key a))
    (seen : List β) (as : List α) :
    firstsFrom key' (seen.map r) (as.map f) = (firstsFrom key seen as).map f := by
  induction as generalizing seen with
  | nil => rfl
  | cons a as ih =>
      have hseen : key' (f a) ∈ seen.map r ↔ key a ∈ seen := by
        rw [hkey, List.mem_map_of_injective hr]
      have ih' := ih (key a :: seen)
      rw [List.map_cons, ← hkey] at ih'
      rw [List.map_cons, firstsFrom, firstsFrom]
      by_cases hmem : key a ∈ seen
      · rw [if_pos (hseen.mpr hmem), if_pos hmem, ih]
      · rw [if_neg (mt hseen.mp hmem), if_neg hmem, ih', List.map_cons]

/-- First occurrences are kept where keys are told apart as before. -/
theorem firsts_map_of_injective (hr : Function.Injective r) (hkey : ∀ a, key' (f a) = r (key a))
    (as : List α) : firsts key' (as.map f) = (firsts key as).map f :=
  firstsFrom_map hr hkey [] as

end map

/-- What keeps the keys keeps the first occurrences. -/
theorem firsts_map (f : α → α) (hkey : ∀ a, key (f a) = key a) (as : List α) :
    firsts key (as.map f) = (firsts key as).map f :=
  firsts_map_of_injective Function.injective_id hkey as

theorem firstsFrom_concat (seen : List β) (as : List α) (a : α) :
    firstsFrom key seen (as ++ [a]) =
      firstsFrom key seen as ++ if key a ∈ seen ∨ key a ∈ as.map key then [] else [a] := by
  induction as generalizing seen with
  | nil => simp [firstsFrom]
  | cons b as ih =>
      rw [List.cons_append, firstsFrom, firstsFrom]
      by_cases hseen : key b ∈ seen
      · have hkeys : (key a ∈ seen ∨ key a ∈ (b :: as).map key) ↔
            (key a ∈ seen ∨ key a ∈ as.map key) := by
          rw [List.map_cons, List.mem_cons]
          constructor
          · rintro (h | h | h)
            · exact .inl h
            · exact .inl (h ▸ hseen)
            · exact .inr h
          · rintro (h | h)
            · exact .inl h
            · exact .inr (.inr h)
        simp only [if_pos hseen, ih, hkeys]
      · simp only [if_neg hseen, ih, List.map_cons, List.mem_cons, List.cons_append, or_assoc,
          or_left_comm]

/-- One more element is a first occurrence unless its key has occurred. -/
theorem firsts_concat (key : α → β) (as : List α) (a : α) :
    firsts key (as ++ [a]) = firsts key as ++ if key a ∈ as.map key then [] else [a] := by
  simp only [firsts, firstsFrom_concat, List.not_mem_nil, false_or]

theorem findIdx_cons_of_ne {a b : α} (h : key a ≠ key b) (as : List α) :
    (a :: as).findIdx (key · == key b) = as.findIdx (key · == key b) + 1 := by
  rw [List.findIdx_cons, beq_eq_false_iff_ne.mpr h]
  rfl

theorem pairwise_firstsFrom (seen : List β) (as : List α) :
    (firstsFrom key seen as).Pairwise fun a b =>
      as.findIdx (key · == key a) < as.findIdx (key · == key b) := by
  induction as generalizing seen with
  | nil => exact .nil
  | cons c as ih =>
      -- what is kept behind `c` has another key, so its position is counted from one further back
      have hshift : ∀ {seen' : List β}, key c ∈ seen' →
          (firstsFrom key seen' as).Pairwise fun a b =>
            (c :: as).findIdx (key · == key a) < (c :: as).findIdx (key · == key b) := by
        intro seen' hc
        refine (ih seen').imp_of_mem fun {a b} ha hb hlt => ?_
        have hca : key c ≠ key a := fun h => (mem_firstsFrom.mp ha).1 (h ▸ hc)
        have hcb : key c ≠ key b := fun h => (mem_firstsFrom.mp hb).1 (h ▸ hc)
        rw [findIdx_cons_of_ne hca, findIdx_cons_of_ne hcb]
        omega
      rw [firstsFrom]
      by_cases hseen : key c ∈ seen
      · rw [if_pos hseen]
        exact hshift hseen
      · rw [if_neg hseen]
        refine List.pairwise_cons.mpr ⟨fun b hb => ?_, hshift List.mem_cons_self⟩
        have hcb : key c ≠ key b := fun h => (mem_firstsFrom.mp hb).1 (h ▸ List.mem_cons_self)
        rw [findIdx_cons_of_ne hcb, List.findIdx_cons, beq_self_eq_true]
        exact Nat.succ_pos _

/-- First occurrences stand in the order in which their keys first occur. -/
theorem pairwise_firsts (key : α → β) (as : List α) :
    (firsts key as).Pairwise fun a b =>
      as.findIdx (key · == key a) < as.findIdx (key · == key b) :=
  pairwise_firstsFrom [] as

variable [DecidableEq α]

theorem firsts_firsts (as : List α) : firsts id (firsts id as) = firsts id as :=
  firsts_eq_self (nodup_firsts id as)

theorem mem_firsts_id {as : List α} {a : α} : a ∈ firsts id as ↔ a ∈ as := by
  rw [mem_firsts]
  refine ⟨List.mem_of_find?_eq_some, fun ha => ?_⟩
  cases hfind : as.find? (id · == id a) with
  | none => simpa using List.find?_eq_none.mp hfind a ha
  | some b => simpa using List.find?_some hfind

/-- Only elements that pass the filter have to be seen alike. -/
theorem firstsFrom_filter {p : α → Bool} {seen seen' : List α}
    (hseen : ∀ a, p a = true → (a ∈ seen ↔ a ∈ seen')) (as : List α) :
    firstsFrom id seen (as.filter p) = (firstsFrom id seen' as).filter p := by
  induction as generalizing seen seen' with
  | nil => rfl
  | cons a as ih =>
      cases hp : p a with
      | false =>
          rw [List.filter_cons_of_neg (by simp [hp]), firstsFrom]
          split
          · exact ih hseen
          · rw [List.filter_cons_of_neg (by simp [hp])]
            refine ih fun b hb => ?_
            have hba : b ≠ a := fun hba => by simp [hba, hp] at hb
            simp [hseen b hb, hba]
      | true =>
          rw [List.filter_cons_of_pos hp, firstsFrom, firstsFrom, id_eq]
          by_cases hmem : a ∈ seen
          · rw [if_pos hmem, if_pos ((hseen a hp).mp hmem)]
            exact ih hseen
          · rw [if_neg hmem, if_neg (mt (hseen a hp).mpr hmem), List.filter_cons_of_pos hp]
            refine congrArg (a :: ·) (ih fun b hb => ?_)
            simp [hseen b hb]

theorem firsts_filter (p : α → Bool) (as : List α) :
    firsts id (as.filter p) = (firsts id as).filter p :=
  firstsFrom_filter (fun _ _ => Iff.rfl) as

end ClassDiagram
