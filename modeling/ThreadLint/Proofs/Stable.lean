/-!
This module contains that sorting is stable: the part of a sorted list that passes a test is what
sorting gives for that part of the list. It also contains that nothing is left twice once repetitions
are left out.
-/

namespace ThreadLint

variable {α : Type} {le : α → α → Bool}

/-- There is only one place for an item between those that it must not precede and the others. -/
theorem eq_of_append_eq {item : α} {front back front' back' : List α}
    (h : front ++ back = front' ++ back')
    (hfront : ∀ a ∈ front, le item a = false) (hback : ∀ a ∈ back, le item a = true)
    (hfront' : ∀ a ∈ front', le item a = false) (hback' : ∀ a ∈ back', le item a = true) :
    front = front' ∧ back = back' := by
  have hsplit {front back : List α} (hfront : ∀ a ∈ front, le item a = false)
      (hback : ∀ a ∈ back, le item a = true) :
      (front ++ back).takeWhile (fun a => !le item a) = front := by
    rw [List.takeWhile_append_of_pos (by simpa using hfront)]
    cases back with
    | nil => simp
    | cons a back => simp [hback a List.mem_cons_self]
  have heq : front = front' := by
    rw [← hsplit hfront hback, h, hsplit hfront' hback']
  rw [heq] at h
  exact ⟨heq, List.append_cancel_left h⟩

section

variable (htrans : ∀ a b c : α, le a b = true → le b c = true → le a c = true)
  (htotal : ∀ a b : α, (le a b || le b a) = true)

include htrans htotal

/-- The first item of a list is sorted in behind those that it must not precede. -/
theorem exists_mergeSort_cons (item : α) (items : List α) :
    ∃ front back, (item :: items).mergeSort le = front ++ item :: back ∧
      items.mergeSort le = front ++ back ∧
      (∀ a ∈ front, le item a = false) ∧ ∀ a ∈ back, le item a = true := by
  obtain ⟨front, back, hsorted, hrest, hfront⟩ := List.mergeSort_cons htrans htotal item items
  have hpairwise := List.pairwise_mergeSort htrans htotal (item :: items)
  rw [hsorted, List.pairwise_append, List.pairwise_cons] at hpairwise
  exact ⟨front, back, hsorted, hrest, by simpa using hfront, hpairwise.2.1.1⟩

/-- Sorting keeps the order of items that precede each other, so a test may come before or after it. -/
theorem filter_mergeSort (test : α → Bool) (items : List α) :
    (items.mergeSort le).filter test = (items.filter test).mergeSort le := by
  induction items with
  | nil => simp
  | cons item rest ih =>
    obtain ⟨front, back, hsorted, hrest, hfront, hback⟩ :=
      exists_mergeSort_cons htrans htotal item rest
    rw [hrest, List.filter_append] at ih
    rw [hsorted, List.filter_append]
    cases htest : test item with
    | false =>
      rw [List.filter_cons_of_neg (by simp [htest]), List.filter_cons_of_neg (by simp [htest]), ih]
    | true =>
      -- Both lists have the item in them, and it only fits in one place.
      obtain ⟨front', back', hsorted', hrest', hfront', hback'⟩ :=
        exists_mergeSort_cons htrans htotal item (rest.filter test)
      obtain ⟨hsame, hsame'⟩ := eq_of_append_eq (ih.trans hrest')
        (fun a ha => hfront a (List.mem_filter.1 ha).1)
        (fun a ha => hback a (List.mem_filter.1 ha).1) hfront' hback'
      rw [List.filter_cons_of_pos htest, List.filter_cons_of_pos htest, hsorted', hsame, hsame']

end

/-! ### Repetitions -/

theorem nodup_eraseDups [DecidableEq α] (items : List α) : items.eraseDups.Nodup := by
  match items with
  | [] => simp
  | first :: rest =>
    rw [List.eraseDups_cons, List.nodup_cons, List.mem_eraseDups]
    exact ⟨by simp, nodup_eraseDups _⟩
termination_by items.length
decreasing_by
  simp only [List.length_cons]
  exact Nat.lt_succ_of_le (List.length_filter_le _ _)

theorem eraseDups_of_nodup [DecidableEq α] {items : List α} (h : items.Nodup) :
    items.eraseDups = items := by
  induction items with
  | nil => rfl
  | cons first rest ih =>
    rw [List.nodup_cons] at h
    rw [List.eraseDups_cons, List.filter_eq_self.2, ih h.2]
    intro other hother
    have hne : other ≠ first := fun heq => h.1 (heq ▸ hother)
    simpa using hne

end ThreadLint
