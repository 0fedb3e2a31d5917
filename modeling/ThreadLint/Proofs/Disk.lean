import ThreadLint.Disk
import ThreadLint.Proofs.Except
import ThreadLint.Proofs.Keyed
import ThreadLint.Proofs.Text.Utf8

/-!
This module contains what a disk holds when a text has been written to it: the path of the text leads
where it led before, and the text is what is read there.
-/

namespace ThreadLint

namespace Item

theorem below?_file (names : List String) (content : ByteArray) (items : Keyed Item) :
    below? names (.file content) ≠ some (.directory items) := by
  cases names with
  | nil => simp [below?]
  | cons name rest => simp [below?]

theorem putAt_cons_cons (new : Item) (name next : String) (rest : List String)
    (items : Keyed Item) :
    ∃ inner, (∀ held, items.lookup name = some (.directory held) → inner = held) ∧
      putAt new (name :: next :: rest) items =
        items.put name (.directory (putAt new (next :: rest) inner)) := by
  rw [putAt]
  . split
    . next inner hinner =>
      refine ⟨inner, ?_, rfl⟩
      intro held hheld
      rw [hinner] at hheld
      cases hheld
      rfl
    . next hnone =>
      refine ⟨[], ?_, rfl⟩
      intro held hheld
      exact absurd hheld (hnone held)
  . exact List.cons_ne_nil _ _

theorem below?_putAt (new : Item) (names : List String) (items : Keyed Item) (h : names ≠ []) :
    below? names (.directory (putAt new names items)) = some new := by
  induction names generalizing items with
  | nil => exact absurd rfl h
  | cons name rest ih =>
    cases rest with
    | nil => rw [putAt, below?, Keyed.lookup_put, if_pos rfl, Option.bind_some, below?]
    | cons next rest =>
      obtain ⟨inner, _, hput⟩ := putAt_cons_cons new name next rest items
      rw [hput, below?, Keyed.lookup_put, if_pos rfl, Option.bind_some]
      exact ih inner (List.cons_ne_nil _ _)

/--
What is set below a name leaves the other names of a directory as they are.
-/
theorem lookup_putAt_of_ne (new : Item) {name other : String} (rest : List String)
    (items : Keyed Item) (h : other ≠ name) :
    (putAt new (name :: rest) items).lookup other = items.lookup other := by
  cases rest with
  | nil => rw [putAt, Keyed.lookup_put, if_neg h]
  | cons next rest =>
    obtain ⟨inner, _, hput⟩ := putAt_cons_cons new name next rest items
    rw [hput, Keyed.lookup_put, if_neg h]

/--
A directory remains a directory when something takes a place where no directory was.
-/
theorem isDirectory_below?_putAt (new : Item) {names others : List String} {items : Keyed Item}
    (hplace : ∀ inner, below? names (.directory items) ≠ some (.directory inner))
    (hother : ∃ inner, below? others (.directory items) = some (.directory inner)) :
    ∃ inner, below? others (.directory (putAt new names items)) = some (.directory inner) := by
  induction names generalizing items others with
  | nil => exact absurd rfl (hplace items)
  | cons name rest ih =>
    cases others with
    | nil => exact ⟨_, rfl⟩
    | cons other others =>
      by_cases hname : other = name
      . subst hname
        obtain ⟨inner, hinner⟩ := hother
        rw [below?, Option.bind_eq_some_iff] at hinner
        obtain ⟨item, hitem, hinner⟩ := hinner
        cases item with
        | file content => exact absurd hinner (below?_file others content inner)
        | directory held =>
          have hrest (inner : Keyed Item) : below? rest (.directory held) ≠ some (.directory inner) := by
            intro h
            apply hplace inner
            rw [below?, hitem, Option.bind_some, h]
          cases rest with
          | nil => exact absurd rfl (hrest held)
          | cons next rest =>
            obtain ⟨held', hheld', hput⟩ := putAt_cons_cons new other next rest items
            rw [hput, below?, Keyed.lookup_put, if_pos rfl, Option.bind_some, hheld' held hitem]
            exact ih hrest ⟨inner, hinner⟩
      . rw [below?, lookup_putAt_of_ne new rest items hname, ← below?]
        exact hother

end Item

namespace Disk

variable {disk changed : Disk} {path : Path}

theorem foldlM_step_of_isDirectory {names before result : List String}
    (hkept : ∀ others, (∃ inner, disk.find? others = some (.directory inner)) →
      ∃ inner, changed.find? others = some (.directory inner))
    (h : names.foldlM (resolve.step disk path) before = .ok result) :
    names.foldlM (resolve.step changed path) before = .ok result := by
  induction names generalizing before with
  | nil => exact h
  | cons name names ih =>
    rw [List.foldlM_cons, bind_eq_ok] at h ⊢
    obtain ⟨after, hafter, h⟩ := h
    refine ⟨after, ?_, ih h⟩
    unfold resolve.step at hafter ⊢
    split at hafter
    . next inner hinner =>
      obtain ⟨inner', hinner'⟩ := hkept before ⟨inner, hinner⟩
      rw [hinner']
      exact hafter
    . cases hafter
    . cases hafter

/-- Where a text has been stored, its path leads to its bytes. -/
theorem item_storeText {text : String} (h : disk.storeText path text = .ok changed) :
    changed.item path = .ok (.file (Text.encode text)) := by
  unfold storeText at h
  split at h
  . cases h
  . next names hnames =>
    split at h
    . cases h
    . next hplace =>
      cases h
      have hne : names ≠ [] := by
        intro hnil
        exact hplace disk.items (by rw [hnil, find?, Item.below?])
      have hresolve :
          resolve { disk with items := Item.putAt (.file (Text.encode text)) names disk.items }
            path = .ok names := by
        unfold resolve at hnames ⊢
        split at hnames
        . cases hnames
        . split at hnames
          . cases hnames
          . rename_i hnull hlong
            rw [if_neg hnull, if_neg hlong]
            refine foldlM_step_of_isDirectory ?_ hnames
            intro others
            exact Item.isDirectory_below?_putAt _ hplace
      unfold item
      simp only [hresolve, bind, Except.bind, find?, Item.below?_putAt _ _ _ hne]

/-- What has been written is what is read. -/
theorem readText_writeText {text : String} (h : disk.writeText path text = .ok changed) :
    changed.item path = .ok (.file (Text.encode text)) ∧ changed.readText path none = .ok text := by
  unfold writeText at h
  split at h
  . cases h
  . next stored hstored =>
    split at h
    . cases h
      have hitem := item_storeText hstored
      refine ⟨hitem, ?_⟩
      simp only [readText, hitem, readText.textOf, Text.decode_encode]
    . cases h

end Disk

end ThreadLint
