import ThreadLint.Path
import ThreadLint.Proofs.Text.Pieces

/-!
This module contains when a path is in its plain form. Every path that is read from a text is, and it
is read again from its own text.
-/

namespace ThreadLint

namespace Path

/--
Whether a text is fit for a name on a path: it leads somewhere and has no slash in it.
-/
structure IsName (name : String) : Prop where
  ne_empty : name ≠ ""
  ne_point : name ≠ "."
  avoids : Text.avoids ['/'] name = true

/--
Whether a path is in its plain form: its root is one that a text gives, and so are its names.
-/
structure IsPlain (path : Path) : Prop where
  root : path.root = "" ∨ path.root = "/" ∨ path.root = "//"
  names : ∀ name ∈ path.names, IsName name

theorem isPlain_ofString (text : String) : (ofString text).IsPlain := by
  constructor
  . show rootOf text = _ ∨ rootOf text = _ ∨ rootOf text = _
    unfold rootOf
    split
    . exact .inl rfl
    . exact .inr (.inr rfl)
    . exact .inr (.inl rfl)
  . intro name hname
    obtain ⟨hpiece, hname⟩ := List.mem_filter.1 hname
    rw [Bool.and_eq_true, Bool.not_eq_true', bne_iff_ne] at hname
    exact ⟨by simpa using hname.1, hname.2, Text.avoids_of_mem_pieces hpiece⟩

theorem IsPlain.join {path : Path} (h : path.IsPlain) {names : List String}
    (hnames : ∀ name ∈ names, IsName name) : (path.join ⟨"", names⟩).IsPlain where
  root := h.root
  names := List.forall_mem_append.2 ⟨h.names, hnames⟩

theorem takeWhile_intercalate {names : List String} (h : ∀ name ∈ names, IsName name) :
    ("/".intercalate names).toList.takeWhile (· == '/') = [] := by
  cases names with
  | nil => rfl
  | cons name rest =>
    have hname := h name List.mem_cons_self
    obtain ⟨back, hback⟩ : ∃ back, ("/".intercalate (name :: rest)).toList = name.toList ++ back := by
      cases rest with
      | nil => exact ⟨[], by simp⟩
      | cons next rest =>
        exact ⟨_, by rw [String.intercalate_cons_cons, String.append_assoc, String.toList_append]⟩
    have hne : name.toList ≠ [] := by simpa using hname.ne_empty
    obtain ⟨c, cs, hcs⟩ := List.exists_cons_of_ne_nil hne
    have hc : (c == '/') = false := by
      have := Text.avoids_iff.1 hname.avoids '/' List.mem_cons_self
      rw [hcs, List.mem_cons, not_or] at this
      simpa using Ne.symm this.1
    rw [hback, hcs, List.cons_append, List.takeWhile_cons_of_neg (by simp [hc])]

theorem names_ofString_intercalate {names : List String} (h : ∀ name ∈ names, IsName name) :
    (ofString ("/".intercalate names)).names = names := by
  cases names with
  | nil => rfl
  | cons name rest =>
    have hpieces : Text.pieces '/' ("/".intercalate (name :: rest)) = name :: rest :=
      Text.pieces_intercalate (List.cons_ne_nil name rest)
        (List.all_eq_true.2 fun name hname => (h name hname).avoids)
    rw [ofString, hpieces, List.filter_eq_self]
    intro name hname
    simp [(h name hname).ne_empty, (h name hname).ne_point]

/-- A slash in front of a text adds nothing to its names. -/
theorem names_ofString_slash (text : String) :
    (ofString ("/" ++ text)).names = (ofString text).names := by
  have hpieces : Text.pieces '/' ("/" ++ text) = "" :: Text.pieces '/' text := by
    rw [Text.pieces, String.toList_append]
    rfl
  rw [ofString, ofString, hpieces, List.filter_cons_of_neg (by simp)]

theorem rootOf_append_intercalate {root : String} (hroot : root.toList.all (· == '/') = true)
    {names : List String} (h : ∀ name ∈ names, IsName name) :
    rootOf (root ++ "/".intercalate names) = rootOf root := by
  rw [List.all_eq_true] at hroot
  have hstart : root.toList.takeWhile (· == '/') = root.toList := by
    rw [← List.append_nil root.toList, List.takeWhile_append_of_pos hroot, List.takeWhile_nil]
  unfold rootOf
  rw [String.toList_append, List.takeWhile_append_of_pos hroot, takeWhile_intercalate h,
    List.append_nil, hstart]

theorem ofString_append_intercalate {root : String} (hroot : root = "" ∨ root = "/" ∨ root = "//")
    {names : List String} (h : ∀ name ∈ names, IsName name) :
    ofString (root ++ "/".intercalate names) = ⟨root, names⟩ := by
  have hnames := names_ofString_intercalate h
  rw [ofString, mk.injEq]
  rcases hroot with rfl | rfl | rfl
  . rw [rootOf_append_intercalate rfl h, String.empty_append]
    exact ⟨rfl, hnames⟩
  . rw [rootOf_append_intercalate rfl h]
    exact ⟨rfl, (names_ofString_slash _).trans hnames⟩
  . rw [rootOf_append_intercalate rfl h, show "//" = "/" ++ "/" from rfl, String.append_assoc]
    exact ⟨rfl, (names_ofString_slash _).trans ((names_ofString_slash _).trans hnames)⟩

/-- A plain path is read from its text. -/
theorem ofString_text {path : Path} (h : path.IsPlain) : ofString path.text = path := by
  unfold text
  split
  . next hempty =>
    rw [Bool.and_eq_true, String.isEmpty_iff, List.isEmpty_iff] at hempty
    obtain ⟨root, names⟩ := path
    obtain ⟨rfl, rfl⟩ := hempty
    rfl
  . exact ofString_append_intercalate h.root h.names

end Path

end ThreadLint
