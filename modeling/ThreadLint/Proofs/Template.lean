import ThreadLint.Proofs.Except
import ThreadLint.Template.Fill

/-!
This module contains that templates whose fields are plain names can be filled whatever the values
are, as long as each of these names has one.
-/

namespace ThreadLint

namespace Template

/--
Whether the name of a field is that of a value as a whole: it has no steps into the value and is no
number.
-/
def isPlainName (name : String) : Bool :=
  !name.isEmpty && name.toList.all (fun c => !FieldStep.isMark c) &&
    !(name.toList.head?.any fun c => (Text.decimalValue? c).isSome)

/--
Whether a piece of a template is text, or stands for one of some values as it is.
-/
def isPlainPiece (names : List String) : TemplatePiece → Bool
  | .literal _ => true
  | .field field =>
    names.contains field.name && isPlainName field.name && field.conversion.isNone &&
      field.layout.isEmpty

variable {values : List (String × String)}

theorem lookup_isSome {name : String} (h : name ∈ values.map Prod.fst) :
    ∃ value, values.lookup name = some value := by
  induction values with
  | nil => simp at h
  | cons pair rest ih =>
    rw [List.lookup_cons]
    split
    . next heq => exact ⟨_, rfl⟩
    . next hne =>
      apply ih
      simpa [List.map_cons, beq_iff_eq, show ¬ name = pair.1 by simpa using hne] using h

theorem index?_eq_none {cs : List Char}
    (h : (cs.head?.any fun c => (Text.decimalValue? c).isSome) = false) : index? cs = .ok none := by
  have hdigits : (cs.takeWhile fun c => (Text.decimalValue? c).isSome) = [] := by
    cases cs with
    | nil => rfl
    | cons c rest =>
      rw [List.takeWhile_cons_of_neg]
      simpa using h
  unfold index? Layout.number?
  simp [hdigits, bind, Except.bind, pure, Except.pure]

theorem takeWhile_of_plain {name : String} (hplain : isPlainName name = true) :
    (name.toList.takeWhile fun c => !FieldStep.isMark c) = name.toList := by
  simp only [isPlainName, Bool.and_eq_true] at hplain
  have (rest : List Char) : ((name.toList ++ rest).takeWhile fun c => !FieldStep.isMark c)
      = name.toList ++ rest.takeWhile fun c => !FieldStep.isMark c :=
    List.takeWhile_append_of_pos (List.all_eq_true.1 hplain.1.2)
  simpa using this []

theorem valueOf_eq_ok {name : String} (hplain : isPlainName name = true)
    (hmem : name ∈ values.map Prod.fst) :
    ∃ value, valueOf values name = .ok (.ofString value) := by
  obtain ⟨value, hvalue⟩ := lookup_isSome hmem
  refine ⟨value, ?_⟩
  have htake := takeWhile_of_plain hplain
  simp only [isPlainName, Bool.and_eq_true, Bool.not_eq_true'] at hplain
  obtain ⟨⟨hname, _⟩, hnumber⟩ := hplain
  have hempty : name.toList.isEmpty = false := by
    simpa using hname
  unfold valueOf
  simp [htake, index?_eq_none hnumber, hempty, hvalue, mapError_ok, bind, Except.bind, walk]

theorem laidOut_eq_ok (cs : List Char) : ∃ text, laidOut "" (.text cs) = .ok text :=
  ⟨_, rfl⟩

theorem fillPiece_eq_ok {names : List String} {piece : TemplatePiece}
    (fillLayout : String → Except FillProblem String)
    (hpiece : isPlainPiece names piece = true) (hvalues : values.map Prod.fst = names) :
    ∃ text, fillPiece values fillLayout piece = .ok text := by
  cases piece with
  | literal text =>
    refine ⟨text, ?_⟩
    unfold fillPiece
    rfl
  | field field =>
    obtain ⟨name, conversion, layout⟩ := field
    simp only [isPlainPiece, Bool.and_eq_true, List.contains_iff_mem, Option.isNone_iff_eq_none,
      String.isEmpty_iff] at hpiece
    obtain ⟨⟨⟨hmem, hplain⟩, rfl⟩, rfl⟩ := hpiece
    rw [← hvalues] at hmem
    obtain ⟨value, hvalue⟩ := valueOf_eq_ok hplain hmem
    obtain ⟨text, htext⟩ := laidOut_eq_ok value.toList
    refine ⟨text, ?_⟩
    unfold fillPiece
    simp [hvalue, convert, FieldValue.ofString, htext, bind, Except.bind, pure, Except.pure]

theorem fill_eq_ok {names : List String} {template : Template}
    (htemplate : template.all (isPlainPiece names) = true) (hvalues : values.map Prod.fst = names) :
    ∃ text, fill template values = .ok text := by
  have htexts : ∃ texts, template.mapM (fillPiece values (fillLayout values 1)) = .ok texts := by
    induction template with
    | nil => exact ⟨[], rfl⟩
    | cons piece rest ih =>
      rw [List.all_cons, Bool.and_eq_true] at htemplate
      obtain ⟨text, htext⟩ := fillPiece_eq_ok (fillLayout values 1) htemplate.1 hvalues
      obtain ⟨texts, htexts⟩ := ih htemplate.2
      refine ⟨text :: texts, ?_⟩
      rw [List.mapM_cons, htext, htexts]
      rfl
  obtain ⟨texts, htexts⟩ := htexts
  refine ⟨String.join texts, ?_⟩
  unfold fill fillWith
  rw [htexts]
  rfl

/--
Whether a text is a template that stands for nothing but some values as they are.
-/
def isPlain (names : List String) (text : String) : Bool :=
  (ofString text).toOption.any fun template => template.all (isPlainPiece names)

theorem exists_of_isPlain {names : List String} {text : String} (h : isPlain names text = true) :
    ∃ template, ofString text = .ok template ∧ template.all (isPlainPiece names) = true := by
  unfold isPlain at h
  cases htemplate : ofString text with
  | error problem =>
    rw [htemplate] at h
    simp [Except.toOption] at h
  | ok template =>
    rw [htemplate] at h
    exact ⟨template, rfl, h⟩

/-- The characters of a text are faster to read than the text. -/
theorem isPlain_of_chars {names : List String} {text : String} {cs : List Char}
    (hchars : String.ofList cs = text)
    (h : ((ofChars cs).toOption.any fun template => template.all (isPlainPiece names)) = true) :
    isPlain names text = true := by
  unfold isPlain ofString
  rw [← hchars, String.toList_ofList]
  exact h

end Template

end ThreadLint
