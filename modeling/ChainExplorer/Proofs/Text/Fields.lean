import ChainExplorer.Text.Blank

/-!
# A line and its fields

`fields` forgets how much white space a line has and where, and nothing else: `Laid` is the relation
between a line and the fields that stand in it, and a line has no other fields than those
(`fields_eq_iff`). A line that is written with one space between its fields gives them back
(`words_intercalate`), as long as each of them is a field at all.
-/

namespace ChainExplorer.Text

/-- A text that can stand in a line as a field of its own. -/
def Solid (field : List Char) : Prop := field ≠ [] ∧ ∀ c ∈ field, isBlank c = false

instance (field : List Char) : Decidable (Solid field) :=
  @instDecidableAnd _ _ inferInstance (List.decidableBAll _ field)

/-- A line in which these fields stand: there may be white space before each and after the last, and
between two of them there is. -/
inductive Laid : List Char → List (List Char) → Prop
  | blank {gap : List Char} (hgap : ∀ c ∈ gap, isBlank c = true) : Laid gap []
  | field {gap field rest : List Char} {fs : List (List Char)}
      (hgap : ∀ c ∈ gap, isBlank c = true) (hfield : Solid field)
      (hcut : beginsField rest = false) (hrest : Laid rest fs) :
      Laid (gap ++ (field ++ rest)) (field :: fs)

theorem beginsField_cons {c : Char} {cs : List Char} :
    beginsField (c :: cs) = true ↔ isBlank c = false := by
  rw [beginsField, Bool.not_eq_true']

theorem fields_blank_append {gap : List Char} (hgap : ∀ c ∈ gap, isBlank c = true)
    (cs : List Char) : fields (gap ++ cs) = fields cs := by
  induction gap with
  | nil => rfl
  | cons c gap ih =>
    rw [List.forall_mem_cons] at hgap
    rw [List.cons_append, fields, if_pos hgap.1, ih hgap.2]

theorem fields_solid_append {field rest : List Char} (hfield : Solid field)
    (hcut : beginsField rest = false) : fields (field ++ rest) = field :: fields rest := by
  obtain ⟨hne, hsolid⟩ := hfield
  induction field with
  | nil => exact absurd rfl hne
  | cons c field ih =>
    rw [List.forall_mem_cons] at hsolid
    have hc : ¬ isBlank c = true := by simp [hsolid.1]
    rw [List.cons_append, fields, if_neg hc]
    cases field with
    | nil =>
      rw [List.nil_append, if_neg (by simp [hcut])]
    | cons d field =>
      have hbegins : beginsField (d :: field ++ rest) = true :=
        beginsField_cons.2 (hsolid.2 d List.mem_cons_self)
      rw [if_pos hbegins, ih (List.cons_ne_nil d field) hsolid.2]

theorem Laid.fields_eq {cs : List Char} {fs : List (List Char)} (h : Laid cs fs) :
    fields cs = fs := by
  induction h with
  | @blank gap hgap =>
    have hfields := fields_blank_append hgap []
    rwa [List.append_nil] at hfields
  | field hgap hfield hcut _ ih =>
    rw [fields_blank_append hgap, fields_solid_append hfield hcut, ih]

theorem Laid.blank_cons {c : Char} {cs : List Char} {fs : List (List Char)} (h : Laid cs fs)
    (hc : isBlank c = true) : Laid (c :: cs) fs := by
  cases h with
  | blank hgap => exact .blank (List.forall_mem_cons.2 ⟨hc, hgap⟩)
  | field hgap hfield hcut hrest =>
    exact .field (List.forall_mem_cons.2 ⟨hc, hgap⟩) hfield hcut hrest

/-- A character in front of a field belongs to it. -/
theorem Laid.solid_cons {c : Char} {cs f : List Char} {fs : List (List Char)}
    (h : Laid cs (f :: fs)) (hbegins : beginsField cs = true) (hc : isBlank c = false) :
    Laid (c :: cs) ((c :: f) :: fs) := by
  cases h with
  | @field gap field rest fs hgap hfield hcut hrest =>
    cases gap with
    | nil =>
      exact .field (List.forall_mem_nil _)
        ⟨List.cons_ne_nil c f, List.forall_mem_cons.2 ⟨hc, hfield.2⟩⟩ hcut hrest
    | cons d gap =>
      -- a line that begins inside a field has no white space in front
      have hd : isBlank d = true := hgap d List.mem_cons_self
      exact absurd ((beginsField_cons.1 hbegins).symm.trans hd) Bool.false_ne_true

theorem Laid.beginsField_eq_false {cs : List Char} (h : Laid cs []) : beginsField cs = false := by
  cases h with
  | blank hgap =>
    cases cs with
    | nil => rfl
    | cons c cs => rw [beginsField, hgap c List.mem_cons_self, Bool.not_true]

theorem laid_fields (cs : List Char) : Laid cs (fields cs) := by
  induction cs with
  | nil => exact .blank (List.forall_mem_nil _)
  | cons c cs ih =>
    rw [fields]
    split
    · rename_i hc
      exact ih.blank_cons hc
    · rename_i hc
      have hc : isBlank c = false := by simpa using hc
      split
      · rename_i hbegins
        split
        · rename_i hnone
          rw [hnone] at ih
          exact absurd (ih.beginsField_eq_false.symm.trans hbegins) Bool.false_ne_true
        · rename_i f fs hfields
          rw [hfields] at ih
          exact ih.solid_cons hbegins hc
      · rename_i hcut
        have hsolid : Solid [c] := ⟨List.cons_ne_nil c [], List.forall_mem_singleton.2 hc⟩
        have hlaid : Laid ([] ++ ([c] ++ cs)) ([c] :: fields cs) :=
          .field (List.forall_mem_nil _) hsolid (by simpa using hcut) ih
        exact hlaid

/-- **A line has the fields that stand in it, and no others.** -/
theorem fields_eq_iff {cs : List Char} {fs : List (List Char)} : fields cs = fs ↔ Laid cs fs :=
  ⟨fun h => h ▸ laid_fields cs, Laid.fields_eq⟩

theorem laid_words (s : String) : Laid s.toList ((words s).map String.toList) := by
  have hwords : (words s).map String.toList = fields s.toList := by
    rw [words, List.map_map]
    exact List.map_id'' (fun f => String.toList_ofList) _
  rw [hwords]
  exact fields_eq_iff.1 rfl

/-! ## Writing a line -/

theorem fields_intercalate {fs : List (List Char)} (h : ∀ f ∈ fs, Solid f) :
    fields ([' '].intercalate fs) = fs := by
  induction fs with
  | nil => rfl
  | cons f fs ih =>
    rw [List.forall_mem_cons] at h
    cases fs with
    | nil =>
      have hone : fields (f ++ []) = [f] := fields_solid_append h.1 rfl
      rw [List.append_nil] at hone
      rwa [List.intercalate_singleton]
    | cons g fs =>
      have hspace : ∀ c ∈ [' '], isBlank c = true := List.forall_mem_singleton.2 rfl
      rw [List.intercalate_cons_cons, List.append_assoc, fields_solid_append h.1 rfl,
        fields_blank_append hspace, ih h.2]

/-- **Fields that are written with a space between them are read again.** -/
theorem words_intercalate {fs : List String} (h : ∀ f ∈ fs, Solid f.toList) :
    words (" ".intercalate fs) = fs := by
  have hspace : " ".toList = [' '] := rfl
  rw [words, String.toList_intercalate, hspace, fields_intercalate (List.forall_mem_map.2 h),
    List.map_map]
  exact List.map_id'' (fun f => String.ofList_toList) fs

end ChainExplorer.Text
