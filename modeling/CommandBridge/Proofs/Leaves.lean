import CommandBridge.Proofs.LeadingInteger

/-! Times that are arrays. The text of an array has the texts of all its items with commas between
them, and no number goes on over a comma, so what is read of it is told by its first item, and so on
down to the first leaf. -/
namespace CommandBridge

/-- The first leaf of a value: what remains of it when of every array that is not empty the first
item is taken. -/
def leaf : Json → Json
  | .array (v :: _) => leaf v
  | v => v

/-- The integer of a value's first leaf: the one at the head of a string or of a number's text, and
null for a leaf of any other kind. -/
def leafInteger : Json → Json
  | .array (v :: _) => leafInteger v
  | .string s => leadingInteger s.toList
  | .number n => leadingInteger (Json.numberText n)
  | .array [] | .object _ | .bool _ | .null => .null

namespace Leads
variable {text blanks sign digits tail : List Char}

theorem of_other {c : Char} {cs : List Char} (noBlank : Text.isBlank c = false)
    (noSign : c ≠ '+' ∧ c ≠ '-') (noDigit : c.isDigit = false) :
    Leads (c :: cs) [] [] [] (c :: cs) where
  whole := rfl
  blank := List.forall_mem_nil _
  noBlank := by
    rintro _ ⟨⟩
    exact noBlank
  isSign := by
    refine .inl ⟨rfl, ?_⟩
    rintro _ ⟨⟩
    exact noSign
  digit := List.forall_mem_nil _
  noDigit := by
    rintro _ ⟨⟩
    exact noDigit

theorem nil : Leads [] [] [] [] [] where
  whole := rfl
  blank := List.forall_mem_nil _
  noBlank := nofun
  isSign := .inl ⟨rfl, nofun⟩
  digit := List.forall_mem_nil _
  noDigit := nofun

/-- What holds of the character that a text begins with, and of a comma, holds when a comma or
nothing comes behind. -/
theorem head_append {p : Char → Prop} {cs behind : List Char} (first : ∀ c ∈ cs.head?, p c)
    (comma : p ',') (begins : ∀ c ∈ behind.head?, c = ',') : ∀ c ∈ (cs ++ behind).head?, p c := by
  cases cs with
  | nil =>
      intro c isFirst
      rwa [begins c isFirst]
  | cons c cs => exact first

theorem append (leads : Leads text blanks sign digits tail) {behind : List Char}
    (begins : ∀ c ∈ behind.head?, c = ',') :
    Leads (text ++ behind) blanks sign digits (tail ++ behind) where
  whole := by simp only [leads.whole, List.append_assoc]
  blank := leads.blank
  noBlank := by
    have same : sign ++ (digits ++ (tail ++ behind)) = (sign ++ (digits ++ tail)) ++ behind := by
      simp only [List.append_assoc]
    rw [same]
    exact head_append leads.noBlank (by decide) begins
  isSign := by
    rcases leads.isSign with ⟨noSign, other⟩ | isSign
    · refine .inl ⟨noSign, ?_⟩
      rw [← List.append_assoc]
      exact head_append other (by decide) begins
    · exact .inr isSign
  digit := leads.digit
  noDigit := head_append leads.noDigit (by decide) begins

end Leads

theorem plainText_array (v : Json) (rest : List Json) :
    plainText (.array (v :: rest)) = plainText v ++ plainTexts rest := rfl

theorem leafInteger_eq (v : Json) : leafInteger v = leadingInteger (plainText (leaf v)) := by
  fun_induction leaf v with
  | case1 v rest ih =>
      rw [leafInteger]
      exact ih
  | case2 v noItems =>
      cases v with
      | array items =>
          cases items with
          | nil => exact Leads.nil.leadingInteger_nil.symm
          | cons v rest => exact absurd rfl (noItems v rest)
      | bool b =>
          cases b <;> exact (Leads.of_other (by decide) (by decide)
            (by decide)).leadingInteger_nil.symm
      | null => exact (Leads.of_other (by decide) (by decide) (by decide)).leadingInteger_nil.symm
      | object members =>
          exact (Leads.of_other (by decide) (by decide) (by decide)).leadingInteger_nil.symm
      | number n => rfl
      | string s => rfl

/-- What stands behind the first leaf in the text of a value begins with a comma. -/
theorem plainText_eq (v : Json) :
    ∃ behind, plainText v = plainText (leaf v) ++ behind ∧ ∀ c ∈ behind.head?, c = ',' := by
  fun_induction leaf v with
  | case1 v rest ih =>
      obtain ⟨behind, whole, comma⟩ := ih
      refine ⟨behind ++ plainTexts rest, ?_, ?_⟩
      · rw [plainText_array, whole, List.append_assoc]
      · refine Leads.head_append comma rfl ?_
        cases rest with
        | nil => exact nofun
        | cons w rest =>
            rintro _ ⟨⟩
            rfl
  | case2 v noItems => exact ⟨[], (List.append_nil _).symm, nofun⟩

/-- What is read at the head of a value's text stands in the text of its first leaf. -/
theorem exists_leads_leaf (v : Json) :
    ∃ blanks sign digits tail behind, plainText v = plainText (leaf v) ++ behind ∧
    Leads (plainText (leaf v)) blanks sign digits tail ∧
    Leads (plainText v) blanks sign digits (tail ++ behind) := by
  obtain ⟨behind, whole, comma⟩ := plainText_eq v
  obtain ⟨blanks, sign, digits, tail, leads⟩ := exists_leads (plainText (leaf v))
  have goesOn := leads.append comma
  rw [← whole] at goesOn
  exact ⟨blanks, sign, digits, tail, behind, whole, leads, goesOn⟩

theorem leadingInteger_plainText (v : Json) : leadingInteger (plainText v) = leafInteger v := by
  obtain ⟨blanks, sign, digits, tail, behind, -, leads, goesOn⟩ := exists_leads_leaf v
  rw [leafInteger_eq, goesOn.leadingInteger_eq, leads.leadingInteger_eq]

/-- The integer at the head of a value's text is the one that its first leaf tells. The blanks, the
sign and the digits that are read all stand in the text of the leaf, and the times of a record are
replaced by such integers. -/
theorem times_by_leaf :
    (∀ v, leadingInteger (plainText v) = leafInteger v ∧
      ∃ blanks sign digits tail behind, plainText v = plainText (leaf v) ++ behind ∧
        Leads (plainText (leaf v)) blanks sign digits tail ∧
        Leads (plainText v) blanks sign digits (tail ++ behind) ∧
        signedDigits (Text.trimStart (plainText v)) = (decide (sign = ['-']), digits)) ∧
    ∀ members, normalizeMembers members =
      members.map fun m => if timeFields.contains m.1 then (m.1, leafInteger m.2) else m := by
  refine ⟨fun v => ⟨leadingInteger_plainText v, ?_⟩, fun members => List.map_congr_left
    fun m _ => ?_⟩
  · obtain ⟨blanks, sign, digits, tail, behind, whole, leads, goesOn⟩ := exists_leads_leaf v
    exact ⟨blanks, sign, digits, tail, behind, whole, leads, goesOn, goesOn.signedDigits_eq⟩
  · rw [leadingInteger_plainText]

end CommandBridge
