import CommandBridge.Proofs.Percent
import CommandBridge.Text.Percent

/-! The grammar of forms, said without reading: names and values in which any octet may be escaped,
with an equals sign between the two and ampersands between fields. A form is read as the fields that
it spells, however it spells them. -/
namespace CommandBridge.Form

/-- A text in a form spells octets: a plus sign stands for a space, an escape for its octet, and
every other sign but those of forms for itself. -/
inductive Spells : Bytes → Bytes → Prop
  | nil : Spells [] []
  | plus {text out} : Spells text out → Spells (Octet.plus :: text) (Octet.space :: out)
  | escape {a b high low text out} : Octet.hexValue? a = some high → Octet.hexValue? b = some low →
      Spells text out → Spells (Octet.percent :: a :: b :: text) ((high * 16 + low).toUInt8 :: out)
  | plain {b text out} : b ∉ [Octet.plus, Octet.percent, Octet.ampersand] → Spells text out →
      Spells (b :: text) (b :: out)

/-- The text of a field: its name without an equals sign, one, and its value. -/
inductive FieldText : String × String → Bytes → Prop
  | assign {name value nameText valueText} : Spells nameText (octets name) →
      Octet.equals ∉ nameText → Spells valueText (octets value) →
      FieldText (name, value) (nameText ++ Octet.equals :: valueText)

inductive Text : List (String × String) → Bytes → Prop
  | last {field text} : FieldText field text → Text [field] text
  | more {field text fields later} : FieldText field text → Text fields later →
      Text (field :: fields) (text ++ Octet.ampersand :: later)

section Parts
variable {text out : Bytes}

theorem ne_of_hexValue? {b : UInt8} {digit : Nat} (isDigit : Octet.hexValue? b = some digit) :
    b ≠ Octet.plus ∧ b ≠ Octet.ampersand := by
  constructor
  · rintro rfl
    cases isDigit
  · rintro rfl
    cases isDigit

theorem Spells.ampersand_not_mem (spells : Spells text out) : Octet.ampersand ∉ text := by
  induction spells with
  | nil => exact List.not_mem_nil
  | plus _ ih => exact List.not_mem_cons_of_ne_of_not_mem (by decide) ih
  | escape high low _ ih =>
      exact List.not_mem_cons_of_ne_of_not_mem (by decide) (List.not_mem_cons_of_ne_of_not_mem
        (ne_of_hexValue? high).2.symm
        (List.not_mem_cons_of_ne_of_not_mem (ne_of_hexValue? low).2.symm ih))
  | plain other _ ih =>
      refine List.not_mem_cons_of_ne_of_not_mem ?_ ih
      rintro rfl
      exact other (by decide)

theorem Spells.decode_eq (spells : Spells text out) :
    Percent.decode (text.map fun b => if b = Octet.plus then Octet.space else b) = out := by
  induction spells with
  | nil => rfl
  | @plus text out _ ih =>
      rw [List.map_cons, if_pos rfl, Percent.decode_cons_of_ne (by decide), ih]
  | @escape a b high low text out isHigh isLow _ ih =>
      have sign : ¬ Octet.percent = Octet.plus := by decide
      rw [List.map_cons, List.map_cons, List.map_cons, if_neg sign,
        if_neg (ne_of_hexValue? isHigh).1, if_neg (ne_of_hexValue? isLow).1, Percent.decode_percent]
      simp only [Percent.escape?, isHigh, isLow, Option.bind_eq_bind, Option.bind_some,
        List.drop_succ_cons, List.drop_zero, ih]
  | @plain b text out other _ ih =>
      obtain ⟨noPlus, noPercent, -⟩ : b ≠ Octet.plus ∧ b ≠ Octet.percent ∧
      b ≠ Octet.ampersand := by simpa using other
      rw [List.map_cons, if_neg noPlus, Percent.decode_cons_of_ne noPercent, ih]

theorem Spells.decodePart_eq {s : String} (spells : Spells text (octets s)) :
    decodePart text = s := by
  rw [decodePart, spells.decode_eq, octets, Utf8.decodeLossy_encode, String.ofList_toList]

theorem FieldText.pair_eq {field : String × String} (isField : FieldText field text) :
    pair text = field ∧ Octet.ampersand ∉ text ∧ text ≠ [] := by
  cases isField with
  | @assign name value nameText valueText spellsName noEquals spellsValue =>
      have kept : ∀ b ∈ nameText, (b != Octet.equals) = true := by
        intro b within
        simp only [bne_iff_ne, ne_eq]
        rintro rfl
        exact noEquals within
      have taken : (nameText ++ Octet.equals :: valueText).takeWhile (· != Octet.equals) =
          nameText := by
        rw [List.takeWhile_append_of_pos kept, List.takeWhile_cons_of_neg (by decide),
          List.append_nil]
      have left : (nameText ++ Octet.equals :: valueText).dropWhile (· != Octet.equals) =
          Octet.equals :: valueText := by
        rw [List.dropWhile_append_of_pos kept, List.dropWhile_cons_of_neg (by decide)]
      refine ⟨?_, ?_, by simp⟩
      · rw [pair, taken, left, List.drop_succ_cons, List.drop_zero, spellsName.decodePart_eq,
          spellsValue.decodePart_eq]
      · rw [List.mem_append, not_or]
        exact ⟨spellsName.ampersand_not_mem,
          List.not_mem_cons_of_ne_of_not_mem (by decide) spellsValue.ampersand_not_mem⟩

end Parts

theorem cut_append {separator : UInt8} {text : Bytes} (none : separator ∉ text)
    (piece rest : Bytes) :
    cut separator piece (text ++ rest) = cut separator (text.reverse ++ piece) rest := by
  induction text generalizing piece with
  | nil => rfl
  | cons b text ih =>
      rw [List.mem_cons, not_or] at none
      rw [List.cons_append, cut, if_neg (Ne.symm none.1), ih none.2, List.reverse_cons,
        List.append_assoc]
      rfl

/-- A form is read as the fields that it spells. -/
theorem Text.pairs_eq {fields : List (String × String)} {body : Bytes} (text : Text fields body) :
    pairs body = fields := by
  induction text with
  | @last field text isField =>
      obtain ⟨isPair, none, some⟩ := isField.pair_eq
      have pieces : cut Octet.ampersand [] text = [text] := by
        rw [← List.append_nil text, cut_append none, cut, List.append_nil, List.append_nil,
          List.reverse_reverse]
      rw [pairs, pieces]
      simp [some, isPair]
  | @more field text fields later isField _ ih =>
      obtain ⟨isPair, none, some⟩ := isField.pair_eq
      have pieces : cut Octet.ampersand [] (text ++ Octet.ampersand :: later) =
          text :: cut Octet.ampersand [] later := by
        rw [cut_append none, cut, if_pos rfl, List.append_nil, List.reverse_reverse]
      rw [pairs] at ih
      rw [pairs, pieces]
      simp [some, isPair, ih]

end CommandBridge.Form
