import CommandBridge.Proofs.Percent
import CommandBridge.Url.Path
import Mathlib.Data.Bool.AllAny
import Mathlib.Data.List.TakeWhile

/-! Paths behind a place. A path that ends with a slash is a place, and a text behind the slash is
followed from there, segment by segment. Where it ends with a segment that is no dots, that is the
last part of the text, escaped. -/
namespace CommandBridge

namespace Text

variable {isSign : Char → Bool}

theorem cutStep_ne_nil (c : Char) (parts : List (List Char)) : cutStep isSign c parts ≠ [] := by
  cases parts with
  | nil => exact List.cons_ne_nil _ _
  | cons part parts =>
      rw [cutStep]
      split <;> simp

theorem cutAt_cons (c : Char) (cs : List Char) :
    cutAt isSign (c :: cs) = cutStep isSign c (cutAt isSign cs) := rfl

theorem cutAt_ne_nil (cs : List Char) : cutAt isSign cs ≠ [] := by
  cases cs with
  | nil => exact List.cons_ne_nil _ _
  | cons c cs => exact cutStep_ne_nil c _

theorem cutAt_append_sign {sign : Char} (isOne : isSign sign = true) (cs more : List Char) :
    cutAt isSign (cs ++ sign :: more) = cutAt isSign cs ++ cutAt isSign more := by
  induction cs with
  | nil =>
      rw [List.nil_append, cutAt_cons]
      cases parts : cutAt isSign more with
      | nil => exact absurd parts (cutAt_ne_nil more)
      | cons part rest => simp [cutStep, isOne, cutAt]
  | cons c cs ih =>
      rw [List.cons_append, cutAt_cons, cutAt_cons, ih]
      cases parts : cutAt isSign cs with
      | nil => exact absurd parts (cutAt_ne_nil cs)
      | cons part rest =>
          simp only [cutStep, List.cons_append]
          split <;> rfl

theorem cutAt_of_none {cs : List Char} (none : ∀ c ∈ cs, isSign c = false) :
    cutAt isSign cs = [cs] := by
  induction cs with
  | nil => rfl
  | cons c cs ih =>
      rw [List.forall_mem_cons] at none
      rw [cutAt_cons, ih none.2]
      simp [cutStep, none.1]

theorem part_of_mem_cutAt {cs part : List Char} (within : part ∈ cutAt isSign cs) :
    part.Sublist cs ∧ ∀ c ∈ part, isSign c = false := by
  induction cs generalizing part with
  | nil =>
      rw [List.mem_singleton.mp within]
      exact ⟨.slnil, nofun⟩
  | cons c cs ih =>
      rw [cutAt_cons] at within
      cases parts : cutAt isSign cs with
      | nil => exact absurd parts (cutAt_ne_nil cs)
      | cons first rest =>
          rw [parts] at within ih
          simp only [cutStep] at within
          split at within
          · rcases List.mem_cons.mp within with rfl | behind
            · exact ⟨List.nil_sublist _, nofun⟩
            · exact ⟨(ih behind).1.cons c, (ih behind).2⟩
          · rename_i other
            rcases List.mem_cons.mp within with rfl | behind
            · obtain ⟨among, none⟩ := ih (.head _)
              exact ⟨among.cons_cons c, List.forall_mem_cons.mpr ⟨by simpa using other, none⟩⟩
            · obtain ⟨among, none⟩ := ih (.tail _ behind)
              exact ⟨among.cons c, none⟩

end Text

namespace Url

theorem pathSet_spares : Percent.Spares pathSet := by
  have all : ∀ c ∈ " \"#<>?`\x7b\x7d".toList, c ≠ '%' ∧ Octet.hexValue? c.toNat.toUInt8 = none :=
    List.all_iff_forall_prop.mp (by decide)
  intro c inSet
  obtain ⟨notPercent, notDigit⟩ := all c (List.contains_iff_mem.mp inSet)
  exact ⟨notPercent, fun hex => by simpa [notDigit] using hex.2⟩

/-- One segment on the way to a place. -/
def descend (kind : Kind) (place : List (List Char)) (segment : List Char) : List (List Char) :=
  if isDotDot segment then above place
  else if isDot segment then place
  else written kind place segment :: place

def arrive (kind : Kind) (place : List (List Char)) (segment : List Char) : List (List Char) :=
  if isDotDot segment then [] :: above place
  else if isDot segment then [] :: place
  else written kind place segment :: place

theorem follow_singleton (kind : Kind) (place : List (List Char)) (segment : List Char) :
    follow kind place [segment] = (arrive kind place segment).reverse := by
  simp only [follow, List.isEmpty_nil, if_true, arrive]
  split
  · rfl
  · split <;> rfl

theorem follow_append (kind : Kind) (place front : List (List Char)) {more : List (List Char)}
    (goesOn : more ≠ []) :
    follow kind place (front ++ more) = follow kind (front.foldl (descend kind) place) more := by
  induction front generalizing place with
  | nil => rfl
  | cons segment front ih =>
      have notLast : (front ++ more).isEmpty = false := by simp [goesOn]
      rw [List.cons_append, List.foldl_cons, ← ih]
      simp only [follow, notLast, descend]
      split
      · rfl
      · split <;> rfl

theorem joinSegments_append (front more : List (List Char)) :
    joinSegments (front ++ more) = joinSegments front ++ joinSegments more := List.flatMap_append ..

theorem joinSegments_concat (front : List (List Char)) (segment : List Char) :
    joinSegments (front ++ [segment]) = joinSegments front ++ '/' :: segment := by
  simp [joinSegments]

/-- The last segment of a path is what is behind its last slash. -/
theorem last_segment_eq {front front' : List Char} {segment segment' : List Char}
    (same : front ++ '/' :: segment = front' ++ '/' :: segment') (none : '/' ∉ segment)
    (none' : '/' ∉ segment') : segment = segment' := by
  have behind : ∀ {front segment : List Char}, '/' ∉ segment →
      (front ++ '/' :: segment).reverse.takeWhile (· != '/') = segment.reverse := by
    intro front segment none
    have all : ∀ c ∈ segment.reverse, (c != '/') = true := fun c within => by
      simp only [bne_iff_ne, ne_eq]
      rintro rfl
      exact none (List.mem_reverse.mp within)
    have split : (front ++ '/' :: segment).reverse = segment.reverse ++
      '/' :: front.reverse := by simp
    rw [split, List.takeWhile_append_of_pos all, List.takeWhile_cons_of_neg (by decide),
      List.append_nil]
  have mirrored : segment.reverse = segment'.reverse := by
    rw [← behind none, same, behind none']
  exact List.reverse_inj.mp mirrored

/-- Following a text from a place ends with an empty segment, or with the last part of the text,
escaped. -/
theorem follow_cutAt (place : List (List Char)) (cs : List Char) :
    ∃ front segment, joinSegments (follow .web place (Text.cutAt Kind.web.isSlash cs)) =
      front ++ '/' :: segment ∧
      (segment = [] ∨ ∃ last, last.Sublist cs ∧ (∀ c ∈ last, Kind.web.isSlash c = false) ∧
        isDot last = false ∧ isDotDot last = false ∧ segment = Percent.encode pathSet last) := by
  rcases List.eq_nil_or_concat (Text.cutAt Kind.web.isSlash cs) with none | ⟨init, last, parts⟩
  · exact absurd none (Text.cutAt_ne_nil cs)
  · obtain ⟨among, free⟩ :=
      Text.part_of_mem_cutAt (show last ∈ Text.cutAt Kind.web.isSlash cs by simp [parts])
    rw [parts, List.concat_eq_append, follow_append _ _ _ (List.cons_ne_nil _ _),
      follow_singleton, arrive]
    split
    · rw [List.reverse_cons]
      exact ⟨_, [], joinSegments_concat _ _, .inl rfl⟩
    · rename_i notDotDot
      split
      · rw [List.reverse_cons]
        exact ⟨_, [], joinSegments_concat _ _, .inl rfl⟩
      · rename_i notDot
        rw [List.reverse_cons]
        exact ⟨_, _, joinSegments_concat _ _, .inr ⟨last, among, free, by simpa using notDot,
          by simpa using notDotDot, rfl⟩⟩

/-- Where the path ends with a slash, what is behind it is cut on its own. -/
theorem segments_append (path : List Char) :
    ∃ front, ∀ more, segments .web (path ++ '/' :: more) =
      front ++ Text.cutAt Kind.web.isSlash more := by
  cases path with
  | nil => exact ⟨[], fun more => rfl⟩
  | cons c rest =>
      by_cases slash : Kind.web.isSlash c = true
      · refine ⟨Text.cutAt Kind.web.isSlash rest, fun more => ?_⟩
        simp only [segments, List.cons_append, slash, if_true]
        exact Text.cutAt_append_sign rfl rest more
      · refine ⟨Text.cutAt Kind.web.isSlash (c :: rest), fun more => ?_⟩
        simp only [segments, List.cons_append, slash, Bool.false_eq_true, if_false]
        exact Text.cutAt_append_sign rfl (c :: rest) more

/-- A path that ends with a slash is a place, and what is behind the slash is followed from
there. -/
theorem resolved_append (path : List Char) :
    ∃ place, resolved .web (path ++ ['/']) = joinSegments place.reverse ++ ['/'] ∧
      ∀ more, resolved .web (path ++ '/' :: more) =
        joinSegments (follow .web place (Text.cutAt Kind.web.isSlash more)) := by
  obtain ⟨front, cut⟩ := segments_append path
  refine ⟨front.foldl (descend .web) [], ?_, fun more => ?_⟩
  · rw [resolved, cut [], follow_append _ _ _ (Text.cutAt_ne_nil []), Text.cutAt_of_none
      (List.forall_mem_nil _), follow_singleton]
    simp [arrive, isDotDot, isDot, written, Percent.encode, joinSegments]
  · rw [resolved, cut more, follow_append _ _ _ (Text.cutAt_ne_nil more)]

end Url

end CommandBridge
