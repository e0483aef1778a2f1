import CommandBridge.Proofs.Json.Schemas
import Mathlib.Data.List.Forall2

/-! A text spells one thing at most. What spells a value is of the form of one, so the members of an
object can be collected without looking at what they tell; and two ways to cut the text of an object
or an array into pieces are one. -/
namespace CommandBridge.Json

section Passing
variable {α : Type} {depth : Nat} {text : Bytes} {v : Json}

theorem Undone.passes {body out : Bytes} (undone : Undone body out) : PassesInner body := by
  induction undone with
  | nil => exact .nil
  | plain isPlain _ ih => exact .plain isPlain ih
  | escape escape _ ih =>
      cases escape with
      | sign found => exact .sign (Option.isSome_of_eq_some found) ih
      | unit spells _ _ => exact .unit spells ih
      | pair spells _ spells' _ =>
          have passes := PassesInner.unit spells (.unit spells' ih)
          simpa only [List.cons_append, List.append_assoc] using passes

theorem SpellsScalar.passes (spells : SpellsScalar text v) : PassesScalar text := by
  cases spells with
  | null => exact .null
  | true => exact .true
  | false => exact .false
  | string spells =>
      obtain ⟨body, rfl, undone⟩ := spells
      exact .string ⟨body, rfl, undone.passes⟩
  | number spells =>
      obtain ⟨negative, unsigned, numeral, rfl, spells, -, -⟩ := spells
      exact .number spells

/-- A piece of an array or an object is a value behind what stands in front of one there. -/
def PassesPiece (opened : Open) (text : Bytes) : Prop :=
  ∃ key between value, text = key ++ (between ++ value) ∧ PassesKey opened key ∧ Blanks between ∧
    Passes none value

variable {opened : Open} {piece : α → Bytes → Prop} {as : List α}

theorem Following.passes {later : Bytes}
    (each : ∀ a ∈ as, ∀ text, piece a text → PassesPiece opened text)
    (following : Following opened.closer piece as later) : Passes (some opened) later := by
  induction following with
  | close blank => exact .close blank
  | more blank blank' one _ ih =>
      obtain ⟨first, rest⟩ := List.forall_mem_cons.mp each
      obtain ⟨key, between, value, rfl, passesKey, blank'', passes⟩ := first _ one
      have whole := Passes.more blank blank' passesKey blank'' passes (ih rest)
      simpa only [List.append_assoc] using whole

theorem Enclosed.passes (opened : Open) {inside : Bytes}
    (each : ∀ a ∈ as, ∀ text, piece a text → PassesPiece opened text)
    (enclosed : Enclosed opened.closer piece as inside) :
    Passes none (opened.opener :: inside) := by
  cases enclosed with
  | empty blank => exact .empty blank
  | full blank one following =>
      obtain ⟨first, rest⟩ := List.forall_mem_cons.mp each
      obtain ⟨key, between, value, rfl, passesKey, blank', passes⟩ := first _ one
      have whole := Passes.full blank passesKey blank' passes (following.passes rest)
      simpa only [List.append_assoc] using whole

theorem Passes.item (passes : Passes none text) : PassesPiece .array text :=
  ⟨[], [], text, rfl, .array, List.forall_mem_nil _, passes⟩

theorem MemberText.passes {m : String × Bytes} (member : MemberText m text)
    (passes : Passes none m.2) :
    PassesPiece .object text := by
  obtain ⟨_, _, ⟨body, rfl, undone⟩, assigned, rfl⟩ := member
  cases assigned with
  | @colon before between blank blank' =>
      have key :
          PassesKey .object (Octet.quote :: (body ++ [Octet.quote]) ++ (before ++ [Octet.colon])) :=
        .object ⟨body, rfl, undone.passes⟩ blank
      exact ⟨_, between, m.2, by simp, key, blank', passes⟩

theorem Spells.passes (spells : Spells depth text v) : Passes none text := by
  induction depth generalizing text v with
  | zero => exact .scalar (SpellsScalar.passes spells)
  | succ depth ih =>
      rcases spells with
        spells | ⟨items, inside, rfl, rfl, enclosed⟩ |
          ⟨texts, members, inside, rfl, rfl, enclosed, each⟩
      · exact .scalar spells.passes
      · exact Enclosed.passes .array (fun _ _ _ one => (ih one).item) enclosed
      · have passes :=
          (List.forall₂_and_left texts members).mp (each.imp fun _ _ one => ⟨ih one.2, one⟩)
        exact Enclosed.passes .object (fun m within _ one => one.passes (passes.1 m within))
          enclosed

/-- Whatever the fields hold, every member of the object is of the form of a value. -/
theorem Slots.Among.passes {fields : List Field} {members : List (String × Bytes)}
    {slots : Slots fields} (among : Slots.Among depth fields members slots) :
    ∀ m ∈ members, Passes none m.2 := by
  induction fields generalizing members with
  | nil => exact among
  | cons f fields ih =>
      obtain ⟨held, slots⟩ := slots
      obtain ⟨ours, others⟩ := among
      intro m within
      by_cases named : m.1 = f.name
      · have found : m ∈ members.filter (·.1 = f.name) :=
          List.mem_filter.mpr ⟨within, by simpa using named⟩
        rcases Field.among_iff.mp ours with ⟨empty, -⟩ | ⟨m', one, _, spells, -⟩
        · rw [empty] at found
          cases found
        · rw [one, List.mem_singleton] at found
          subst found
          exact spells.passes
      · exact ih others m (List.mem_filter.mpr ⟨within, by simpa using named⟩)

end Passing

section Cutting
variable {depth bound : Nat} {inside inside' rest rest' : Bytes}

/-- Passes over the value of a member and keeps its text behind the members that were found. -/
def collect (bound : Nat) (found : List (String × Bytes)) (key : String) (bytes : Bytes) :
    Except ReadError (List (String × Bytes) × Bytes) := do
  let behind ← readColon bytes
  let rest ← skipValue bound behind
  let value := skipBlanks behind
  .ok (found ++ [(key, value.take (value.length - rest.length))], rest)

def Collects (found : List (String × Bytes)) (m : String × Bytes) (found' : List (String × Bytes)) :
    Prop :=
  Passes none m.2 ∧ found' = found ++ [m]

theorem isTaken_collect {m : String × Bytes} (enough : m.2.length ≤ bound) :
    IsTaken (collect bound) Collects m := by
  rintro found _ value ⟨passes, rfl⟩ assigned rest ends
  cases assigned with
  | @colon before between blank blank' =>
      have skips := passes.skipValue_eq blank' enough ends
      obtain ⟨b, tail, front, nonBlank, -⟩ := passes.begins.append rest
      have stays : skipBlanks (between ++ (m.2 ++ rest)) = m.2 ++ rest := by
        rw [front, blank'.skip_cons nonBlank]
      rw [List.append_assoc, List.cons_append, List.append_assoc, collect, blank.readColon_eq]
      simp only [bind, Except.bind, skips, stays, List.length_append, Nat.add_sub_cancel,
        List.take_left]

theorem runs_collects (found : List (String × Bytes)) {members : List (String × Bytes)}
    (passes : ∀ m ∈ members, Passes none m.2) :
    Runs Collects found members (found ++ members) := by
  induction members generalizing found with
  | nil => exact (List.append_nil found).symm ▸ .nil
  | cons m members ih =>
      obtain ⟨first, rest⟩ := List.forall_mem_cons.mp passes
      rw [← List.singleton_append, ← List.append_assoc]
      exact .cons ⟨first, rfl⟩ (ih _ rest)

/-- The text of an object is cut into its members in one way. -/
theorem Enclosed.members_unique {members members' : List (String × Bytes)}
    (enclosed : Enclosed Octet.closeBrace MemberText members inside)
    (enclosed' : Enclosed Octet.closeBrace MemberText members' inside')
    (passes : ∀ m ∈ members, Passes none m.2) (passes' : ∀ m ∈ members', Passes none m.2)
    (same : inside ++ rest = inside' ++ rest') : members = members' ∧ rest = rest' := by
  -- The values may be spelled at any depth, so they are not read but collected: one run gives both
  -- lists.
  have short : inside.length ≤ max inside.length inside'.length := Nat.le_max_left _ _
  have short' : inside'.length ≤ max inside.length inside'.length := Nat.le_max_right _ _
  have read := enclosed.readObject_eq (fun _ fits => isTaken_collect (fits.trans short))
    (runs_collects [] passes)
    short rest
  have read' := enclosed'.readObject_eq (fun _ fits => isTaken_collect (fits.trans short'))
    (runs_collects [] passes')
    short' rest'
  rw [same, read'] at read
  cases read
  exact ⟨rfl, rfl⟩

theorem Enclosed.items_unique {items items' : List Json}
    (enclosed : Enclosed Octet.closeBracket (fun v text => Spells depth text v) items inside)
    (enclosed' : Enclosed Octet.closeBracket (fun v text => Spells depth text v) items' inside')
    (same : inside ++ rest = inside' ++ rest') : items = items' ∧ rest = rest' := by
  have short : inside.length ≤ max inside.length inside'.length := Nat.le_max_left _ _
  have short' : inside'.length ≤ max inside.length inside'.length := Nat.le_max_right _ _
  have reads := enclosed.imp (fun _ _ spells fits => Spells.readValue_eq spells (fits.trans short))
    (Nat.le_refl _)
  have reads' :=
    enclosed'.imp (fun _ _ spells fits => Spells.readValue_eq spells (fits.trans short'))
      (Nat.le_refl _)
  have read := reads.readArray_eq short rest
  rw [same, reads'.readArray_eq short' rest'] at read
  cases read
  exact ⟨rfl, rfl⟩

theorem Spells.unique {text : Bytes} {v v' : Json} (spells : Spells depth text v)
    (spells' : Spells depth text v') :
    v = v' := by
  have read := (spells.readValue_eq (Nat.le_refl _)).2 [] endsNumber_nil
  rw [(spells'.readValue_eq (Nat.le_refl _)).2 [] endsNumber_nil] at read
  cases read
  rfl

/-- The texts that are read as a value are those that spell it, with blanks around it. -/
theorem read_eq_ok_iff {text : Bytes} {v : Json} : Json.read text = .ok v ↔ ∃ before body after,
    Blanks before ∧ Blanks after ∧ text = before ++ (body ++ after) ∧ Spells depthLimit body v := by
  constructor
  · intro read
    obtain ⟨after, blankAfter, found⟩ := whole_eq_ok_iff.mp read
    obtain ⟨before, body, blank, parts, spells⟩ := readValue_finds _ _ _ _ _ found
    exact ⟨before, body, after, blank, blankAfter, parts, spells⟩
  · rintro ⟨before, body, after, blank, blankAfter, rfl, spells⟩
    have fits : body.length ≤ (before ++ (body ++ after)).length := by
      simp only [List.length_append]
      omega
    refine whole_eq_ok_iff.mpr ⟨after, blankAfter, ?_⟩
    rw [blank.readValue_eq]
    exact (spells.readValue_eq fits).2 after blankAfter.endsNumber_self

end Cutting

end CommandBridge.Json
