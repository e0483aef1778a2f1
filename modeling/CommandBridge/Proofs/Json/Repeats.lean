import CommandBridge.Proofs.Json.Unambiguous

/-! A record that is read straight from a text against the one that is read from the text's value.
They are one and the same, save that a name of the record may stand twice in an object: then the
text is refused, and the value keeps the later member. -/
namespace CommandBridge.Json

/-- The members that the texts of members spell, in the order in which they stand. -/
def SpellsMembers (depth : Nat) (texts : List (String × Bytes)) (members : List (String × Json)) :
    Prop :=
  List.Forall₂ (fun text member => text.1 = member.1 ∧ Spells depth text.2 member.2) texts members

/-- A text spells an object, with blanks around it: the texts of its members, and the members. -/
inductive SpellsObject : Bytes → List (String × Bytes) → List (String × Json) → Prop
  | braces {before inside after texts members} : Blanks before → Blanks after →
      Enclosed Octet.closeBrace MemberText texts inside →
        SpellsMembers (depthLimit - 1) texts members →
      SpellsObject (before ++ (Octet.openBrace :: inside ++ after)) texts members

/-- A text spells an object in which one of these names stands twice, or more often. -/
def Repeats (names : List String) (text : Bytes) : Prop :=
  ∃ texts members, SpellsObject text texts members ∧
    ∃ name ∈ names, 2 ≤ (texts.filter (·.1 = name)).length

def Schema.names (s : Schema) : List String := s.fields.map Field.name

/-- Of the members with one key an object holds the last. -/
theorem find?_foldl_insert_last (name : String) (kept members : List (String × Json)) :
    find? name (members.foldl (fun sorted m => insert m.1 m.2 sorted) kept) =
      ((members.filter (·.1 = name)).getLast?.map Prod.snd).or (find? name kept) := by
  induction members generalizing kept with
  | nil => rfl
  | cons m members ih =>
      rw [List.foldl_cons, ih, find?_insert]
      by_cases named : m.1 = name
      · rw [if_pos named, List.filter_cons_of_pos (by simpa using named), List.getLast?_cons]
        cases (members.filter (·.1 = name)).getLast? <;> rfl
      · rw [if_neg named, List.filter_cons_of_neg (by simpa using named)]

theorem find?_foldl_insert_isSome {members : List (String × Json)} (kept : List (String × Json))
    {m : String × Json} (within : m ∈ members) :
    (find? m.1 (members.foldl (fun sorted m => insert m.1 m.2 sorted) kept)).isSome = true := by
  have found : m ∈ members.filter (·.1 = m.1) := List.mem_filter.mpr ⟨within, decide_eq_true rfl⟩
  rw [find?_foldl_insert_last, Option.isSome_or, Option.isSome_map, List.getLast?_isSome.mpr
    (List.ne_nil_of_mem found), Bool.true_or]

section Members
variable {depth : Nat} {texts : List (String × Bytes)} {members : List (String × Json)}

theorem SpellsMembers.filter (spelled : SpellsMembers depth texts members) (p : String → Bool) :
    SpellsMembers depth (texts.filter fun m => p m.1) (members.filter fun m => p m.1) :=
  List.rel_filter (fun _ _ one => iff_of_eq (congrArg (fun key => p key = true) one.1)) spelled

theorem SpellsMembers.passes (spelled : SpellsMembers depth texts members) :
    ∀ m ∈ texts, Passes none m.2 :=
  ((List.forall₂_and_left texts members).mp (spelled.imp fun _ _ one => ⟨one.2.passes, one⟩)).1

theorem Kind.spells_iff_of_spelled {kind : Kind} {held : kind.Holds} {text : Bytes} {v : Json}
    (spells : Json.Spells depth text v) :
    kind.Spells depth held text ↔ kind.ofJson? v = some held := by
  constructor
  · rintro ⟨v', spells', holds⟩
    rwa [spells.unique spells']
  · exact fun holds => ⟨v, spells, holds⟩

/-- What a field holds by the members of its name is what it holds by the value, unless there are
two of them. -/
theorem Field.among_iff_find? {f : Field} (held : f.kind.Holds)
    (spelled : SpellsMembers depth texts members) :
    f.Among depth (texts.filter (·.1 = f.name)) held ↔
      (texts.filter (·.1 = f.name)).length < 2 ∧
        (match find? f.name (members.foldl (fun sorted m => insert m.1 m.2 sorted) []) with
          | some v => f.kind.ofJson? v
          | none => f.whenMissing) = some held := by
  have found := spelled.filter (· = f.name)
  rw [find?_foldl_insert_last, Field.among_iff]
  generalize texts.filter (·.1 = f.name) = ours at found ⊢
  generalize members.filter (·.1 = f.name) = told at found ⊢
  cases found with
  | nil => simp [find?]
  | cons one rest =>
      cases rest with
      | nil => simp [Kind.spells_iff_of_spelled one.2]
      | cons _ _ =>
          refine iff_of_false (by simp) ?_
          rintro ⟨short, -⟩
          rw [List.length_cons, List.length_cons] at short
          omega

/-- What the fields hold by the members of an object is what they hold by its value, unless a name
stands twice. -/
theorem Slots.among_iff_ofMembers? {fields : List Field} (slots : Slots fields)
    (distinct : (fields.map Field.name).Nodup) (spelled : SpellsMembers depth texts members) :
    Slots.Among depth fields texts slots ↔
      (∀ f ∈ fields, (texts.filter (·.1 = f.name)).length < 2) ∧
        Slots.ofMembers? fields (members.foldl (fun sorted m => insert m.1 m.2 sorted) []) =
          some slots := by
  induction fields generalizing texts members with
  | nil => exact iff_of_true spelled.passes ⟨List.forall_mem_nil _, rfl⟩
  | cons f fields ih =>
      obtain ⟨held, slots⟩ := slots
      obtain ⟨fresh, distinct⟩ := List.nodup_cons.mp distinct
      have apart : ∀ g ∈ fields, g.name ≠ f.name :=
        fun g within same => fresh (same ▸ List.mem_map_of_mem within)
      have others := ih slots distinct (spelled.filter (· ≠ f.name))
      have once : (∀ g ∈ fields, ((texts.filter (·.1 ≠ f.name)).filter (·.1 = g.name)).length < 2) ↔
          ∀ g ∈ fields, (texts.filter (·.1 = g.name)).length < 2 :=
        forall₂_congr fun g within => by rw [filter_filter_other (apart g within)]
      have same : Slots.ofMembers? fields ((members.filter (·.1 ≠ f.name)).foldl
          (fun sorted m => insert m.1 m.2 sorted) []) =
          Slots.ofMembers? fields (members.foldl (fun sorted m => insert m.1 m.2 sorted) []) :=
        Slots.ofMembers?_congr fun g within => by
          rw [find?_foldl_insert_last, find?_foldl_insert_last,
            filter_filter_other (apart g within)]
      rw [once, same] at others
      have whole := (and_congr (Field.among_iff_find? held spelled) others).trans and_and_and_comm
      refine whole.trans (and_congr ?_ Slots.ofMembers?_cons_iff.symm)
      exact (List.forall_mem_cons (p := fun g : Field => (texts.filter (·.1 = g.name)).length <
        2)).symm

end Members

section Texts
variable {before before' inside inside' after after' : Bytes}

theorem Blanks.front_unique {b b' : UInt8} (blank : Blanks before) (blank' : Blanks before')
    (nonBlank : isBlank b = false) (nonBlank' : isBlank b' = false)
    (same : before ++ b :: after = before' ++ b' :: after') : b = b' ∧ after = after' := by
  rw [← List.cons.injEq, ← blank.skip_cons nonBlank, same, blank'.skip_cons nonBlank']

theorem SpellsObject.unique {text : Bytes} {texts texts' : List (String × Bytes)}
    {members members' : List (String × Json)} (spells : SpellsObject text texts members)
    (spells' : SpellsObject text texts' members') : texts = texts' := by
  cases spells with
  | @braces before inside after _ _ blank blankAfter enclosed spelled =>
      generalize same : before ++ (Octet.openBrace :: inside ++ after) = text at spells'
      cases spells' with
      | braces blank' blankAfter' enclosed' spelled' =>
          obtain ⟨-, same⟩ := blank.front_unique blank' (by decide) (by decide) same
          exact (enclosed.members_unique enclosed' spelled.passes spelled'.passes same).1

variable {s : Schema} {slots : Slots s.fields}

theorem Enclosed.read_eq_ok_iff {items : List Json} (blank : Blanks before)
    (blankAfter : Blanks after)
    (enclosed : Enclosed Octet.closeBracket (fun v text => Json.Spells (depthLimit - 1) text v)
      items inside) :
    s.read (before ++ (Octet.openBracket :: inside ++ after)) = .ok slots ↔
      Slots.ofItems? s.fields items = some slots := by
  constructor
  · intro read
    obtain ⟨before', body, after', blank', -, same, spells⟩ := Schema.read_eq_ok_iff.mp read
    rcases spells with ⟨members, inside', rfl, -⟩ | ⟨items', inside', rfl, enclosed', of⟩
    · exact absurd (blank.front_unique blank' (by decide) (by decide) same).1 (by decide)
    · obtain ⟨-, same⟩ := blank.front_unique blank' (by decide) (by decide) same
      rwa [(enclosed.items_unique enclosed' same).1]
  · exact fun of =>
      Schema.read_eq_ok_iff.mpr ⟨before, _, after, blank, blankAfter, rfl,
        .inr ⟨items, inside, rfl, enclosed, of⟩⟩

theorem SpellsObject.read_eq_ok_iff {text : Bytes} {texts : List (String × Bytes)}
    {members : List (String × Json)} (spells : SpellsObject text texts members) :
    s.read text = .ok slots ↔ Slots.Among (depthLimit - 1) s.fields texts slots := by
  cases spells with
  | @braces before inside after _ _ blank blankAfter enclosed spelled =>
      constructor
      · intro read
        obtain ⟨before', body, after', blank', -, same, spells⟩ := Schema.read_eq_ok_iff.mp read
        rcases spells with ⟨texts', inside', rfl, enclosed', among⟩ | ⟨items, inside', rfl, -⟩
        · obtain ⟨-, same⟩ := blank.front_unique blank' (by decide) (by decide) same
          rwa [(enclosed.members_unique enclosed' spelled.passes among.passes same).1]
        · exact absurd (blank.front_unique blank' (by decide) (by decide) same).1 (by decide)
      · exact fun among => Schema.read_eq_ok_iff.mpr
          ⟨before, _, after, blank, blankAfter, rfl, .inl ⟨texts, inside, rfl, enclosed, among⟩⟩

theorem SpellsObject.repeats_iff {text : Bytes} {texts : List (String × Bytes)}
    {members : List (String × Json)} (spells : SpellsObject text texts members)
    (names : List String) :
    Repeats names text ↔ ∃ name ∈ names, 2 ≤ (texts.filter (·.1 = name)).length := by
  constructor
  · rintro ⟨texts', members', spells', twice⟩
    rwa [spells.unique spells']
  · exact fun twice => ⟨texts, members, spells, twice⟩

theorem not_repeats {b : UInt8} {tail : Bytes} (blank : Blanks before)
    (nonBlank : isBlank b = false) (noBrace : b ≠ Octet.openBrace) (names : List String) :
    ¬ Repeats names (before ++ b :: tail) := by
  rintro ⟨texts, members, spells, -⟩
  generalize same : before ++ b :: tail = text at spells
  cases spells with
  | braces blank' _ _ _ => exact noBrace (blank.front_unique blank' nonBlank (by decide) same).1

/-- A text that is read as a value spells one that is neither array nor object, or an array, or an
object. -/
theorem read_cases {text : Bytes} {v : Json} (read : Json.read text = .ok v) :
    (∃ before b tail, Blanks before ∧ BeginsScalar b ∧ text = before ++ b :: tail ∧
      (∀ items, v ≠ .array items) ∧
      ∀ members, v ≠ .object members) ∨
    (∃ before inside after items, Blanks before ∧ Blanks after ∧
      text = before ++ (Octet.openBracket :: inside ++ after) ∧ v = .array items ∧
      Enclosed Octet.closeBracket (fun v text => Json.Spells (depthLimit - 1) text v)
      items inside) ∨
    ∃ texts members, SpellsObject text texts members ∧ v = ofMembers members := by
  obtain ⟨before, body, after, blank, blankAfter, rfl, spells⟩ := read_eq_ok_iff.mp read
  rcases spells with
    spells | ⟨items, inside, rfl, rfl, enclosed⟩ |
      ⟨texts, members, inside, rfl, rfl, enclosed, spelled⟩
  · obtain ⟨b, tail, rfl, begins, -⟩ := spells.read_eq
    refine .inl ⟨before, b, tail ++ after, blank, begins, rfl, ?_, ?_⟩ <;> rintro _ rfl <;>
      cases spells
  · exact .inr (.inl ⟨before, inside, after, items, blank, blankAfter, rfl, rfl, enclosed⟩)
  · exact .inr (.inr ⟨texts, members, .braces blank blankAfter enclosed spelled, rfl⟩)

/-- A record is read from a text as from its value, unless one of its names stands twice in the
text. -/
theorem Schema.read_iff_ofJson? {text : Bytes} {v : Json} (distinct : s.names.Nodup)
    (isJson : Json.read text = .ok v) :
    s.read text = .ok slots ↔ s.ofJson? v = some slots ∧ ¬ Repeats s.names text := by
  rcases read_cases isJson with
    ⟨before, b, tail, blank, ⟨nonBlank, noBracket, noBrace, -⟩, rfl, noArray, noObject⟩ |
    ⟨before, inside, after, items, blank, blankAfter, rfl, rfl, enclosed⟩ |
      ⟨texts, members, spells, rfl⟩
  · constructor
    · intro read
      obtain ⟨before', body, after', blank', -, same, spells⟩ := Schema.read_eq_ok_iff.mp read
      rcases spells with ⟨members, inside', rfl, -⟩ | ⟨items, inside', rfl, -⟩
      · exact absurd (blank.front_unique blank' nonBlank (by decide) same).1 noBrace
      · exact absurd (blank.front_unique blank' nonBlank (by decide) same).1 noBracket
    · rintro ⟨of, -⟩
      cases v with
      | array items => exact absurd rfl (noArray items)
      | object members => exact absurd rfl (noObject members)
      | _ => cases of
  · rw [enclosed.read_eq_ok_iff blank blankAfter]
    exact (and_iff_left (not_repeats blank (by decide) (by decide) s.names)).symm
  · rw [spells.read_eq_ok_iff, spells.repeats_iff]
    cases spells with
    | braces _ _ _ spelled =>
        have once : (∀ f ∈ s.fields, (texts.filter (·.1 = f.name)).length < 2) ↔
            ¬ ∃ name ∈ s.names, 2 ≤ (texts.filter (·.1 = name)).length := by
          simp [Schema.names]
        exact (Slots.among_iff_ofMembers? slots distinct spelled).trans
          ((and_congr once Iff.rfl).trans and_comm)

end Texts

end CommandBridge.Json
