import CommandBridge.Proofs.Json.Fields

/-! Records as they are read, against the grammar: from the members of an object, or from an array
of what the fields hold, in order. The texts that are read as a record are those that spell it. -/
namespace CommandBridge.Json

def Schema.Spells (s : Schema) (text : Bytes) (slots : Slots s.fields) : Prop :=
  (∃ members inside, text = Octet.openBrace :: inside ∧
    Enclosed Octet.closeBrace MemberText members inside ∧
    Slots.Among (depthLimit - 1) s.fields members slots) ∨
  ∃ items inside, text = Octet.openBracket :: inside ∧
    Enclosed Octet.closeBracket (fun item text => Json.Spells (depthLimit - 1) text item)
      items inside ∧
    Slots.ofItems? s.fields items = some slots

section Items
variable {bound depth index : Nat} {bytes rest behind : Bytes} {expected : String}

theorem readArrayEnd_eq_ok_iff :
    readArrayEnd bytes = .ok rest ↔ skipBlanks bytes = Octet.closeBracket :: rest := by
  constructor
  · intro read
    unfold readArrayEnd at read
    split at read
    · cases read
    rename_i b behind front
    split at read
    · cases read
      subst ‹b = Octet.closeBracket›
      exact front
    split at read
    · split at read <;> cases read
    · cases read
  · intro closed
    simp only [readArrayEnd, closed, if_true]

theorem Slots.ofItems?_nil_iff {f : Field} {fields : List Field} {held : f.kind.Holds}
    {slots : Slots fields} :
    Slots.ofItems? (f :: fields) [] = some (held, slots) ↔
      f.maybeLast = true ∧ f.whenMissing = some held ∧ Slots.ofItems? fields [] = some slots := by
  rw [Slots.ofItems?]
  constructor
  · intro of
    split at of
    · obtain ⟨held', stands, of⟩ := Option.bind_eq_some_iff.mp of
      obtain ⟨slots', of, same⟩ := Option.bind_eq_some_iff.mp of
      cases same
      exact ⟨‹_›, stands, of⟩
    · cases of
  · rintro ⟨maybe, stands, of⟩
    rw [maybe, if_pos rfl, stands, of]
    rfl

theorem Slots.ofItems?_cons_iff {f : Field} {fields : List Field} {v : Json} {items : List Json}
    {held : f.kind.Holds} {slots : Slots fields} :
    Slots.ofItems? (f :: fields) (v :: items) = some (held, slots) ↔
      f.kind.ofJson? v = some held ∧ Slots.ofItems? fields items = some slots := by
  rw [Slots.ofItems?]
  constructor
  · intro of
    obtain ⟨held', holds, of⟩ := Option.bind_eq_some_iff.mp of
    obtain ⟨slots', of, same⟩ := Option.bind_eq_some_iff.mp of
    cases same
    exact ⟨holds, of⟩
  · rintro ⟨holds, of⟩
    rw [holds, of]
    rfl

theorem Slots.ofMembers?_cons_iff {f : Field} {fields : List Field} {members : List (String × Json)}
    {held : f.kind.Holds} {slots : Slots fields} :
    Slots.ofMembers? (f :: fields) members = some (held, slots) ↔
      (match find? f.name members with
        | some v => f.kind.ofJson? v
        | none => f.whenMissing) = some held ∧ Slots.ofMembers? fields members = some slots := by
  rw [Slots.ofMembers?]
  cases find? f.name members with
  | none =>
      constructor
      · intro of
        obtain ⟨held', stands, later⟩ := Option.bind_eq_some_iff.mp of
        obtain ⟨slots', later, same⟩ := Option.bind_eq_some_iff.mp later
        cases same
        exact ⟨stands, later⟩
      · rintro ⟨stands, of⟩
        simp only [stands, of]
        rfl
  | some v =>
      constructor
      · intro of
        obtain ⟨held', holds, later⟩ := Option.bind_eq_some_iff.mp of
        obtain ⟨slots', later, same⟩ := Option.bind_eq_some_iff.mp later
        cases same
        exact ⟨holds, later⟩
      · rintro ⟨holds, of⟩
        simp only [holds, of]
        rfl

theorem Slots.readItems_cons (bound depth : Nat) (expected : String) (f : Field)
    (fields : List Field) (index : Nat) (bytes : Bytes) :
    Slots.readItems bound depth expected (f :: fields) index bytes =
      nextItem index bytes >>= fun next =>
        match next with
        | some bytes =>
          within (.item index) (f.kind.read bound depth bytes) >>= fun read =>
            Slots.readItems bound depth expected fields (index + 1) read.2 >>= fun later =>
              .ok ((read.1, later.1), later.2)
        | none =>
          match f.maybeLast, f.whenMissing with
          | true, some held =>
              Slots.readItems bound depth expected fields (index + 1) bytes >>= fun later =>
              .ok ((held, later.1), later.2)
          | _, _ => fail (.wrongLength index expected) ((skipBlanks bytes).drop 1) := rfl

theorem nextItem_closed (closed : skipBlanks bytes = Octet.closeBracket :: behind) (index : Nat) :
    nextItem index bytes = .ok none := by
  simp only [nextItem, closed, if_true]

theorem nextItem_sound {next : Option Bytes} (read : nextItem index bytes = .ok next) :
    (next = none ∧ ∃ behind, skipBlanks bytes = Octet.closeBracket :: behind) ∨
      (index = 0 ∧ next = some (skipBlanks bytes)) ∨
      index ≠ 0 ∧ ∃ before between behind, next = some behind ∧ Blanks before ∧ Blanks between ∧
        bytes = before ++ Octet.comma :: (between ++ behind) := by
  obtain ⟨before, blank, parts⟩ := skipBlanks_sound bytes
  unfold nextItem at read
  split at read
  · cases read
  rename_i b tail front
  rw [front] at parts ⊢
  split at read
  · cases read
    subst ‹b = Octet.closeBracket›
    exact .inl ⟨rfl, tail, rfl⟩
  split at read
  · cases read
    exact .inr (.inl ⟨‹_›, rfl⟩)
  rename_i notFirst
  split at read
  · subst ‹b = Octet.comma›
    obtain ⟨between, blank', parts'⟩ := skipBlanks_sound tail
    split at read
    · cases read
    rename_i c tail' front'
    rw [front'] at parts'
    split at read
    · cases read
    · cases read
      exact .inr (.inr ⟨notFirst, before, between, _, rfl, blank, blank', by rw [parts, parts']⟩)
  · cases read

theorem Begins.firstItem_eq {before text : Bytes} (begins : Begins text) (blank : Blanks before) :
    nextItem 0 (before ++ text) = .ok (some text) := by
  obtain ⟨c, tail, rfl, nonBlank, noEnd⟩ := begins
  rw [nextItem, blank.skip_cons nonBlank]
  simp only [if_neg noEnd, if_true]

theorem Begins.nextItem_eq {before between text : Bytes} (begins : Begins text)
    (blank : Blanks before) (blank' : Blanks between) (index : Nat) :
    nextItem (index + 1) (before ++ Octet.comma :: (between ++ text)) = .ok (some text) := by
  obtain ⟨c, tail, rfl, nonBlank, noEnd⟩ := begins
  have noBracket : Octet.comma ≠ Octet.closeBracket := by decide
  rw [nextItem, blank.skip_cons (by decide)]
  simp only [blank'.skip_cons nonBlank, if_neg noBracket, if_neg noEnd, if_true,
    Nat.add_one_ne_zero, if_false]

/-- Behind the last item of an array, what stands for the fields left is read. -/
theorem Slots.readItems_closed_iff (closed : skipBlanks bytes = Octet.closeBracket :: behind)
    {fields : List Field} {slots : Slots fields} :
    Slots.readItems bound depth expected fields index bytes = .ok (slots, rest) ↔
      Slots.ofItems? fields [] = some slots ∧ rest = behind := by
  induction fields generalizing index with
  | nil =>
      rw [Slots.readItems, readArrayEnd_eq_ok_iff.mpr closed]
      constructor
      · intro read
        cases read
        exact ⟨rfl, rfl⟩
      · rintro ⟨-, rfl⟩
        rfl
  | cons f fields ih =>
      obtain ⟨held, slots⟩ := slots
      constructor
      · intro read
        rw [Slots.readItems_cons] at read
        obtain ⟨next, found, goes⟩ := bind_ok read
        rw [nextItem_closed closed] at found
        cases found
        dsimp only at goes
        split at goes
        · obtain ⟨⟨slots', rest'⟩, later, same⟩ := bind_ok goes
          cases same
          obtain ⟨of, rfl⟩ := ih.mp later
          exact ⟨Slots.ofItems?_nil_iff.mpr ⟨‹_›, ‹_›, of⟩, rfl⟩
        · cases goes
      · rintro ⟨of, rfl⟩
        obtain ⟨maybe, stands, of⟩ := Slots.ofItems?_nil_iff.mp of
        rw [Slots.readItems_cons, nextItem_closed closed]
        simp only [bind, Except.bind, maybe, stands, ih.mpr ⟨of, rfl⟩]
        rfl

/-- An array is closed before a field, or goes on with an item that spells what the field holds. -/
theorem Slots.readItems_cons_sound {f : Field} {fields : List Field} {held : f.kind.Holds}
    {slots : Slots fields}
    (read : Slots.readItems bound depth expected (f :: fields) index bytes =
      .ok ((held, slots), rest)) :
    (∃ behind, skipBlanks bytes = Octet.closeBracket :: behind) ∨
      ∃ before text behind v, nextItem index bytes = .ok (some (before ++ (text ++ behind))) ∧
        Blanks before ∧
        Spells depth text v ∧ f.kind.ofJson? v = some held ∧
        Slots.readItems bound depth expected fields (index + 1) behind = .ok (slots, rest) := by
  rw [Slots.readItems_cons] at read
  obtain ⟨next, found, goes⟩ := bind_ok read
  cases next with
  | none =>
      rcases nextItem_sound found with ⟨-, closed⟩ | ⟨-, none⟩ | ⟨-, _, _, _, none, _⟩
      · exact .inl closed
      · cases none
      · cases none
  | some front =>
      obtain ⟨⟨held', behind⟩, one, goes⟩ := bind_ok goes
      obtain ⟨⟨slots', rest'⟩, later, same⟩ := bind_ok goes
      cases same
      obtain ⟨before, text, blank, rfl, v, spells, holds⟩ :=
        f.kind.read_finds _ _ _ _ _ (of_within one)
      exact .inr ⟨before, text, behind, v, found, blank, spells, holds, later⟩

theorem Slots.readItems_closed_sound (closed : skipBlanks bytes = Octet.closeBracket :: behind)
    {fields : List Field} {slots : Slots fields}
    (read : Slots.readItems bound depth expected fields index bytes = .ok (slots, rest)) :
    ∃ before, Blanks before ∧ bytes = before ++ [Octet.closeBracket] ++ rest ∧
      Slots.ofItems? fields [] = some slots := by
  obtain ⟨of, rfl⟩ := (Slots.readItems_closed_iff closed).mp read
  obtain ⟨before, blank, parts⟩ := skipBlanks_sound bytes
  rw [closed] at parts
  exact ⟨before, blank, by rw [parts, List.append_cons], of⟩

theorem Slots.readItems_nil_sound {slots : Slots []}
    (read : Slots.readItems bound depth expected [] index bytes = .ok (slots, rest)) :
    ∃ behind, skipBlanks bytes = Octet.closeBracket :: behind := by
  cases ended : readArrayEnd bytes with
  | error e => rw [Slots.readItems, ended] at read; cases read
  | ok behind => exact ⟨behind, readArrayEnd_eq_ok_iff.mp ended⟩

theorem Slots.readItems_sound {fields : List Field} {slots : Slots fields}
    (read : Slots.readItems bound depth expected fields (index + 1) bytes = .ok (slots, rest)) :
    ∃ items later, bytes = later ++ rest ∧ Slots.ofItems? fields items = some slots ∧
      Following Octet.closeBracket (fun v text => Spells depth text v) items later := by
  induction fields generalizing index bytes with
  | nil =>
      obtain ⟨behind, closed⟩ := Slots.readItems_nil_sound read
      obtain ⟨before, blank, parts, of⟩ := Slots.readItems_closed_sound closed read
      exact ⟨[], _, parts, of, .close blank⟩
  | cons f fields ih =>
      obtain ⟨held, slots⟩ := slots
      rcases Slots.readItems_cons_sound read with
        ⟨behind, closed⟩ | ⟨before, text, behind, v, found, blank, spells, holds, goes⟩
      · obtain ⟨before, blank, parts, of⟩ := Slots.readItems_closed_sound closed read
        exact ⟨[], _, parts, of, .close blank⟩
      · rcases nextItem_sound found with
          ⟨none, -⟩ | ⟨first, -⟩ | ⟨-, front, between, behind', same, blank', blank'', rfl⟩
        · cases none
        · cases first
        · cases same
          obtain ⟨items, later, rfl, of, following⟩ := ih goes
          exact ⟨v :: items, _, by simp, Slots.ofItems?_cons_iff.mpr ⟨holds, of⟩,
            .more blank' (blank''.append blank) spells following⟩

theorem Slots.readItems_first {fields : List Field} {slots : Slots fields}
    (read : Slots.readItems bound depth expected fields 0 bytes = .ok (slots, rest)) :
    ∃ items inside, bytes = inside ++ rest ∧ Slots.ofItems? fields items = some slots ∧
      Enclosed Octet.closeBracket (fun v text => Spells depth text v) items inside := by
  cases fields with
  | nil =>
      obtain ⟨behind, closed⟩ := Slots.readItems_nil_sound read
      obtain ⟨before, blank, parts, of⟩ := Slots.readItems_closed_sound closed read
      exact ⟨[], _, parts, of, .empty blank⟩
  | cons f fields =>
      obtain ⟨held, slots⟩ := slots
      rcases Slots.readItems_cons_sound read with
        ⟨behind, closed⟩ | ⟨before, text, behind, v, found, blank, spells, holds, goes⟩
      · obtain ⟨before, blank, parts, of⟩ := Slots.readItems_closed_sound closed read
        exact ⟨[], _, parts, of, .empty blank⟩
      · obtain ⟨items, later, rfl, of, following⟩ := Slots.readItems_sound goes
        obtain ⟨front, blank', parts⟩ := skipBlanks_sound bytes
        rcases nextItem_sound found with ⟨none, -⟩ | ⟨-, same⟩ | ⟨later, _⟩
        · cases none
        · rw [← Option.some.inj same] at parts
          exact ⟨v :: items, _, by rw [parts]; simp, Slots.ofItems?_cons_iff.mpr ⟨holds, of⟩,
            .full (blank'.append blank) spells following⟩
        · exact absurd rfl later

theorem Following.readFields_eq {fields : List Field} {slots : Slots fields} {items : List Json}
    {later : Bytes}
    (following : Following Octet.closeBracket (fun v text => Spells depth text v) items later)
    (expected : String) (of : Slots.ofItems? fields items = some slots)
    (enough : later.length ≤ bound) (index : Nat) (rest : Bytes) :
    Slots.readItems bound depth expected fields (index + 1) (later ++ rest) =
      .ok (slots, rest) := by
  induction following generalizing fields index with
  | @close before blank =>
      have closed := blank.skip_cons (b := Octet.closeBracket) (by decide) rest
      rw [List.append_assoc, List.singleton_append]
      exact (Slots.readItems_closed_iff closed).mpr ⟨of, rfl⟩
  | @more before between text later v items blank blank' spells following ih =>
      cases fields with
      | nil => cases of
      | cons f fields =>
          obtain ⟨held, slots⟩ := slots
          obtain ⟨holds, of⟩ := Slots.ofItems?_cons_iff.mp of
          simp only [List.length_append, List.length_cons] at enough
          have spells' : f.kind.Spells depth held text := ⟨v, spells, holds⟩
          have short : text.length ≤ bound := by omega
          obtain ⟨begins, gets⟩ := spells'.read_eq short
          have read := gets _ (following.endsNumber (by decide) rest)
          have later_eq := ih of (by omega) (index + 1)
          have next := (begins.append (later ++ rest)).nextItem_eq blank blank' index
          rw [List.append_assoc, List.cons_append, List.append_assoc, List.append_assoc,
            Slots.readItems_cons, next]
          simp only [bind, Except.bind, read, within, later_eq]
          rfl

theorem Enclosed.readFields_eq {fields : List Field} {slots : Slots fields} {items : List Json}
    {inside : Bytes}
    (enclosed : Enclosed Octet.closeBracket (fun v text => Spells depth text v) items inside)
    (expected : String) (of : Slots.ofItems? fields items = some slots)
    (enough : inside.length ≤ bound) (rest : Bytes) :
    Slots.readItems bound depth expected fields 0 (inside ++ rest) = .ok (slots, rest) := by
  cases enclosed with
  | @empty before blank =>
      have closed := blank.skip_cons (b := Octet.closeBracket) (by decide) rest
      rw [List.append_assoc, List.singleton_append]
      exact (Slots.readItems_closed_iff closed).mpr ⟨of, rfl⟩
  | @full before text later v items blank spells following =>
      cases fields with
      | nil => cases of
      | cons f fields =>
          obtain ⟨held, slots⟩ := slots
          obtain ⟨holds, of⟩ := Slots.ofItems?_cons_iff.mp of
          simp only [List.length_append] at enough
          have spells' : f.kind.Spells depth held text := ⟨v, spells, holds⟩
          have short : text.length ≤ bound := by omega
          obtain ⟨begins, gets⟩ := spells'.read_eq short
          have read := gets _ (following.endsNumber (by decide) rest)
          have short' : later.length ≤ bound := by omega
          have later_eq := following.readFields_eq expected of short' 0 rest
          have next := (begins.append (later ++ rest)).firstItem_eq blank
          rw [List.append_assoc, List.append_assoc, Slots.readItems_cons, next]
          simp only [bind, Except.bind, read, within, later_eq]
          rfl

end Items

section Whole
variable {s : Schema} {bytes rest : Bytes} {slots : Slots s.fields}

theorem whole_eq_ok_iff {α : Type} {reading : Except ReadError (α × Bytes)} {a : α} :
    whole reading = .ok a ↔ ∃ after, Blanks after ∧ reading = .ok (a, after) := by
  constructor
  · intro read
    obtain ⟨after, found, ends⟩ := of_whole read
    exact ⟨after, List.dropWhile_eq_nil_iff.mp ends, found⟩
  · rintro ⟨after, blank, rfl⟩
    simp only [whole, bind, Except.bind, blank.skip_eq_nil]

theorem Schema.read_sound (read : s.read bytes = .ok slots) :
    ∃ before text after, Blanks before ∧ Blanks after ∧
    bytes = before ++ (text ++ after) ∧ s.Spells text slots := by
  obtain ⟨after, blank', read⟩ := whole_eq_ok_iff.mp read
  obtain ⟨before, blank, parts⟩ := skipBlanks_sound bytes
  split at read
  · cases read
  rename_i b behind front
  rw [front] at parts
  split at read
  · subst ‹b = Octet.openBracket›
    obtain ⟨items, inside, rfl, of, enclosed⟩ := Slots.readItems_first read
    exact ⟨before, _, after, blank, blank', parts, .inr ⟨items, inside, rfl, enclosed, of⟩⟩
  split at read
  · subst ‹b = Octet.openBrace›
    obtain ⟨⟨gathered, behind'⟩, object, goes⟩ := bind_ok read
    obtain ⟨members, inside, rfl, enclosed, runs⟩ := readObject_sound (takes_member _ _ _) object
    dsimp only at goes
    split at goes
    · cases goes
      have among := runs_gathered_iff.mp ⟨gathered, runs, ‹_›⟩
      exact ⟨before, _, after, blank, blank', parts, .inl ⟨members, inside, rfl, enclosed, among⟩⟩
    · cases goes
  · cases read

theorem Schema.Spells.read_eq {before text after : Bytes} (spells : s.Spells text slots)
    (blank : Blanks before) (blank' : Blanks after) :
    s.read (before ++ (text ++ after)) = .ok slots := by
  refine whole_eq_ok_iff.mpr ⟨after, blank', ?_⟩
  rcases spells with ⟨members, inside, rfl, enclosed, among⟩ | ⟨items, inside, rfl, enclosed, of⟩
  · obtain ⟨gathered, runs, filled⟩ := runs_gathered_iff.mpr among
    have fits : inside.length ≤ (before ++ (Octet.openBrace :: inside ++ after)).length := by
      simp only [List.length_append, List.length_cons]
      omega
    have read := enclosed.readObject_eq (fun m short => isTaken_member s.fields (short.trans fits))
      runs fits after
    have noBracket : Octet.openBrace ≠ Octet.openBracket := by decide
    rw [List.cons_append] at read ⊢
    rw [blank.skip_cons (by decide)]
    simp only [if_neg noBracket, if_true, read, bind, Except.bind, filled]
  · have fits : inside.length ≤ (before ++ (Octet.openBracket :: inside ++ after)).length := by
      simp only [List.length_append, List.length_cons]
      omega
    have read := enclosed.readFields_eq s.expectedItems of fits after
    rw [List.cons_append] at read ⊢
    rw [blank.skip_cons (by decide)]
    simp only [if_true, read]

/-- The texts that are read as a record are those that spell one, with blanks around it. -/
theorem Schema.read_eq_ok_iff : s.read bytes = .ok slots ↔
    ∃ before text after, Blanks before ∧ Blanks after ∧ bytes = before ++ (text ++ after) ∧
      s.Spells text slots := by
  constructor
  · exact Schema.read_sound
  · rintro ⟨before, text, after, blank, blank', rfl, spells⟩
    exact spells.read_eq blank blank'

end Whole

namespace Record
variable {α : Type} {record : Record α} {r : α} {bytes : Bytes}

def Spells (record : Record α) (text : Bytes) (r : α) : Prop :=
  ∃ slots, record.schema.Spells text slots ∧ record.ofSlots slots = r

theorem read_iff_slots : record.read bytes = .ok r ↔
    ∃ slots, record.schema.read bytes = .ok slots ∧ record.ofSlots slots = r := by
  rw [Record.read]
  cases record.schema.read bytes with
  | error e =>
      constructor
      · intro read
        cases read
      · rintro ⟨_, read, _⟩
        cases read
  | ok slots =>
      constructor
      · exact fun same => ⟨slots, rfl, Except.ok.inj same⟩
      · rintro ⟨slots', read, rfl⟩
        rw [Except.ok.inj read]
        rfl

theorem read_eq_ok_iff : record.read bytes = .ok r ↔
    ∃ before text after, Blanks before ∧ Blanks after ∧ bytes = before ++ (text ++ after) ∧
      record.Spells text r := by
  rw [read_iff_slots]
  constructor
  · rintro ⟨slots, read, same⟩
    obtain ⟨before, text, after, blank, blank', parts, spells⟩ := Schema.read_eq_ok_iff.mp read
    exact ⟨before, text, after, blank, blank', parts, slots, spells, same⟩
  · rintro ⟨before, text, after, blank, blank', parts, slots, spells, same⟩
    exact ⟨slots, Schema.read_eq_ok_iff.mpr ⟨before, text, after, blank, blank', parts, spells⟩,
      same⟩

end Record

end CommandBridge.Json
