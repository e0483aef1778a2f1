import CommandBridge.Proofs.Json.Passing
import CommandBridge.Proofs.Json.Yields

/-! Fields of records as they are read, against the grammar: what a field holds, and the members of
an object, in which those of each field tell what it holds and all others are passed over. -/
namespace CommandBridge.Json

def Kind.Spells (kind : Kind) (depth : Nat) (held : kind.Holds) (text : Bytes) : Prop :=
  ∃ v, Json.Spells depth text v ∧ kind.ofJson? v = some held

/-- What a field holds, from the members of its name: one at most, and none where something stands
for it. -/
inductive Field.Among (depth : Nat) (f : Field) : List (String × Bytes) → f.kind.Holds → Prop
  | once {m held} : f.kind.Spells depth held m.2 → Among depth f [m] held
  | missing {held} : f.whenMissing = some held → Among depth f [] held

/-- What the fields hold, from the members of an object. Those of no field are of the form of
values. -/
def Slots.Among (depth : Nat) : (fields : List Field) → List (String × Bytes) → Slots fields → Prop
  | [], members, _ => ∀ m ∈ members, Passes none m.2
  | f :: fields, members, (held, more) =>
    f.Among depth (members.filter (·.1 = f.name)) held ∧
      Slots.Among depth fields (members.filter (·.1 ≠ f.name)) more

theorem filter_filter_other {β : Type} {name other : String} (apart : name ≠ other)
    (members : List (String × β)) :
    (members.filter (·.1 ≠ other)).filter (·.1 = name) = members.filter (·.1 = name) := by
  rw [List.filter_filter]
  refine List.filter_congr fun m _ => ?_
  by_cases named : m.1 = name <;> simp [named, apart]

section Kinds
variable {bound depth : Nat} {bytes rest text : Bytes}

theorem readText_eq_ok_iff {s : String} : readText bytes = .ok (s, rest) ↔
    ∃ before text, Blanks before ∧ bytes = before ++ (text ++ rest) ∧ SpellsString text s := by
  constructor
  · intro read
    obtain ⟨before, blank, parts⟩ := skipBlanks_sound bytes
    unfold readText at read
    split at read
    · cases read
    rename_i b behind front
    rw [front] at parts
    split at read
    · subst ‹b = Octet.quote›
      obtain ⟨body, rfl, undone⟩ := readString_eq_ok_iff.mp read
      exact ⟨before, _, blank, by rw [parts]; simp, body, rfl, undone⟩
    · cases read
  · rintro ⟨before, _, blank, rfl, body, rfl, undone⟩
    have read : readString (body ++ Octet.quote :: rest) = .ok (s, rest) :=
      readString_eq_ok_iff.mpr ⟨body, rfl, undone⟩
    rw [readText, List.cons_append, List.append_assoc, List.singleton_append,
      blank.skip_cons (by decide)]
    simp only [if_true, read]

theorem Spells.scalar {v : Json} (spells : Spells depth text v)
    (noArray : ∀ items, v ≠ .array items) (noObject : ∀ members, v ≠ .object members) :
    SpellsScalar text v := by
  cases depth with
  | zero => exact spells
  | succ depth =>
      rcases spells with spells | ⟨items, _, same, _⟩ | ⟨_, members, _, same, _⟩
      · exact spells
      · exact absurd same (noArray items)
      · exact absurd same (noObject _)

theorem spells_string_iff {s : String} : Spells depth text (.string s) ↔ SpellsString text s := by
  constructor
  · intro spells
    cases spells.scalar nofun nofun with
    | string spells => exact spells
  · exact fun spells => .of_scalar (.string spells)

theorem spells_null_iff : Spells depth text .null ↔ text = Octet.smallN :: nullTail := by
  constructor
  · intro spells
    cases spells.scalar nofun nofun with
    | null => rfl
  · rintro rfl
    exact .of_scalar .null

theorem spells_array_iff {items : List Json} : Spells depth text (.array items) ↔
    ∃ lower inside, depth = lower + 1 ∧ text = Octet.openBracket :: inside ∧
      Enclosed Octet.closeBracket (fun v text => Spells lower text v) items inside := by
  constructor
  · intro spells
    cases depth with
    | zero => cases spells
    | succ depth =>
        rcases spells with spells | ⟨_, inside, same, rfl, enclosed⟩ | ⟨_, _, _, same, _⟩
        · cases spells
        · cases same
          exact ⟨depth, inside, rfl, rfl, enclosed⟩
        · cases same
  · rintro ⟨lower, inside, rfl, rfl, enclosed⟩
    exact .inr (.inl ⟨items, inside, rfl, rfl, enclosed⟩)

/-- What a field is read to hold is spelled there, behind blanks. -/
theorem Kind.read_finds (kind : Kind) (bound depth : Nat) :
    Finds (kind.read bound depth) (kind.Spells depth) := by
  intro bytes held rest read
  cases kind with
  | text =>
      obtain ⟨before, text, blank, rfl, spells⟩ := readText_eq_ok_iff.mp read
      exact ⟨before, text, blank, rfl, .string held, spells_string_iff.mpr spells, rfl⟩
  | any =>
      obtain ⟨before, text, blank, rfl, spells⟩ := readValue_finds _ _ _ _ _ read
      exact ⟨before, text, blank, rfl, held, spells, rfl⟩
  | list =>
      obtain ⟨before, blank, parts⟩ := skipBlanks_sound bytes
      rw [Kind.read] at read
      split at read
      · cases read
      rename_i b behind front
      rw [front] at parts
      split at read
      · subst ‹b = Octet.openBracket›
        cases depth with
        | zero => cases read
        | succ depth =>
            obtain ⟨inside, rfl, enclosed⟩ := readArray_sound (readValue_finds bound depth) read
            exact ⟨before, _, blank, parts, .array held, spells_array_iff.mpr
              ⟨depth, inside, rfl, rfl, enclosed⟩, rfl⟩
      · cases read
  | textOrNull =>
      obtain ⟨before, blank, parts⟩ := skipBlanks_sound bytes
      rw [Kind.read] at read
      split at read
      · cases read
      rename_i b behind front
      rw [front] at parts
      split at read
      · subst ‹b = Octet.smallN›
        cases word : readWord nullTail behind with
        | error e => rw [word] at read; cases read
        | ok tail =>
            rw [word] at read
            cases read
            rw [readWord_eq_ok_iff.mp word] at parts
            exact ⟨before, _, blank, parts, .null, spells_null_iff.mpr rfl, rfl⟩
      · cases string : readText (b :: behind) with
        | error e => rw [string] at read; cases read
        | ok r =>
            rw [string] at read
            cases read
            obtain ⟨between, text, blank', parts', spells⟩ := readText_eq_ok_iff.mp string
            rw [parts', ← List.append_assoc] at parts
            exact ⟨_, text, blank.append blank', parts, .string r.1,
              spells_string_iff.mpr spells, rfl⟩

theorem Blanks.readKind_eq {before : Bytes} (blank : Blanks before) (kind : Kind) (bytes : Bytes) :
    kind.read bound depth (before ++ bytes) = kind.read bound depth bytes := by
  cases kind with
  | text => simp only [Kind.read, readText, blank.skip_append]
  | any => exact blank.readValue_eq bytes
  | list => simp only [Kind.read, blank.skip_append]
  | textOrNull => simp only [Kind.read, blank.skip_append]

theorem SpellsString.begins {s : String} (spells : SpellsString text s) : Begins text := by
  obtain ⟨body, rfl, -⟩ := spells
  exact begins_cons (by decide)

theorem SpellsString.readText_eq {s : String} (spells : SpellsString text s) :
    Gets readText text s :=
  fun _ _ => readText_eq_ok_iff.mpr ⟨[], text, List.forall_mem_nil _, rfl, spells⟩

theorem Kind.Spells.read_eq {kind : Kind} {held : kind.Holds} (spells : kind.Spells depth held text)
    (enough : text.length ≤ bound) : Begins text ∧ Gets (kind.read bound depth) text held := by
  obtain ⟨v, spells, holds⟩ := spells
  cases kind with
  | text =>
      cases v with
      | string s =>
          cases holds
          have spells := spells_string_iff.mp spells
          exact ⟨spells.begins, spells.readText_eq⟩
      | _ => cases holds
  | any =>
      cases holds
      exact spells.readValue_eq enough
  | list =>
      cases v with
      | array items =>
          cases holds
          obtain ⟨lower, inside, rfl, rfl, enclosed⟩ := spells_array_iff.mp spells
          have fits : inside.length ≤ bound := Nat.le_of_succ_le enough
          have pieces :=
            enclosed.imp (fun v text spells short => Spells.readValue_eq spells (short.trans fits))
            (Nat.le_refl _)
          refine ⟨begins_cons (by decide), fun rest _ => ?_⟩
          rw [List.cons_append, Kind.read, skipBlanks_cons (by decide)]
          simp only [if_true]
          exact pieces.readArray_eq fits rest
      | _ => cases holds
  | textOrNull =>
      cases v with
      | null =>
          cases holds
          obtain rfl := spells_null_iff.mp spells
          exact ⟨begins_cons (by decide), fun rest _ => rfl⟩
      | string s =>
          cases holds
          have spells := spells_string_iff.mp spells
          refine ⟨spells.begins, fun rest ends => ?_⟩
          have read := spells.readText_eq rest ends
          obtain ⟨body, rfl, -⟩ := spells
          have noLetter : Octet.quote ≠ Octet.smallN := by decide
          rw [List.cons_append] at read ⊢
          rw [Kind.read, skipBlanks_cons (by decide)]
          simp only [if_neg noLetter, read]
          rfl
      | _ => cases holds

theorem Kind.ofJson?_text_iff {v : Json} {s : String} :
    Kind.text.ofJson? v = some s ↔ v = .string s := by
  cases v with
  | string s' =>
      change some s' = some s ↔ _
      rw [Option.some.injEq, Json.string.injEq]
  | _ => exact ⟨nofun, nofun⟩

theorem Kind.ofJson?_list_iff {v : Json} {items : List Json} :
    Kind.list.ofJson? v = some items ↔ v = .array items := by
  cases v with
  | array items' =>
      change some items' = some items ↔ _
      rw [Option.some.injEq, Json.array.injEq]
  | _ => exact ⟨nofun, nofun⟩

theorem Kind.spells_text_iff {s : String} :
    Kind.text.Spells depth s text ↔ Json.Spells depth text (.string s) := by
  constructor
  · rintro ⟨v, spells, holds⟩
    rwa [Kind.ofJson?_text_iff.mp holds] at spells
  · exact fun spells => ⟨.string s, spells, rfl⟩

theorem Kind.spells_list_iff {items : List Json} :
    Kind.list.Spells depth items text ↔ Json.Spells depth text (.array items) := by
  constructor
  · rintro ⟨v, spells, holds⟩
    rwa [Kind.ofJson?_list_iff.mp holds] at spells
  · exact fun spells => ⟨.array items, spells, rfl⟩

theorem Field.among_iff {f : Field} {members : List (String × Bytes)} {held : f.kind.Holds} :
    f.Among depth members held ↔
      members = [] ∧ f.whenMissing = some held ∨ ∃ m, members = [m] ∧
      f.kind.Spells depth held m.2 := by
  constructor
  · intro among
    cases among with
    | once spells => exact .inr ⟨_, rfl, spells⟩
    | missing stands => exact .inl ⟨rfl, stands⟩
  · rintro (⟨rfl, stands⟩ | ⟨m, rfl, spells⟩)
    · exact .missing stands
    · exact .once spells

end Kinds

section Members
variable {bound depth : Nat} {bytes rest : Bytes} {fields : List Field}

/-- A member is taken in: it tells what the field of its name holds, which held nothing yet, or no
field has the name and it is passed over. -/
def Gathered.Puts (depth : Nat) :
    (fields : List Field) → Gathered fields → String × Bytes → Gathered fields → Prop
  | [], _, m, _ => Passes none m.2
  | f :: fields, (slot, more), m, (slot', more') =>
    if m.1 = f.name then slot = none ∧ more' = more ∧ ∃ held, slot' = some held ∧
      f.kind.Spells depth held m.2
    else slot' = slot ∧ Gathered.Puts depth fields more m more'

section Puts
variable {f : Field} {slot slot' : Option f.kind.Holds} {more more' : Gathered fields}
  {m : String × Bytes}

theorem Gathered.puts_named_iff (named : m.1 = f.name) :
    Gathered.Puts depth (f :: fields) (slot, more) m (slot', more') ↔
      slot = none ∧ more' = more ∧ ∃ held, slot' = some held ∧ f.kind.Spells depth held m.2 := by
  rw [Gathered.Puts, if_pos named]

theorem Gathered.puts_other_iff (other : m.1 ≠ f.name) :
    Gathered.Puts depth (f :: fields) (slot, more) m (slot', more') ↔
      slot' = slot ∧ Gathered.Puts depth fields more m more' := by
  rw [Gathered.Puts, if_neg other]

end Puts

theorem Gathered.member?_sound {gathered gathered' : Gathered fields} {key : String}
    (read : Gathered.member? bound depth fields gathered key bytes = some (.ok (gathered', rest))) :
    ∃ text value, Assigned text value ∧ bytes = value ++ rest ∧
      Gathered.Puts depth fields gathered (key, text) gathered' := by
  induction fields with
  | nil => cases read
  | cons f fields ih =>
      obtain ⟨slot, more⟩ := gathered
      rw [Gathered.member?_cons] at read
      split at read
      · rename_i named
        have read := Option.some.inj read
        cases slot with
        | some held => cases read
        | none =>
            obtain ⟨behind, colon, goes⟩ := bind_ok read
            obtain ⟨⟨held, behind'⟩, value, same⟩ := bind_ok goes
            cases same
            obtain ⟨before, blank, rfl⟩ := readColon_sound colon
            obtain ⟨between, text, blank', rfl, spells⟩ :=
              f.kind.read_finds _ _ _ _ _ (of_within value)
            have puts : Gathered.Puts depth (f :: fields) (none, more) (key, text)
                (some held, more) :=
              (Gathered.puts_named_iff named).mpr ⟨rfl, rfl, held, rfl, spells⟩
            exact ⟨text, _, .colon blank blank', by simp, puts⟩
      · rename_i other
        obtain ⟨reading, inner, same⟩ := Option.map_eq_some_iff.mp read
        cases reading with
        | error e => cases same
        | ok r =>
            cases same
            obtain ⟨text, value, assigned, rfl, puts⟩ := ih inner
            exact ⟨text, value, assigned, rfl, (Gathered.puts_other_iff other).mpr ⟨rfl, puts⟩⟩

theorem Gathered.puts_of_member?_eq_none {gathered : Gathered fields} {key : String} {text : Bytes}
    (unknown : Gathered.member? bound depth fields gathered key bytes = none)
    (passes : Passes none text) :
    Gathered.Puts depth fields gathered (key, text) gathered := by
  induction fields with
  | nil => exact passes
  | cons f fields ih =>
      obtain ⟨slot, more⟩ := gathered
      rw [Gathered.member?_cons] at unknown
      split at unknown
      · cases unknown
      · rename_i other
        exact (Gathered.puts_other_iff other).mpr ⟨rfl, ih (Option.map_eq_none_iff.mp unknown)⟩

theorem takes_member (bound depth : Nat) (fields : List Field) :
    Takes (Gathered.member bound depth fields) (Gathered.Puts depth fields) := by
  intro gathered key bytes gathered' rest read
  unfold Gathered.member at read
  split at read
  · rename_i reading known
    subst read
    exact Gathered.member?_sound known
  · rename_i unknown
    obtain ⟨behind, colon, goes⟩ := bind_ok read
    obtain ⟨behind', skipped, same⟩ := bind_ok goes
    cases same
    obtain ⟨before, blank, rfl⟩ := readColon_sound colon
    obtain ⟨between, text, blank', rfl, passes⟩ := skipValue_sound (of_within skipped)
    exact ⟨text, _, .colon blank blank', by simp, Gathered.puts_of_member?_eq_none unknown passes⟩

/-- Either a member is read into the field of its name, or no field has its name and nothing
changes. -/
theorem Gathered.Puts.member?_eq {gathered gathered' : Gathered fields} {m : String × Bytes}
    {value : Bytes} (puts : Gathered.Puts depth fields gathered m gathered')
    (assigned : Assigned m.2 value) (enough : m.2.length ≤ bound) :
    (∀ rest, EndsNumber rest →
      Gathered.member? bound depth fields gathered m.1 (value ++ rest) =
        some (.ok (gathered', rest))) ∨
    gathered' = gathered ∧ Passes none m.2 ∧
      ∀ bytes, Gathered.member? bound depth fields gathered m.1 bytes = none := by
  induction fields with
  | nil => exact .inr ⟨rfl, puts, fun _ => rfl⟩
  | cons f fields ih =>
      obtain ⟨slot, more⟩ := gathered
      obtain ⟨slot', more'⟩ := gathered'
      by_cases named : m.1 = f.name
      · obtain ⟨rfl, rfl, held, rfl, spells⟩ := (Gathered.puts_named_iff named).mp puts
        left
        intro rest ends
        cases assigned with
        | @colon before between blank blank' =>
            have read := (spells.read_eq enough).2 rest ends
            rw [Gathered.member?_cons, if_pos named, List.append_assoc, List.cons_append,
              List.append_assoc]
            simp only [blank.readColon_eq, bind, Except.bind, blank'.readKind_eq, read, within]
            rfl
      · obtain ⟨rfl, later⟩ := (Gathered.puts_other_iff named).mp puts
        rcases ih later with reads | ⟨rfl, passes, unknown⟩
        · left
          intro rest ends
          rw [Gathered.member?_cons, if_neg named, reads rest ends]
          rfl
        · refine .inr ⟨rfl, passes, fun bytes => ?_⟩
          rw [Gathered.member?_cons, if_neg named, unknown]
          rfl

theorem isTaken_member (fields : List Field) {m : String × Bytes} (enough : m.2.length ≤ bound) :
    IsTaken (Gathered.member bound depth fields) (Gathered.Puts depth fields) m := by
  intro gathered gathered' value puts assigned rest ends
  rcases puts.member?_eq assigned enough with reads | ⟨rfl, passes, unknown⟩
  · rw [Gathered.member, reads rest ends]
  · cases assigned with
    | @colon before between blank blank' =>
        rw [Gathered.member, unknown, List.append_assoc, List.cons_append, List.append_assoc]
        simp only [blank.readColon_eq, bind, Except.bind, passes.skipValue_eq blank' enough ends,
          within]

theorem runs_puts_nil_iff {members : List (String × Bytes)} {gathered gathered' : Gathered []} :
    Runs (Gathered.Puts depth []) gathered members gathered' ↔ ∀ m ∈ members, Passes none m.2 := by
  induction members generalizing gathered with
  | nil => exact ⟨fun _ => List.forall_mem_nil _, fun _ => .nil⟩
  | cons m members ih =>
      rw [List.forall_mem_cons, ← @ih gathered]
      constructor
      · intro runs
        obtain ⟨_, now, later⟩ := runs_cons_iff.mp runs
        exact ⟨now, later⟩
      · rintro ⟨now, later⟩
        exact .cons now later

/-- A field changes with the members of its name, and the others with the rest of them. -/
theorem runs_puts_cons_iff {f : Field} {slot slot' : Option f.kind.Holds}
    {more more' : Gathered fields} {members : List (String × Bytes)} :
    Runs (Gathered.Puts depth (f :: fields)) (slot, more) members (slot', more') ↔
      (members.filter (·.1 = f.name) = [] ∧ slot' = slot ∨
        ∃ m held, members.filter (·.1 = f.name) = [m] ∧ slot = none ∧ slot' = some held ∧
          f.kind.Spells depth held m.2) ∧
      Runs (Gathered.Puts depth fields) more (members.filter (·.1 ≠ f.name)) more' := by
  induction members generalizing slot more with
  | nil =>
      constructor
      · intro runs
        cases runs_nil_iff.mp runs
        exact ⟨.inl ⟨rfl, rfl⟩, .nil⟩
      · rintro ⟨⟨-, rfl⟩ | ⟨m, held, one, -⟩, runs⟩
        · cases runs_nil_iff.mp runs
          exact .nil
        · cases one
  | cons m members ih =>
      by_cases named : m.1 = f.name
      · -- The field holds something behind its member, so a further one of its name is not taken.
        simp only [List.filter_cons, named, decide_true, if_true, ne_eq, not_true_eq_false,
          decide_false, Bool.false_eq_true, if_false]
        constructor
        · intro runs
          obtain ⟨⟨slot₁, more₁⟩, now, later⟩ := runs_cons_iff.mp runs
          obtain ⟨rfl, rfl, held, rfl, spells⟩ := (Gathered.puts_named_iff named).mp now
          obtain ⟨⟨alone, rfl⟩ | ⟨_, _, _, full, _⟩, others⟩ := ih.mp later
          · exact ⟨.inr ⟨m, held, by rw [alone], rfl, rfl, spells⟩, others⟩
          · cases full
        · rintro ⟨⟨full, -⟩ | ⟨m', held, one, rfl, rfl, spells⟩, runs⟩
          · cases full
          · obtain ⟨rfl, alone⟩ := List.cons.inj one
            have now : Gathered.Puts depth (f :: fields) (none, more) m (some held, more) :=
              (Gathered.puts_named_iff named).mpr ⟨rfl, rfl, held, rfl, spells⟩
            exact .cons now (ih.mpr ⟨.inl ⟨alone, rfl⟩, runs⟩)
      · simp only [List.filter_cons, named, decide_false, Bool.false_eq_true, if_false,
          ne_eq, not_false_eq_true, decide_true, if_true]
        constructor
        · intro runs
          obtain ⟨⟨slot₁, more₁⟩, now, later⟩ := runs_cons_iff.mp runs
          obtain ⟨rfl, puts⟩ := (Gathered.puts_other_iff named).mp now
          obtain ⟨ours, others⟩ := ih.mp later
          exact ⟨ours, .cons puts others⟩
        · rintro ⟨ours, runs⟩
          obtain ⟨more₁, now, runs⟩ := runs_cons_iff.mp runs
          have now' : Gathered.Puts depth (f :: fields) (slot, more) m (slot, more₁) :=
            (Gathered.puts_other_iff named).mpr ⟨rfl, now⟩
          exact .cons now' (ih.mpr ⟨ours, runs⟩)

theorem Gathered.slots_eq_ok_iff {f : Field} {slot : Option f.kind.Holds} {more : Gathered fields}
    {held : f.kind.Holds} {slots : Slots fields} :
    Gathered.slots (f :: fields) (slot, more) = .ok (held, slots) ↔
      slot.or f.whenMissing = some held ∧ Gathered.slots fields more = .ok slots := by
  rw [Gathered.slots_cons]
  cases slot.or f.whenMissing with
  | none => exact ⟨nofun, nofun⟩
  | some held' =>
      cases Gathered.slots fields more with
      | error fault => exact ⟨nofun, nofun⟩
      | ok slots' =>
          change Except.ok (held', slots') = Except.ok (held, slots) ↔ some held' = some held ∧ _
          rw [Except.ok.injEq, Prod.mk.injEq, Option.some.injEq, Except.ok.injEq]

/-- All fields hold something in the end, each what the members of its name tell. -/
theorem runs_gathered_iff {members : List (String × Bytes)} {slots : Slots fields} :
    (∃ gathered, Runs (Gathered.Puts depth fields) (Gathered.empty fields) members gathered ∧
      gathered.slots fields = .ok slots) ↔ Slots.Among depth fields members slots := by
  induction fields generalizing members with
  | nil =>
      constructor
      · rintro ⟨_, runs, -⟩
        exact runs_puts_nil_iff.mp runs
      · intro all
        exact ⟨(), runs_puts_nil_iff.mpr all, rfl⟩
  | cons f fields ih =>
      obtain ⟨held, slots⟩ := slots
      constructor
      · rintro ⟨⟨slot, more⟩, runs, filled⟩
        obtain ⟨ours, runs⟩ := runs_puts_cons_iff.mp runs
        obtain ⟨holds, filled⟩ := Gathered.slots_eq_ok_iff.mp filled
        refine ⟨?_, ih.mp ⟨more, runs, filled⟩⟩
        rcases ours with ⟨empty, rfl⟩ | ⟨m, held', one, -, rfl, spells⟩
        · rw [empty]
          exact .missing holds
        · cases holds
          rw [one]
          exact .once spells
      · rintro ⟨ours, others⟩
        obtain ⟨more, runs, filled⟩ := ih.mpr others
        generalize named : members.filter (·.1 = f.name) = found at ours
        cases ours with
        | @once m held spells =>
            exact ⟨(some held, more), runs_puts_cons_iff.mpr
              ⟨.inr ⟨m, held, named, rfl, rfl, spells⟩, runs⟩,
              Gathered.slots_eq_ok_iff.mpr ⟨rfl, filled⟩⟩
        | missing stands =>
            exact ⟨(none, more), runs_puts_cons_iff.mpr ⟨.inl ⟨named, rfl⟩, runs⟩,
              Gathered.slots_eq_ok_iff.mpr ⟨stands, filled⟩⟩

end Members

end CommandBridge.Json
