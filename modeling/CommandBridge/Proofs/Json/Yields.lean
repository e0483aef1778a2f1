import CommandBridge.Proofs.Json.Records

/-! What reading yields. A value that is read is nested no deeper than the reader may go, and its
objects are in order; so is every value in a field of a record that is read. -/
namespace CommandBridge.Json

theorem readItems_yields {α : Type} {P : α → Prop} {item : Bytes → Except ReadError (α × Bytes)}
    (yields : ∀ bytes a rest, item bytes = .ok (a, rest) → P a) {bound : Nat} {found items : List α}
    {bytes rest : Bytes} (before : ∀ a ∈ found, P a)
    (read : readItems item bound found bytes = .ok (items, rest)) : ∀ a ∈ items, P a := by
  induction bound generalizing found bytes with
  | zero => cases read
  | succ bound ih =>
      rw [readItems] at read
      obtain ⟨⟨a, behind⟩, first, read⟩ := bind_ok read
      have more : ∀ a' ∈ a :: found, P a' :=
        List.forall_mem_cons.mpr ⟨yields bytes a behind first, before⟩
      dsimp only at read
      split at read
      · cases read
      split at read
      · cases read
        intro a' within
        exact more a' (List.mem_reverse.mp within)
      split at read
      · split at read
        · cases read
        split at read
        · cases read
        · exact ih more read
      · cases read

theorem readArray_yields {α : Type} {P : α → Prop} {item : Bytes → Except ReadError (α × Bytes)}
    (yields : ∀ bytes a rest, item bytes = .ok (a, rest) → P a) {bound : Nat} {items : List α}
    {bytes rest : Bytes} (read : readArray item bound bytes = .ok (items, rest)) :
    ∀ a ∈ items, P a := by
  unfold readArray at read
  split at read
  · cases read
  split at read
  · cases read
    exact List.forall_mem_nil P
  · exact readItems_yields yields (List.forall_mem_nil P) read

theorem readMembers_yields {σ : Type} {P : σ → Prop}
    {member : σ → String → Bytes → Except ReadError (σ × Bytes)}
    (yields : ∀ kept key bytes kept' rest, P kept → member kept key bytes = .ok (kept', rest) →
      P kept')
    {bound : Nat} {kept all : σ} {bytes rest : Bytes} (before : P kept)
    (read : readMembers member bound kept bytes = .ok (all, rest)) : P all := by
  induction bound generalizing kept bytes with
  | zero => cases read
  | succ bound ih =>
      rw [readMembers] at read
      obtain ⟨⟨key, behind⟩, -, read⟩ := bind_ok read
      obtain ⟨⟨kept', behind'⟩, put, read⟩ := bind_ok read
      have more := yields kept key behind kept' behind' before put
      dsimp only at read
      split at read
      · cases read
      split at read
      · cases read
        exact more
      split at read
      · split at read
        · cases read
        split at read
        · exact ih more read
        split at read <;> cases read
      · cases read

theorem readObject_yields {σ : Type} {P : σ → Prop}
    {member : σ → String → Bytes → Except ReadError (σ × Bytes)}
    (yields : ∀ kept key bytes kept' rest, P kept → member kept key bytes = .ok (kept', rest) →
      P kept')
    {bound : Nat} {kept all : σ} {bytes rest : Bytes} (before : P kept)
    (read : readObject member bound kept bytes = .ok (all, rest)) : P all := by
  unfold readObject at read
  split at read
  · cases read
  split at read
  · cases read
    exact before
  split at read
  · exact readMembers_yields yields before read
  · cases read

theorem readScalar_yields {b : UInt8} {bytes rest : Bytes} {v : Json}
    (read : readScalar b bytes = .ok (v, rest)) (depth : Nat) : Nested depth v := by
  unfold readScalar at read
  split at read
  · obtain ⟨⟨s, _⟩, -, same⟩ := bind_ok read
    cases same
    exact .string s
  split at read
  · obtain ⟨⟨n, _⟩, -, same⟩ := bind_ok read
    cases same
    exact .number n
  split at read
  · obtain ⟨⟨n, _⟩, -, same⟩ := bind_ok read
    cases same
    exact .number n
  split at read
  · obtain ⟨_, -, same⟩ := bind_ok read
    cases same
    exact .null
  split at read
  · obtain ⟨_, -, same⟩ := bind_ok read
    cases same
    exact .bool true
  split at read
  · obtain ⟨_, -, same⟩ := bind_ok read
    cases same
    exact .bool false
  · cases read

theorem readMember_yields {bound depth : Nat} (yields : ∀ bytes v rest,
      readValue bound depth bytes = .ok (v, rest) → Nested depth v)
    {members members' : List (String × Json)} {key : String} {bytes rest : Bytes}
    (before : InOrder members ∧ ∀ m ∈ members, Nested depth m.2)
    (read : readMember bound depth members key bytes = .ok (members', rest)) :
    InOrder members' ∧ ∀ m ∈ members', Nested depth m.2 := by
  obtain ⟨behind, -, read⟩ := bind_ok read
  obtain ⟨⟨v, behind'⟩, value, same⟩ := bind_ok read
  cases same
  refine ⟨inOrder_insert before.1 key v, fun m within => ?_⟩
  rcases mem_insert within with rfl | among
  · exact yields behind v _ value
  · exact before.2 m among

/-- A value that is read is nested no deeper than the reader may go. -/
theorem readValue_yields {bound depth : Nat} {bytes rest : Bytes} {v : Json}
    (read : readValue bound depth bytes = .ok (v, rest)) : Nested depth v := by
  induction depth generalizing bytes v rest with
  | zero =>
      unfold readValue at read
      split at read
      · cases read
      split at read
      · cases read
      split at read
      · cases read
      · exact readScalar_yields read 0
  | succ depth ih =>
      have yields : ∀ bytes v rest, readValue bound depth bytes = .ok (v, rest) → Nested depth v :=
        fun _ _ _ => ih
      unfold readValue at read
      split at read
      · cases read
      split at read
      · obtain ⟨⟨items, behind⟩, array, same⟩ := bind_ok read
        cases same
        exact .array (readArray_yields yields array)
      split at read
      · obtain ⟨⟨members, behind⟩, object, same⟩ := bind_ok read
        cases same
        have kept : InOrder members ∧ ∀ m ∈ members, Nested depth m.2 :=
          readObject_yields (P := fun members => InOrder members ∧ ∀ m ∈ members, Nested depth m.2)
            (fun _ _ _ _ _ before read => readMember_yields yields before read)
            ⟨List.Pairwise.nil, List.forall_mem_nil _⟩ object
        exact .object kept.1 kept.2
      · exact readScalar_yields read _

/-- What a field of a kind may hold: values that are nested no deeper than so. -/
def Kind.Keeps (depth : Nat) : (kind : Kind) → kind.Holds → Prop
  | .any, v => Nested depth v
  | .list, items => Nested depth (.array items)
  | .text, _ => True
  | .textOrNull, _ => True

theorem Kind.read_yields {kind : Kind} {bound depth : Nat} {bytes rest : Bytes} {held : kind.Holds}
    (read : kind.read bound depth bytes = .ok (held, rest)) : kind.Keeps depth held := by
  cases kind with
  | text => trivial
  | any => exact readValue_yields read
  | list =>
      simp only [Kind.read] at read
      split at read
      · cases read
      split at read
      · split at read
        · cases read
        · exact .array (readArray_yields (fun _ _ _ => readValue_yields) read)
      · cases read
  | textOrNull => trivial

theorem Kind.ofJson?_keeps {kind : Kind} {depth : Nat} {v : Json} {held : kind.Holds}
    (nested : Nested depth v) (holds : kind.ofJson? v = some held) : kind.Keeps depth held := by
  cases kind with
  | text => trivial
  | any =>
      obtain rfl : v = held := Option.some.inj holds
      exact nested
  | list =>
      cases v with
      | array items =>
          obtain rfl : items = held := Option.some.inj holds
          exact nested
      | _ => cases holds
  | textOrNull => trivial

theorem of_within {α : Type} {part : Part} {reading : Except ReadError α} {a : α}
    (read : within part reading = .ok a) : reading = .ok a := by
  cases reading with
  | error e => cases read
  | ok a' => exact read

def Slots.Keep (depth : Nat) : (fields : List Field) → Slots fields → Prop
  | [], _ => True
  | f :: fields, (held, slots) => f.kind.Keeps depth held ∧ Slots.Keep depth fields slots

def Gathered.Keep (depth : Nat) : (fields : List Field) → Gathered fields → Prop
  | [], _ => True
  | f :: fields, (slot, more) =>
      (∀ held ∈ slot, f.kind.Keeps depth held) ∧ Gathered.Keep depth fields more

def DefaultsKeep (depth : Nat) (fields : List Field) : Prop :=
  ∀ f ∈ fields, ∀ held ∈ f.whenMissing, f.kind.Keeps depth held

theorem Gathered.keep_empty (depth : Nat) (fields : List Field) :
    Gathered.Keep depth fields (Gathered.empty fields) := by
  induction fields with
  | nil => trivial
  | cons f fields ih => exact ⟨nofun, ih⟩

theorem Gathered.member?_keep {bound depth : Nat} {fields : List Field}
    {gathered gathered' : Gathered fields} {key : String} {bytes rest : Bytes}
    (keep : Gathered.Keep depth fields gathered)
    (read : Gathered.member? bound depth fields gathered key bytes = some (.ok (gathered', rest))) :
    Gathered.Keep depth fields gathered' := by
  induction fields with
  | nil => cases read
  | cons f fields ih =>
      obtain ⟨slot, more⟩ := gathered
      rw [Gathered.member?_cons] at read
      split at read
      · cases slot with
        | some _ => cases read
        | none =>
            obtain ⟨behind, -, read⟩ := bind_ok (Option.some.inj read)
            obtain ⟨⟨held, behind'⟩, value, same⟩ := bind_ok read
            cases same
            refine ⟨?_, keep.2⟩
            rintro _ ⟨⟩
            exact Kind.read_yields (of_within value)
      · obtain ⟨reading, found, same⟩ := Option.map_eq_some_iff.mp read
        cases reading with
        | error e => cases same
        | ok r =>
            cases same
            exact ⟨keep.1, ih keep.2 found⟩

theorem Gathered.member_keep {bound depth : Nat} {fields : List Field}
    {gathered gathered' : Gathered fields} {key : String} {bytes rest : Bytes}
    (keep : Gathered.Keep depth fields gathered)
    (read : Gathered.member bound depth fields gathered key bytes = .ok (gathered', rest)) :
    Gathered.Keep depth fields gathered' := by
  unfold Gathered.member at read
  split at read
  · rename_i reading found
    subst reading
    exact Gathered.member?_keep keep found
  · obtain ⟨behind, -, read⟩ := bind_ok read
    obtain ⟨behind', -, same⟩ := bind_ok read
    cases same
    exact keep

theorem Gathered.slots_cons (f : Field) (fields : List Field) (slot : Option f.kind.Holds)
    (more : Gathered fields) : Gathered.slots (f :: fields) (slot, more) =
      match slot.or f.whenMissing with
      | some held => (Gathered.slots fields more).map fun slots => (held, slots)
      | none => .error (.missingField f.name) := rfl

theorem Gathered.slots_keep {depth : Nat} {fields : List Field} {gathered : Gathered fields}
    {slots : Slots fields} (keep : Gathered.Keep depth fields gathered)
    (defaults : DefaultsKeep depth fields) (filled : gathered.slots fields = .ok slots) :
    Slots.Keep depth fields slots := by
  induction fields with
  | nil => trivial
  | cons f fields ih =>
      obtain ⟨slot, more⟩ := gathered
      obtain ⟨first, defaults⟩ := List.forall_mem_cons.mp defaults
      rw [Gathered.slots_cons] at filled
      split at filled
      · rename_i held found
        cases behind : Gathered.slots fields more with
        | error fault => rw [behind] at filled; cases filled
        | ok slots' =>
            rw [behind] at filled
            cases filled
            refine ⟨?_, ih keep.2 defaults behind⟩
            cases slot with
            | some held' => exact keep.1 held found
            | none => exact first held found
      · cases filled

theorem Slots.readItems_keep {bound depth : Nat} {expected : String} {fields : List Field}
    {index : Nat} {bytes rest : Bytes} {slots : Slots fields} (defaults : DefaultsKeep depth fields)
    (read : Slots.readItems bound depth expected fields index bytes = .ok (slots, rest)) :
    Slots.Keep depth fields slots := by
  induction fields generalizing index bytes with
  | nil => trivial
  | cons f fields ih =>
      obtain ⟨first, defaults⟩ := List.forall_mem_cons.mp defaults
      rw [Slots.readItems] at read
      obtain ⟨next, -, read⟩ := bind_ok read
      cases next with
      | some bytes =>
          obtain ⟨⟨held, behind⟩, value, read⟩ := bind_ok read
          obtain ⟨⟨slots', behind'⟩, more, same⟩ := bind_ok read
          cases same
          exact ⟨Kind.read_yields (of_within value), ih defaults more⟩
      | none =>
          dsimp only at read
          split at read
          · rename_i held _ missing
            obtain ⟨⟨slots', behind'⟩, more, same⟩ := bind_ok read
            cases same
            exact ⟨first held missing, ih defaults more⟩
          · cases read

/-- What a record that is read holds is nested no deeper than the reader may go inside the
record. -/
theorem Schema.read_keeps {s : Schema} {bytes : Bytes} {slots : Slots s.fields}
    (defaults : DefaultsKeep (depthLimit - 1) s.fields) (read : s.read bytes = .ok slots) :
    Slots.Keep (depthLimit - 1) s.fields slots := by
  obtain ⟨rest, read, -⟩ := of_whole read
  split at read
  · cases read
  split at read
  · exact Slots.readItems_keep defaults read
  split at read
  · obtain ⟨⟨gathered, behind⟩, object, read⟩ := bind_ok read
    have keep : Gathered.Keep (depthLimit - 1) s.fields gathered :=
      readObject_yields (P := Gathered.Keep (depthLimit - 1) s.fields)
        (fun _ _ _ _ _ before read => Gathered.member_keep before read)
          (Gathered.keep_empty _ _) object
    dsimp only at read
    split at read
    · cases read
      exact Gathered.slots_keep keep defaults ‹_›
    · cases read
  · cases read

theorem find?_mem {name : String} {members : List (String × Json)} {v : Json}
    (found : find? name members = some v) : ∃ m ∈ members, m.2 = v := by
  obtain ⟨m, first, same⟩ := Option.map_eq_some_iff.mp found
  exact ⟨m, List.mem_of_find?_eq_some first, same⟩

theorem Slots.ofMembers?_keep {depth : Nat} {fields : List Field} {members : List (String × Json)}
    {slots : Slots fields} (nested : ∀ m ∈ members, Nested depth m.2)
    (defaults : DefaultsKeep depth fields) (read : Slots.ofMembers? fields members = some slots) :
    Slots.Keep depth fields slots := by
  induction fields with
  | nil => trivial
  | cons f fields ih =>
      obtain ⟨first, defaults⟩ := List.forall_mem_cons.mp defaults
      rw [Slots.ofMembers?] at read
      split at read
      · rename_i v found
        obtain ⟨held, holds, read⟩ := Option.bind_eq_some_iff.mp read
        obtain ⟨slots', more, same⟩ := Option.bind_eq_some_iff.mp read
        cases same
        obtain ⟨m, within, rfl⟩ := find?_mem found
        exact ⟨Kind.ofJson?_keeps (nested m within) holds, ih defaults more⟩
      · obtain ⟨held, missing, read⟩ := Option.bind_eq_some_iff.mp read
        obtain ⟨slots', more, same⟩ := Option.bind_eq_some_iff.mp read
        cases same
        exact ⟨first held missing, ih defaults more⟩

theorem Slots.ofItems?_keep {depth : Nat} {fields : List Field} {items : List Json}
    {slots : Slots fields} (nested : ∀ v ∈ items, Nested depth v)
    (defaults : DefaultsKeep depth fields) (read : Slots.ofItems? fields items = some slots) :
    Slots.Keep depth fields slots := by
  induction fields generalizing items with
  | nil => trivial
  | cons f fields ih =>
      obtain ⟨first, defaults⟩ := List.forall_mem_cons.mp defaults
      cases items with
      | nil =>
          rw [Slots.ofItems?] at read
          split at read
          · obtain ⟨held, missing, read⟩ := Option.bind_eq_some_iff.mp read
            obtain ⟨slots', more, same⟩ := Option.bind_eq_some_iff.mp read
            cases same
            exact ⟨first held missing, ih nested defaults more⟩
          · cases read
      | cons v items =>
          rw [Slots.ofItems?] at read
          obtain ⟨held, holds, read⟩ := Option.bind_eq_some_iff.mp read
          obtain ⟨slots', more, same⟩ := Option.bind_eq_some_iff.mp read
          cases same
          exact ⟨Kind.ofJson?_keeps (nested v List.mem_cons_self) holds,
            ih (fun w within => nested w (List.mem_cons_of_mem v within)) defaults more⟩

/-- What a record holds is nested less deep than the value that it is read from. -/
theorem Schema.ofJson?_keeps {s : Schema} {depth : Nat} {v : Json} {slots : Slots s.fields}
    (nested : Nested (depth + 1) v) (defaults : DefaultsKeep depth s.fields)
    (read : s.ofJson? v = some slots) : Slots.Keep depth s.fields slots := by
  cases v with
  | object members => exact Slots.ofMembers?_keep nested.members.2 defaults read
  | array items => exact Slots.ofItems?_keep nested.items defaults read
  | _ => cases read

end CommandBridge.Json
