import CommandBridge.Proofs.Json.ReadBack

/-! Records that were written are read back. A text of members is read as the members are put, one
after the other, to the fields that they name, and this is said of values alone. -/
namespace CommandBridge.Json

/-- Puts a member to the field of its key, which holds nothing yet; nothing when there is no such
field or it does not hold such values. -/
def Gathered.put? :
    (fields : List Field) → Gathered fields → String × Json → Option (Gathered fields)
  | [], _, _ => none
  | f :: fields, (slot, more), m =>
    if m.1 = f.name then
      match slot with
      | some _ => none
      | none => (f.kind.ofJson? m.2).map fun held => (some held, more)
    else (Gathered.put? fields more m).map fun more => (slot, more)

theorem Gathered.put?_cons (f : Field) (fields : List Field) (slot : Option f.kind.Holds)
    (more : Gathered fields) (m : String × Json) :
    Gathered.put? (f :: fields) (slot, more) m =
      if m.1 = f.name then
        match slot with
        | some _ => none
        | none => (f.kind.ofJson? m.2).map fun held => (some held, more)
      else (Gathered.put? fields more m).map fun more => (slot, more) := rfl

def Slots.gather? (fields : List Field) (members : List (String × Json)) :
    Option (Slots fields) := do
  let gathered ← members.foldlM (Gathered.put? fields) (Gathered.empty fields)
  (gathered.slots fields).toOption

theorem readText_string (s : String) (rest : Bytes) :
    readText (wire (.string s) ++ rest) = .ok (s, rest) := by
  have quote := skipBlanks_cons (b := Octet.quote) (by decide) (inner s ++ Octet.quote :: rest)
  have octets : wire (.string s) ++ rest = Octet.quote :: (inner s ++ Octet.quote :: rest) := by
    simp [wire_string]
  rw [octets, readText, quote]
  simp only [if_true, inner, readString_encode]

/-- What a field holds of a value is read from the octets of the value. -/
theorem Kind.read_wire {kind : Kind} {v : Json} {held : kind.Holds}
    (holds : kind.ofJson? v = some held) {bound depth : Nat} (nested : Nested depth v)
    (doubles : DoublesReadBack v) (enough : (wire v).length ≤ bound) :
    Gets (kind.read bound depth) (wire v) held := by
  intro rest ends
  cases kind with
  | text =>
      cases v with
      | string s =>
          obtain rfl : s = held := Option.some.inj holds
          exact readText_string s rest
      | _ => cases holds
  | any => cases holds; exact readValue_wire nested doubles enough rest ends
  | list =>
      cases v with
      | array items =>
          obtain rfl : items = held := Option.some.inj holds
          cases nested with
          | @array depth _ all =>
              obtain ⟨octets, begins, reads⟩ := readArray_wire enough fun v within =>
                readValue_wire (all v within) (doubles.item within) ((fits_array enough).2 v within)
              rw [begins, List.cons_append, Kind.read, skipBlanks_cons (by decide)]
              simp only [if_true, reads]
      | _ => cases holds
  | textOrNull =>
      cases v with
      | null => cases holds; rfl
      | string s =>
          obtain rfl : some s = held := Option.some.inj holds
          have read := readText_string s rest
          have noLetter : Octet.quote ≠ Octet.smallN := by decide
          rw [wire_string, List.cons_append] at read ⊢
          rw [Kind.read, skipBlanks_cons (by decide)]
          simp only [if_neg noLetter, read]
          rfl
      | _ => cases holds

theorem Gathered.member?_cons (bound depth : Nat) (f : Field) (fields : List Field)
    (slot : Option f.kind.Holds) (more : Gathered fields) (key : String) (bytes : Bytes) :
    Gathered.member? bound depth (f :: fields) (slot, more) key bytes =
      if key = f.name then
        some <|
          match slot with
          | some _ => fail (.duplicateField f.name) (givenUp bytes)
          | none => readColon bytes >>= fun rest =>
            within (.member key) (f.kind.read bound depth rest) >>= fun read =>
              .ok ((some read.1, more), read.2)
      else (Gathered.member? bound depth fields more key bytes).map fun reading =>
        reading.map fun r => ((slot, r.1), r.2) := rfl

theorem Gathered.member?_wire {fields : List Field} {gathered gathered' : Gathered fields}
    {m : String × Json} (put : Gathered.put? fields gathered m = some gathered') {bound depth : Nat}
    (nested : Nested depth m.2) (doubles : DoublesReadBack m.2) (enough : (wire m.2).length ≤ bound)
    {rest : Bytes} (ends : EndsNumber rest) :
    Gathered.member? bound depth fields gathered m.1 (Octet.colon :: (wire m.2 ++ rest)) =
      some (.ok (gathered', rest)) := by
  induction fields with
  | nil => cases put
  | cons f fields ih =>
      obtain ⟨slot, more⟩ := gathered
      rw [Gathered.put?_cons] at put
      rw [Gathered.member?_cons]
      split at put
      · rw [if_pos ‹_›]
        cases slot with
        | some _ => cases put
        | none =>
            obtain ⟨held, holds, rfl⟩ := Option.map_eq_some_iff.mp put
            have read := Kind.read_wire holds nested doubles enough rest ends
            simp only [readColon_colon, bind, Except.bind, read, within]
            rfl
      · rw [if_neg ‹_›]
        obtain ⟨more', behind, rfl⟩ := Option.map_eq_some_iff.mp put
        rw [ih behind]
        rfl

theorem Schema.read_wire {s : Schema} {members : List (String × Json)} {slots : Slots s.fields}
    (gathers : Slots.gather? s.fields members = some slots)
    (nested : ∀ m ∈ members, Nested (depthLimit - 1) m.2)
    (doubles : ∀ m ∈ members, DoublesReadBack m.2) :
    s.read (wire (.object members)) = .ok slots := by
  obtain ⟨gathered, puts, filled⟩ := Option.bind_eq_some_iff.mp gathers
  have enough := Nat.le_refl (wire (.object members)).length
  obtain ⟨octets, begins, reads⟩ :
      ∃ octets, wire (.object members) = Octet.openBrace :: octets ∧ ∀ rest,
        readObject (Gathered.member (wire (.object members)).length (depthLimit - 1) s.fields)
          (wire (.object members)).length (Gathered.empty s.fields) (octets ++ rest) =
              .ok (gathered, rest) := by
    refine readObject_wire enough (fun m among kept kept' put rest ends => ?_) puts
    rw [List.cons_append, Gathered.member, Gathered.member?_wire put (nested m among)
      (doubles m among)
      ((fits_object enough).2 m among) ends]
  have noBracket : Octet.openBrace ≠ Octet.openBracket := by decide
  have read := reads []
  rw [List.append_nil] at read
  cases full : gathered.slots s.fields with
  | error fault => rw [full] at filled; cases filled
  | ok slots' =>
      rw [full] at filled
      cases filled
      rw [Schema.read, begins, skipBlanks_cons (by decide)]
      rw [begins] at read
      simp only [if_neg noBracket, if_true, bind, Except.bind, read, full]
      rfl

namespace Record

variable {α : Type} {record : Record α} {r : α}

/-- A record is the one that its members are gathered to. -/
def Gathers (record : Record α) (r : α) : Prop :=
  (Slots.gather? record.schema.fields (record.members r)).map record.ofSlots = some r

theorem read_text (gathers : record.Gathers r)
    (nested : ∀ m ∈ record.members r, Nested (depthLimit - 1) m.2)
    (doubles : ∀ m ∈ record.members r, DoublesReadBack m.2) :
    record.read (octets (record.text r)) = .ok r := by
  obtain ⟨slots, gathered, same⟩ := Option.map_eq_some_iff.mp gathers
  rw [Record.text, octets_render, Record.read, Schema.read_wire gathered nested doubles, ← same]
  rfl

end Record

theorem find?_insert (name key : String) (value : Json) (members : List (String × Json)) :
    find? name (insert key value members) = if key = name then some value
      else find? name members := by
  induction members with
  | nil =>
      by_cases same : key = name <;> simp [insert, find?, same]
  | cons first rest ih =>
      obtain ⟨k, v⟩ := first
      rw [insert]
      split
      · by_cases same : key = name <;> simp [find?, same]
      split
      · subst key
        by_cases same : k = name <;> simp [find?, same]
      · rename_i notLess other
        by_cases same : k = name
        · subst name
          have other' : ¬ key = k := other
          simp [find?, other']
        · have front : ∀ rest : List (String × Json), find? name ((k, v) :: rest) =
              find? name rest := by
            simp [find?, same]
          rw [front, front, ih]

theorem find?_cons (name : String) (m : String × Json) (members : List (String × Json)) :
    find? name (m :: members) = if m.1 = name then some m.2 else find? name members := by
  by_cases same : m.1 = name <;> simp [find?, same]

/-- An object holds what it was built of, when no two members have one key. -/
theorem find?_foldl_insert (name : String) {sorted members : List (String × Json)}
    (distinct : members.Pairwise fun a b => a.1 ≠ b.1) :
    find? name (members.foldl (fun sorted m => insert m.1 m.2 sorted) sorted) =
      (find? name members).or (find? name sorted) := by
  induction members generalizing sorted with
  | nil => rfl
  | cons m members ih =>
      obtain ⟨other, distinct⟩ := List.pairwise_cons.mp distinct
      rw [List.foldl_cons, ih distinct, find?_insert, find?_cons]
      by_cases same : m.1 = name
      · have absent : find? name members = none := by
          rw [find?, List.find?_eq_none.mpr, Option.map_none]
          intro l within
          simpa using fun equal => other l within (same.trans equal.symm)
        rw [if_pos same, if_pos same, absent, Option.none_or, Option.some_or]
      · rw [if_neg same, if_neg same]

theorem Slots.ofMembers?_congr {fields : List Field} {members members' : List (String × Json)}
    (same : ∀ f ∈ fields, find? f.name members = find? f.name members') :
    Slots.ofMembers? fields members = Slots.ofMembers? fields members' := by
  induction fields with
  | nil => rfl
  | cons f fields ih =>
      obtain ⟨first, rest⟩ := List.forall_mem_cons.mp same
      rw [Slots.ofMembers?, Slots.ofMembers?, first, ih rest]

/-- A record is read from its value as from its members in the order in which they are written. -/
theorem Record.ofJson?_toJson {α : Type} {record : Record α} {r : α}
    (distinct : (record.members r).Pairwise fun a b => a.1 ≠ b.1) :
    record.ofJson? (record.toJson r) =
      (Slots.ofMembers? record.schema.fields (record.members r)).map record.ofSlots := by
  refine congrArg (Option.map record.ofSlots) (Slots.ofMembers?_congr fun f _ => ?_)
  rw [find?_foldl_insert f.name distinct]
  exact Option.or_none

end CommandBridge.Json
