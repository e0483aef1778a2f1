import CommandBridge.Proofs.Json.Nested
import CommandBridge.Proofs.Json.NumberText

/-! A value that was written is read back. Its octets are read from the front; what is left of them
then is what stands behind the value, so that items and members can be read one after the other. -/
namespace CommandBridge.Json

def inner (s : String) : Bytes := Utf8.encode (s.toList.flatMap escape)

/-- The octets of all items but the first one. -/
def itemsWire (items : List Json) : Bytes := Utf8.encode (itemsText items)

def membersWire (members : List (String × Json)) : Bytes := Utf8.encode (membersText members)

/-- The octets of a member from behind the opening quote of its key on. -/
def memberWire (m : String × Json) : Bytes := inner m.1 ++ Octet.quote :: Octet.colon :: wire m.2

theorem octets_render (v : Json) : octets v.render = v.wire := by
  rw [octets, render, String.toList_ofList, wire]

theorem wire_string (s : String) :
    wire (.string s) = Octet.quote :: (inner s ++ [Octet.quote]) := by
  rw [wire, text, encode_quoted, inner]

theorem wire_array (v : Json) (items : List Json) : wire (.array (v :: items)) =
    Octet.openBracket :: (wire v ++ (itemsWire items ++ [Octet.closeBracket])) := by
  rw [wire, text, Utf8.encode_cons, Utf8.encode_append, Utf8.encode_append]
  rfl

theorem itemsWire_cons (v : Json) (items : List Json) :
    itemsWire (v :: items) = Octet.comma :: (wire v ++ itemsWire items) := by
  rw [itemsWire, itemsText, Utf8.encode_cons, Utf8.encode_append]
  rfl

theorem encode_member (m : String × Json) :
    Utf8.encode (quoted m.1 ++ ':' :: text m.2) = Octet.quote :: memberWire m := by
  rw [Utf8.encode_append, encode_quoted, Utf8.encode_cons, memberWire, inner, wire]
  simp only [List.cons_append, List.append_assoc, List.nil_append]
  rfl

theorem wire_object (m : String × Json) (members : List (String × Json)) :
    wire (.object (m :: members)) =
      Octet.openBrace :: Octet.quote ::
        (memberWire m ++ (membersWire members ++ [Octet.closeBrace])) := by
  have parts : text (.object (m :: members)) =
      '{' :: ((quoted m.1 ++ ':' :: text m.2) ++ (membersText members ++ ['}'])) := by
    rw [text]
    simp
  rw [wire, parts, Utf8.encode_cons, Utf8.encode_append, encode_member, Utf8.encode_append]
  rfl

theorem membersWire_cons (m : String × Json) (members : List (String × Json)) :
    membersWire (m :: members) =
      Octet.comma :: Octet.quote :: (memberWire m ++ membersWire members) := by
  have parts : membersText (m :: members) =
      ',' :: ((quoted m.1 ++ ':' :: text m.2) ++ membersText members) := by
    rw [membersText]
    simp
  rw [membersWire, parts, Utf8.encode_cons, Utf8.encode_append, encode_member]
  rfl

/-- A text that begins as a value may: with no blank, and with nothing that ends an array. -/
def Begins (bytes : Bytes) : Prop :=
  ∃ b tail, bytes = b :: tail ∧ isBlank b = false ∧ b ≠ Octet.closeBracket

theorem begins_cons {b : UInt8} {tail : Bytes}
    (octet : isBlank b = false ∧ b ≠ Octet.closeBracket) :
    Begins (b :: tail) := ⟨b, tail, rfl, octet⟩

theorem Begins.append {bytes : Bytes} (begins : Begins bytes) (rest : Bytes) :
    Begins (bytes ++ rest) := by
  obtain ⟨b, tail, rfl, octet⟩ := begins
  exact begins_cons octet

theorem begins_wire (v : Json) : Begins (wire v) := by
  cases v with
  | null => exact begins_cons (by decide)
  | bool b => cases b <;> exact begins_cons (by decide)
  | number n =>
      cases digits : numberText n with
      | nil => exact absurd digits (numberText_ne_nil n)
      | cons c cs =>
          obtain ⟨b, octets, octet⟩ :=
            encode_numeric (isNumeric_numberText n c (digits ▸ List.mem_cons_self))
          rw [wire, text, digits, Utf8.encode_cons, octets]
          exact begins_cons octet
  | string s => exact begins_cons (by decide)
  | array items =>
      cases items with
      | nil => exact begins_cons (by decide)
      | cons v items => exact wire_array v items ▸ begins_cons (by decide)
  | object members =>
      cases members with
      | nil => exact begins_cons (by decide)
      | cons m members => exact wire_object m members ▸ begins_cons (by decide)

theorem endsNumber_itemsWire (items : List Json) (rest : Bytes) :
    EndsNumber (itemsWire items ++ Octet.closeBracket :: rest) := by
  cases items with
  | nil => exact endsNumber_cons (by decide) rest
  | cons v items =>
      rw [itemsWire_cons]
      exact endsNumber_cons (by decide) _

theorem endsNumber_membersWire (members : List (String × Json)) (rest : Bytes) :
    EndsNumber (membersWire members ++ Octet.closeBrace :: rest) := by
  cases members with
  | nil => exact endsNumber_cons (by decide) rest
  | cons m members =>
      rw [membersWire_cons]
      exact endsNumber_cons (by decide) _

/-- A reader gets a thing out of some octets, whatever stands behind them, unless that goes on a
number. -/
def Gets {α : Type} (reader : Bytes → Except ReadError (α × Bytes)) (octets : Bytes) (a : α) :
    Prop :=
  ∀ rest, EndsNumber rest → reader (octets ++ rest) = .ok (a, rest)

section Items
variable {α : Type} {item : Bytes → Except ReadError (α × Bytes)} {a : α} {bytes : Bytes}

theorem readItems_last {rest : Bytes} (read : item bytes = .ok (a, Octet.closeBracket :: rest))
    (bound : Nat) (found : List α) :
    readItems item (bound + 1) found bytes = .ok ((a :: found).reverse, rest) := by
  have stays := skipBlanks_cons (b := Octet.closeBracket) (by decide) rest
  rw [readItems, read]
  simp only [bind, Except.bind, stays, if_true]

theorem readItems_next {behind : Bytes} (read : item bytes = .ok (a, Octet.comma :: behind))
    (begins : Begins behind) (bound : Nat) (found : List α) :
    readItems item (bound + 1) found bytes = readItems item bound (a :: found) behind := by
  obtain ⟨c, tail, rfl, nonBlank, noEnd⟩ := begins
  have comma := skipBlanks_cons (b := Octet.comma) (by decide) (c :: tail)
  have noBracket : Octet.comma ≠ Octet.closeBracket := by decide
  rw [readItems, read]
  simp only [bind, Except.bind, comma, skipBlanks_cons nonBlank, if_neg noBracket,
    if_neg noEnd, if_true]

end Items

/-- Where each item is read from its octets, so are all of them. -/
theorem readItems_wire {item : Bytes → Except ReadError (Json × Bytes)} {v : Json}
    {items : List Json} (reads : ∀ w ∈ v :: items, Gets item (wire w) w) {bound : Nat}
    (enough : items.length < bound) (found : List Json) (rest : Bytes) :
    readItems item bound found (wire v ++ (itemsWire items ++ Octet.closeBracket :: rest)) =
      .ok (found.reverse ++ v :: items, rest) := by
  obtain ⟨bound, rfl⟩ : ∃ n, bound = n + 1 := ⟨bound - 1, by omega⟩
  have first := reads v List.mem_cons_self _ (endsNumber_itemsWire items rest)
  induction items generalizing v bound found with
  | nil => rw [readItems_last first, List.reverse_cons]
  | cons next items ih =>
      have reads : ∀ w ∈ next :: items, Gets item (wire w) w := fun w within =>
        reads w (List.mem_cons_of_mem v within)
      obtain ⟨bound, rfl⟩ : ∃ n, bound = n + 1 := ⟨bound - 1, by simp at enough; omega⟩
      have behind : itemsWire (next :: items) ++ Octet.closeBracket :: rest =
          Octet.comma :: (wire next ++ (itemsWire items ++ Octet.closeBracket :: rest)) := by
        rw [itemsWire_cons, List.cons_append, List.append_assoc]
      rw [behind] at first ⊢
      rw [readItems_next first ((begins_wire next).append _),
        ih reads (v :: found) bound (by simpa using enough)
          (reads next List.mem_cons_self _ (endsNumber_itemsWire items rest)),
        List.reverse_cons, List.append_assoc]
      rfl

section Members
variable {σ : Type} {member : σ → String → Bytes → Except ReadError (σ × Bytes)} {m : String × Json}
  {kept kept' : σ} {rest : Bytes}

theorem readString_member (m : String × Json) (rest : Bytes) :
    readString (memberWire m ++ rest) = .ok (m.1, Octet.colon :: (wire m.2 ++ rest)) := by
  have parts : memberWire m ++ rest =
      inner m.1 ++ Octet.quote :: (Octet.colon :: (wire m.2 ++ rest)) := by
    simp [memberWire]
  rw [parts, inner, readString_encode]

theorem readMembers_last
    (read : member kept m.1 (Octet.colon :: (wire m.2 ++ Octet.closeBrace :: rest)) =
      .ok (kept', Octet.closeBrace :: rest)) (bound : Nat) :
    readMembers member (bound + 1) kept (memberWire m ++ Octet.closeBrace :: rest) =
      .ok (kept', rest) := by
  have stays := skipBlanks_cons (b := Octet.closeBrace) (by decide) rest
  rw [readMembers, readString_member]
  simp only [bind, Except.bind, read, stays, if_true]

theorem readMembers_next
    (read : member kept m.1 (Octet.colon :: (wire m.2 ++ Octet.comma :: Octet.quote :: rest)) =
      .ok (kept', Octet.comma :: Octet.quote :: rest)) (bound : Nat) :
    readMembers member (bound + 1) kept (memberWire m ++ Octet.comma :: Octet.quote :: rest) =
      readMembers member bound kept' rest := by
  have comma := skipBlanks_cons (b := Octet.comma) (by decide) (Octet.quote :: rest)
  have quote := skipBlanks_cons (b := Octet.quote) (by decide) rest
  have noBrace : Octet.comma ≠ Octet.closeBrace := by decide
  rw [readMembers, readString_member]
  simp only [bind, Except.bind, read, comma, quote, if_neg noBrace, if_true]

end Members

/-- Where each member is read from its octets and then put to those that are kept, so are all of
them. -/
theorem readMembers_wire {σ : Type} {member : σ → String → Bytes → Except ReadError (σ × Bytes)}
    {put : σ → String × Json → Option σ} {m : String × Json} {members : List (String × Json)}
    (reads : ∀ l ∈ m :: members, ∀ kept kept', put kept l = some kept' →
      Gets (member kept l.1) (Octet.colon :: wire l.2) kept')
    {bound : Nat} (enough : members.length < bound) {kept all : σ}
    (puts : (m :: members).foldlM put kept = some all) (rest : Bytes) :
    readMembers member bound kept
      (memberWire m ++ (membersWire members ++ Octet.closeBrace :: rest)) =
      .ok (all, rest) := by
  obtain ⟨bound, rfl⟩ : ∃ n, bound = n + 1 := ⟨bound - 1, by omega⟩
  induction members generalizing m bound kept with
  | nil =>
      have first := reads m List.mem_cons_self kept all (by simpa using puts)
        _ (endsNumber_membersWire [] rest)
      exact readMembers_last first bound
  | cons next members ih =>
      rw [List.foldlM_cons] at puts
      obtain ⟨kept', put, puts⟩ := Option.bind_eq_some_iff.mp puts
      obtain ⟨bound, rfl⟩ : ∃ n, bound = n + 1 := ⟨bound - 1, by simp at enough; omega⟩
      have first :=
        reads m List.mem_cons_self kept kept' put _ (endsNumber_membersWire (next :: members) rest)
      have later := ih (fun l among => reads l (List.mem_cons_of_mem m among))
        puts bound (by simpa using enough)
      have behind : membersWire (next :: members) ++ Octet.closeBrace :: rest =
          Octet.comma :: Octet.quote ::
              (memberWire next ++ (membersWire members ++ Octet.closeBrace :: rest)) := by
        simp [membersWire_cons]
      rw [behind] at first ⊢
      rw [readMembers_next first, later]

theorem length_itemsWire (items : List Json) : items.length ≤ (itemsWire items).length ∧
    ∀ v ∈ items, (wire v).length ≤ (itemsWire items).length := by
  induction items with
  | nil => exact ⟨Nat.zero_le _, nofun⟩
  | cons v items ih =>
      rw [itemsWire_cons, List.length_cons, List.length_cons, List.length_append]
      refine ⟨by omega, fun w within => ?_⟩
      rcases List.mem_cons.mp within with rfl | behind
      · omega
      · have := ih.2 w behind
        omega

theorem length_memberWire (m : String × Json) : (wire m.2).length ≤ (memberWire m).length := by
  rw [memberWire, List.length_append, List.length_cons, List.length_cons]
  omega

theorem length_membersWire (members : List (String × Json)) :
    members.length ≤ (membersWire members).length ∧
    ∀ m ∈ members, (wire m.2).length ≤ (membersWire members).length := by
  induction members with
  | nil => exact ⟨Nat.zero_le _, nofun⟩
  | cons m members ih =>
      rw [membersWire_cons, List.length_cons, List.length_cons, List.length_cons,
        List.length_append]
      refine ⟨by omega, fun l within => ?_⟩
      rcases List.mem_cons.mp within with rfl | behind
      · have := length_memberWire l
        omega
      · have := ih.2 l behind
        omega

/-- An array's items and an object's members fit a bound that the whole fits. -/
theorem fits_array {items : List Json} {bound : Nat}
    (enough : (wire (.array items)).length ≤ bound) :
    items.length ≤ bound ∧ ∀ v ∈ items, (wire v).length ≤ bound := by
  cases items with
  | nil => exact ⟨Nat.zero_le _, List.forall_mem_nil _⟩
  | cons v items =>
      have counted := length_itemsWire items
      simp only [wire_array, List.length_cons, List.length_append, List.length_nil] at enough
      refine ⟨by rw [List.length_cons]; omega,
        List.forall_mem_cons.mpr ⟨by omega, fun w within => ?_⟩⟩
      have := counted.2 w within
      omega

theorem fits_object {members : List (String × Json)} {bound : Nat}
    (enough : (wire (.object members)).length ≤ bound) :
    members.length ≤ bound ∧ ∀ m ∈ members, (wire m.2).length ≤ bound := by
  cases members with
  | nil => exact ⟨Nat.zero_le _, List.forall_mem_nil _⟩
  | cons m members =>
      have counted := length_membersWire members
      have first := length_memberWire m
      simp only [wire_object, List.length_cons, List.length_append, List.length_nil] at enough
      refine ⟨by rw [List.length_cons]; omega,
        List.forall_mem_cons.mpr ⟨by omega, fun l within => ?_⟩⟩
      have := counted.2 l within
      omega

theorem readArray_wire {item : Bytes → Except ReadError (Json × Bytes)} {items : List Json}
    {bound : Nat} (enough : (wire (.array items)).length ≤ bound)
    (reads : ∀ v ∈ items, Gets item (wire v) v) :
    ∃ octets, wire (.array items) = Octet.openBracket :: octets ∧
      ∀ rest, readArray item bound (octets ++ rest) = .ok (items, rest) := by
  cases items with
  | nil =>
      refine ⟨[Octet.closeBracket], rfl, fun rest => ?_⟩
      have stays := skipBlanks_cons (b := Octet.closeBracket) (by decide) rest
      rw [List.singleton_append, readArray, stays]
      rfl
  | cons v items =>
      refine ⟨_, wire_array v items, fun rest => ?_⟩
      have read := readItems_wire reads (fits_array enough).1 [] rest
      simp only [List.append_assoc, List.singleton_append]
      obtain ⟨b, tail, octets, nonBlank, noEnd⟩ :=
        (begins_wire v).append (itemsWire items ++ Octet.closeBracket :: rest)
      rw [octets] at read ⊢
      rw [readArray, skipBlanks_cons nonBlank]
      simpa only [if_neg noEnd, List.reverse_nil, List.nil_append] using read

theorem readObject_wire {σ : Type} {member : σ → String → Bytes → Except ReadError (σ × Bytes)}
    {put : σ → String × Json → Option σ} {members : List (String × Json)} {bound : Nat}
    (enough : (wire (.object members)).length ≤ bound)
    (reads : ∀ l ∈ members, ∀ kept kept', put kept l = some kept' →
      Gets (member kept l.1) (Octet.colon :: wire l.2) kept')
    {kept all : σ} (puts : members.foldlM put kept = some all) :
    ∃ octets, wire (.object members) = Octet.openBrace :: octets ∧
      ∀ rest, readObject member bound kept (octets ++ rest) = .ok (all, rest) := by
  cases members with
  | nil =>
      refine ⟨[Octet.closeBrace], rfl, fun rest => ?_⟩
      have stays := skipBlanks_cons (b := Octet.closeBrace) (by decide) rest
      cases puts
      rw [List.singleton_append, readObject, stays]
      rfl
  | cons m members =>
      refine ⟨_, wire_object m members, fun rest => ?_⟩
      have quote := skipBlanks_cons (b := Octet.quote) (by decide)
        (memberWire m ++ (membersWire members ++ Octet.closeBrace :: rest))
      have read := readMembers_wire reads (fits_object enough).1 puts rest
      simp only [List.cons_append, List.append_assoc, List.nil_append]
      have noBrace : Octet.quote ≠ Octet.closeBrace := by decide
      rw [readObject, quote]
      simpa only [if_neg noBrace, if_true] using read

theorem readColon_colon (rest : Bytes) : readColon (Octet.colon :: rest) = .ok rest := by
  rw [readColon, skipBlanks_cons (b := Octet.colon) (by decide)]
  rfl

def readMember (bound depth : Nat) (members : List (String × Json)) (key : String) (bytes : Bytes) :
    Except ReadError (List (String × Json) × Bytes) := do
  let rest ← readColon bytes
  let (v, rest) ← readValue bound depth rest
  .ok (insert key v members, rest)

theorem readMember_wire {bound depth : Nat} {m : String × Json}
    (read : Gets (readValue bound depth) (wire m.2) m.2) (members : List (String × Json)) :
    Gets (readMember bound depth members m.1) (Octet.colon :: wire m.2)
      (insert m.1 m.2 members) := by
  intro rest ends
  rw [List.cons_append, readMember, readColon_colon]
  simp only [bind, Except.bind, read rest ends]

/-- The doubles that a value mentions read back. -/
def DoublesReadBack (v : Json) : Prop := ∀ d, Mentions d v → (Number.double d).ReadsBack

theorem DoublesReadBack.item {items : List Json} (doubles : DoublesReadBack (.array items))
    {v : Json} (within : v ∈ items) : DoublesReadBack v :=
  fun d mentions => doubles d (.item within mentions)

theorem DoublesReadBack.member {members : List (String × Json)}
    (doubles : DoublesReadBack (.object members)) {m : String × Json} (within : m ∈ members) :
    DoublesReadBack m.2 :=
  fun d mentions => doubles d (.member within mentions)

theorem doublesReadBack_array {items : List Json} (all : ∀ v ∈ items, DoublesReadBack v) :
    DoublesReadBack (.array items) := by
  rintro d (_ | ⟨within, mentions⟩)
  exact all _ within d mentions

theorem doublesReadBack_object {members : List (String × Json)}
    (all : ∀ m ∈ members, DoublesReadBack m.2) :
    DoublesReadBack (.object members) := by
  intro d mentions
  cases mentions with
  | member within mentions => exact all _ within d mentions

theorem doublesReadBack_string (s : String) : DoublesReadBack (.string s) := by
  rintro d ⟨⟩

theorem doublesReadBack_null : DoublesReadBack .null := by
  rintro d ⟨⟩

theorem doublesReadBack_ofMembers {members : List (String × Json)}
    (all : ∀ m ∈ members, DoublesReadBack m.2) : DoublesReadBack (ofMembers members) :=
  doublesReadBack_object fun m within =>
    all m (((foldl_insert List.Pairwise.nil members).2 m within).resolve_left List.not_mem_nil)

/-- A value is read back from its octets. -/
theorem readValue_wire {depth : Nat} {v : Json} (nested : Nested depth v)
    (doubles : DoublesReadBack v) {bound : Nat} (enough : (wire v).length ≤ bound) :
    Gets (readValue bound depth) (wire v) v := by
  induction nested with
  | null =>
      intro rest _
      exact readValue_scalar (b := Octet.smallN) (by decide) (by decide) (by decide) _
  | bool b =>
      intro rest _
      cases b
      · exact readValue_scalar (b := Octet.smallF) (by decide) (by decide) (by decide) _
      · exact readValue_scalar (b := Octet.smallT) (by decide) (by decide) (by decide) _
  | number n =>
      intro rest ends
      cases n with
      | int value inRange =>
          exact readValue_number (Number.readsBack_int value inRange) bound _ ends
      | double d => exact readValue_number (doubles d .number) bound _ ends
  | string s =>
      intro rest _
      rw [wire_string, List.cons_append, readValue_scalar (by decide) (by decide) (by decide),
        readScalar, if_pos rfl, List.append_assoc, List.singleton_append, inner, readString_encode]
      rfl
  | @array n items all ih =>
      intro rest _
      obtain ⟨octets, begins, reads⟩ := readArray_wire enough fun v within =>
        ih v within (doubles.item within) ((fits_array enough).2 v within)
      rw [begins, List.cons_append, readValue, skipBlanks_cons (by decide)]
      simp only [if_true, reads]
      rfl
  | @object n members ordered all ih =>
      intro rest _
      have puts : members.foldlM (fun sorted m => some (insert m.1 m.2 sorted)) [] = some members :=
        (List.foldlM_pure (m := Option)).trans
        (congrArg some (foldl_insert_of_inOrder (by simpa using ordered)))
      obtain ⟨octets, begins, reads⟩ :
          ∃ octets, wire (.object members) = Octet.openBrace :: octets ∧
            ∀ rest, readObject (readMember bound n) bound [] (octets ++ rest) =
              .ok (members, rest) := by
        refine readObject_wire enough (fun m within kept kept' put => ?_) puts
        cases put
        exact readMember_wire (ih m within (doubles.member within)
          ((fits_object enough).2 m within)) kept
      have noBracket : Octet.openBrace ≠ Octet.openBracket := by decide
      rw [begins, List.cons_append, readValue, skipBlanks_cons (by decide)]
      simp only [if_neg noBracket, if_true]
      change (readObject (readMember bound n) bound [] (octets ++ rest) >>= _) = _
      rw [reads]
      rfl

/-- A whole value is read back from its octets. -/
theorem read_wire {v : Json} (nested : Nested depthLimit v) (doubles : DoublesReadBack v) :
    read (wire v) = .ok v := by
  have reads := readValue_wire nested doubles (Nat.le_refl _) [] endsNumber_nil
  rw [List.append_nil] at reads
  rw [read, reads]
  rfl

def halfShare : Json := .array [.object [("share", .number (.double .half))]]

theorem nested_halfShare : Nested 2 halfShare := by
  refine .array (List.forall_mem_singleton.mpr (.object (List.pairwise_singleton _ _) ?_))
  exact List.forall_mem_singleton.mpr (.number _)

theorem doublesReadBack_halfShare : DoublesReadBack halfShare := by
  refine doublesReadBack_array (List.forall_mem_singleton.mpr (doublesReadBack_object ?_))
  refine List.forall_mem_singleton.mpr ?_
  rintro d ⟨⟩
  exact Number.readsBack_half

end CommandBridge.Json
