import CommandBridge.Proofs.Presentation

/-! The shapes of results. Sorting a value loses nothing of it, and a result is what its value is
sorted to exactly when it has been sorted. Reading a raw result comes to an end with the first
reading and changes nothing of the value, and reading times changes no shape. -/
namespace CommandBridge.Payload

/-- A result that a value is sorted to: records when there are any, a record, or a value that is
neither an object nor an array with nothing but objects in it. -/
inductive Sorted : Payload → Prop
  | records (first : Members) (rest : List Members) : Sorted (.records (first :: rest))
  | record (members : Members) : Sorted (.record members)
  | scalar {v} : (∀ members, v ≠ .object members) →
      (∀ items, v = .array items → items ≠ [] → ∃ item ∈ items, ∀ members, item ≠ .object members) →
      Sorted (.scalar v)

/-- Two results of one shape: as many records, the same record, the same text, or values both. -/
inductive SameShape : Payload → Payload → Prop
  | records {rs rs' : List Members} : rs'.length = rs.length →
      SameShape (.records rs) (.records rs')
  | record (members : Members) : SameShape (.record members) (.record members)
  | scalar (v v' : Json) : SameShape (.scalar v) (.scalar v')
  | raw (text : String) : SameShape (.raw text) (.raw text)

theorem object?_isSome_iff {item : Json} :
    (object? item).isSome = true ↔ ∃ members, item = .object members := by
  cases item with
  | object members => exact iff_of_true rfl ⟨members, rfl⟩
  | _ => exact iff_of_false nofun nofun

theorem isSequence_iff {items : List Json} :
    (!items.isEmpty && items.all fun item => (object? item).isSome) = true ↔
      items ≠ [] ∧ ∀ item ∈ items, ∃ members, item = .object members := by
  simp only [Bool.and_eq_true, Bool.not_eq_true', List.isEmpty_eq_false_iff, List.all_eq_true,
    object?_isSome_iff]

theorem filterMap_object?_map (rs : List Members) :
    (rs.map Json.object).filterMap object? = rs := by
  rw [List.filterMap_map]
  exact List.filterMap_some

theorem ofJson_map_object {rs : List Members} (some : rs ≠ []) :
    ofJson (.array (rs.map .object)) = .records rs := by
  have sequence :=
    isSequence_iff.mpr ⟨mt List.map_eq_nil_iff.mp some, List.forall_mem_map.mpr fun r _ => ⟨r, rfl⟩⟩
  simp only [ofJson, sequence, if_true, filterMap_object?_map]

theorem ofJson_mixed {items : List Json}
    (mixed : items ≠ [] → ∃ item ∈ items, ∀ members, item ≠ .object members) :
    ofJson (.array items) = .scalar (.array items) := by
  have noSequence : ¬ (!items.isEmpty && items.all fun item => (object? item).isSome) = true := by
    rw [isSequence_iff]
    rintro ⟨some, all⟩
    obtain ⟨item, within, noObject⟩ := mixed some
    obtain ⟨members, isObject⟩ := all item within
    exact noObject members isObject
  simp only [ofJson, if_neg noSequence]

theorem sorted_ofJson (v : Json) : Sorted (ofJson v) := by
  cases v with
  | object members => exact .record members
  | array items =>
      by_cases mixed : items ≠ [] → ∃ item ∈ items, ∀ members, item ≠ .object members
      · rw [ofJson_mixed mixed]
        refine .scalar nofun ?_
        rintro _ ⟨⟩
        exact mixed
      · push Not at mixed
        obtain ⟨some, all⟩ := mixed
        have whole :=
          map_object_filterMap fun item within => object?_isSome_iff.mpr (all item within)
        cases taken : items.filterMap object? with
        | nil =>
            rw [taken] at whole
            exact absurd whole.symm some
        | cons first rest =>
            rw [← whole, taken, ofJson_map_object (List.cons_ne_nil first rest)]
            exact .records first rest
  | _ => exact .scalar nofun nofun

theorem Sorted.ofJson_toJson {p : Payload} (sorted : Sorted p) : ofJson p.toJson = p := by
  cases sorted with
  | records first rest => exact ofJson_map_object (List.cons_ne_nil first rest)
  | record members => rfl
  | @scalar v noObject mixed =>
      cases v with
      | object members => exact absurd rfl (noObject members)
      | array items => exact ofJson_mixed (mixed items rfl)
      | _ => rfl

theorem sorted_iff_exists {p : Payload} : Sorted p ↔ ∃ v, ofJson v = p := by
  constructor
  · exact fun sorted => ⟨p.toJson, sorted.ofJson_toJson⟩
  · rintro ⟨v, rfl⟩
    exact sorted_ofJson v

theorem ofJson_toJson_iff {p : Payload} : ofJson p.toJson = p ↔ Sorted p :=
  ⟨fun same => sorted_iff_exists.mpr ⟨p.toJson, same⟩, Sorted.ofJson_toJson⟩

theorem decoded_of_not_raw {p : Payload} (notRaw : ∀ text, p ≠ .raw text) : p.decoded = p := by
  cases p with
  | raw text => exact absurd rfl (notRaw text)
  | _ => rfl

theorem decoded_decoded (p : Payload) : p.decoded.decoded = p.decoded := by
  cases p with
  | raw text =>
      cases h : parse? text with
      | some v => rw [decoded_raw_of_some h, decoded_of_not_raw (ofJson_ne_raw v)]
      | none => rw [decoded_raw_of_none h, decoded_raw_of_none h]
  | _ => rfl

theorem toJson_decoded (p : Payload) : p.decoded.toJson = p.toJson := by
  cases p with
  | raw text =>
      cases h : parse? text with
      | some v => rw [decoded_raw_of_some h, toJson_ofJson, toJson_raw_of_some h]
      | none => rw [decoded_raw_of_none h]
  | _ => rfl

theorem sameShape_normalize (p : Payload) : SameShape p p.normalize := by
  cases p with
  | records rs => exact .records (List.length_map _)
  | record members => exact .record members
  | scalar v => cases v <;> exact .scalar _ _
  | raw text => exact .raw text

/-- A value is what it was after it has been sorted, and the results that are what their value is
sorted to are the sorted ones and no others. Of any result, what has been read once is not read
again, its value stays when it is read, and its shape when its times are. -/
theorem sorting_canonical :
    (∀ v, (ofJson v).toJson = v) ∧
    ∀ p : Payload, p.decoded.decoded = p.decoded ∧ p.decoded.toJson = p.toJson ∧
      SameShape p p.normalize ∧
      (ofJson p.toJson = p ↔ Sorted p) ∧ (Sorted p ↔ ∃ v, ofJson v = p) :=
  ⟨toJson_ofJson, fun p =>
    ⟨decoded_decoded p, toJson_decoded p, sameShape_normalize p, ofJson_toJson_iff,
      sorted_iff_exists⟩⟩

end CommandBridge.Payload
