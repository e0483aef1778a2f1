import CommandBridge.Json.Record

/-! Values as they are built and read: in every object the members stand in the order of their keys,
each key once, and arrays and objects stand inside each other at most so many levels deep. -/
namespace CommandBridge.Json

/-- Members in the order of their keys, each key once. -/
def InOrder (members : List (String × Json)) : Prop := members.Pairwise fun a b => a.1 < b.1

/-- A value nested at most so many levels deep, with the members of each object in order. -/
inductive Nested : Nat → Json → Prop
  | null {n} : Nested n .null
  | bool {n} (b : Bool) : Nested n (.bool b)
  | number {n} (m : Number) : Nested n (.number m)
  | string {n} (s : String) : Nested n (.string s)
  | array {n items} : (∀ v ∈ items, Nested n v) → Nested (n + 1) (.array items)
  | object {n members} : InOrder members → (∀ m ∈ members, Nested n m.2) →
      Nested (n + 1) (.object members)

inductive Mentions (d : Double) : Json → Prop
  | number : Mentions d (.number (.double d))
  | item {items v} : v ∈ items → Mentions d v → Mentions d (.array items)
  | member {members m} : m ∈ members → Mentions d m.2 → Mentions d (.object members)

theorem Nested.mono {n n' : Nat} {v : Json} (nested : Nested n v) (le : n ≤ n') : Nested n' v := by
  induction nested generalizing n' with
  | null => exact .null
  | bool b => exact .bool b
  | number m => exact .number m
  | string s => exact .string s
  | array _ ih =>
      obtain ⟨n', rfl⟩ := Nat.exists_eq_add_of_lt le
      exact .array fun v within => ih v within (by omega)
  | object ordered _ ih =>
      obtain ⟨n', rfl⟩ := Nat.exists_eq_add_of_lt le
      exact .object ordered fun m within => ih m within (by omega)

theorem Nested.items {n : Nat} {items : List Json} (nested : Nested (n + 1) (.array items)) :
    ∀ v ∈ items, Nested n v := by
  cases nested with
  | array all => exact all

theorem Nested.members {n : Nat} {members : List (String × Json)}
    (nested : Nested (n + 1) (.object members)) :
    InOrder members ∧ ∀ m ∈ members, Nested n m.2 := by
  cases nested with
  | object ordered all => exact ⟨ordered, all⟩

theorem mem_insert {key : String} {value : Json} {members : List (String × Json)}
    {m : String × Json} (within : m ∈ insert key value members) :
    m = (key, value) ∨ m ∈ members := by
  induction members with
  | nil => exact .inl (List.mem_singleton.mp within)
  | cons first rest ih =>
      obtain ⟨k, v⟩ := first
      rw [insert] at within
      split at within
      · exact List.mem_cons.mp within
      split at within
      · exact (List.mem_cons.mp within).imp_right (List.mem_cons_of_mem _)
      · rcases List.mem_cons.mp within with rfl | behind
        · exact .inr List.mem_cons_self
        · exact (ih behind).imp_right (List.mem_cons_of_mem _)

theorem inOrder_insert {members : List (String × Json)} (ordered : InOrder members) (key : String)
    (value : Json) : InOrder (insert key value members) := by
  induction members with
  | nil => exact List.pairwise_singleton _ _
  | cons first rest ih =>
      obtain ⟨k, v⟩ := first
      obtain ⟨before, ordered⟩ := List.pairwise_cons.mp ordered
      rw [insert]
      split
      · rename_i less
        refine List.pairwise_cons.mpr ⟨?_, List.pairwise_cons.mpr ⟨before, ordered⟩⟩
        intro m within
        rcases List.mem_cons.mp within with rfl | behind
        · exact less
        · exact String.lt_trans less (before m behind)
      split
      · rename_i same
        exact List.pairwise_cons.mpr ⟨fun m within => same ▸ before m within, ordered⟩
      · rename_i notLess other
        have less : k < key := Std.lt_of_le_of_ne (String.not_lt.mp notLess) (Ne.symm other)
        refine List.pairwise_cons.mpr ⟨fun m within => ?_, ih ordered⟩
        rcases mem_insert within with rfl | behind
        · exact less
        · exact before m behind

theorem insert_last {key : String} {members : List (String × Json)}
    (last : ∀ m ∈ members, m.1 < key) (value : Json) :
    insert key value members = members ++ [(key, value)] := by
  induction members with
  | nil => rfl
  | cons first rest ih =>
      have less := last first List.mem_cons_self
      have other : key ≠ first.1 := fun same => String.lt_irrefl _ (same ▸ less)
      rw [insert, if_neg (String.lt_asymm less), if_neg other,
        ih fun m within => last m (List.mem_cons_of_mem _ within), List.cons_append]

/-- The members of an object that is built are among those that it is built of, and in order. -/
theorem foldl_insert {sorted : List (String × Json)} (ordered : InOrder sorted)
    (members : List (String × Json)) :
    InOrder (members.foldl (fun sorted m => insert m.1 m.2 sorted) sorted) ∧
      ∀ m ∈ members.foldl (fun sorted m => insert m.1 m.2 sorted) sorted, m ∈ sorted ∨
        m ∈ members := by
  induction members generalizing sorted with
  | nil => exact ⟨ordered, fun m within => .inl within⟩
  | cons first rest ih =>
      obtain ⟨inOrder, all⟩ := ih (inOrder_insert ordered first.1 first.2)
      refine ⟨inOrder, fun m within => ?_⟩
      rcases all m within with put | behind
      · rcases mem_insert put with rfl | before
        · exact .inr List.mem_cons_self
        · exact .inl before
      · exact .inr (List.mem_cons_of_mem _ behind)

theorem nested_ofMembers {n : Nat} {members : List (String × Json)}
    (all : ∀ m ∈ members, Nested n m.2) :
    Nested (n + 1) (ofMembers members) := by
  obtain ⟨ordered, among⟩ := foldl_insert List.Pairwise.nil members
  refine .object ordered fun m within => all m ?_
  exact (among m within).resolve_left List.not_mem_nil

theorem foldl_insert_of_inOrder {sorted members : List (String × Json)}
    (ordered : InOrder (sorted ++ members)) :
    members.foldl (fun sorted m => insert m.1 m.2 sorted) sorted = sorted ++ members := by
  induction members generalizing sorted with
  | nil => exact (List.append_nil sorted).symm
  | cons first rest ih =>
      have last : ∀ m ∈ sorted, m.1 < first.1 := fun m within =>
        (List.pairwise_append.mp ordered).2.2 m within first List.mem_cons_self
      rw [List.foldl_cons, insert_last last, ih (by simpa using ordered)]
      simp

end CommandBridge.Json
