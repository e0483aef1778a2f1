import CommandBridge.FileTree

/-! A file that was written is read back. No directory comes or goes with it, so the path leads
where it led before. -/
namespace CommandBridge.FileTree

variable {t t' : FileTree} {working place here : Place} {path : List Char} {content : Bytes}

theorem node?_put (some : place ≠ []) (node : Node) :
    (t.put place node).node? here = if here = place then .some node else t.node? here := by
  by_cases same : here = place
  · subst same
    have other : (t.nodes.filter fun n => n.1 != here).find? (fun n => n.1 == here) = none := by
      rw [List.find?_eq_none]
      intro n within
      have kept := (List.mem_filter.mp within).2
      simpa using kept
    simp [node?, put, List.isEmpty_iff, some, List.find?_append, other]
  · have kept : (fun n : Place × Node => decide ((n.1 != place) = true ∧ (n.1 == here) = true)) =
        fun n => n.1 == here := by
      funext n
      by_cases stands : n.1 = here
      · simp [stands, same]
      · simp [stands]
    have other : [(place, node)].find? (fun n => n.1 == here) = none := by
      simp [Ne.symm same]
    rw [node?, put, List.find?_append, List.find?_filter, kept, other, Option.or_none, if_neg same]
    rfl

theorem isDirectory_put (bare : t.isDirectory place = false) (content : Bytes) (here : Place) :
    (t.put place (.file content)).isDirectory here = t.isDirectory here := by
  have some : place ≠ [] := by
    rintro rfl
    cases bare
  rw [isDirectory, node?_put some]
  by_cases same : here = place
  · rw [if_pos same, same, bare]
  · rw [if_neg same, isDirectory]

theorem follow_put (bare : t.isDirectory place = false) (content : Bytes) (here : Place)
    (steps : List String) :
    (t.put place (.file content)).follow here steps = t.follow here steps := by
  induction steps generalizing here with
  | nil => rfl
  | cons step rest ih => rw [follow, follow, isDirectory_put bare, ih]

theorem resolve?_put (bare : t.isDirectory place = false) (content : Bytes) (working : Place)
    (path : List Char) :
    (t.put place (.file content)).resolve? working path = t.resolve? working path := by
  simp only [resolve?, resolve, follow_put bare, isDirectory_put bare]

theorem write?_isSome (t : FileTree) (working : Place) (path : List Char)
    (content content' : Bytes) :
    (t.write? working path content).isSome = (t.write? working path content').isSome := by
  simp only [write?, Option.bind_eq_bind]
  cases t.resolve? working path with
  | none => rfl
  | some place =>
      simp only [Option.bind_some]
      split <;> rfl

theorem read?_of_write? (written : t.write? working path content = some t') :
    t'.read? working path = some content := by
  simp only [write?, Option.bind_eq_bind, Option.bind_eq_some_iff] at written
  obtain ⟨place, leads, written⟩ := written
  split at written
  · cases written
  · rename_i sound
    cases written
    have bare : t.isDirectory place = false := by
      simp only [Bool.or_eq_true, not_or, Bool.not_eq_true] at sound
      exact sound.1
    have some : place ≠ [] := by
      rintro rfl
      cases bare
    rw [read?, resolve?_put bare, leads, Option.bind_some, content?, node?_put some, if_pos rfl]

end CommandBridge.FileTree
