import CommandBridge.Config.EnvFile

/-! What a file of assignments tells of a name. What a line does, and to which name, does not depend
on what names stand for, and a line without a dollar sign is read alike wherever it stands. What is
put behind a line end changes nothing of what was assigned before it. -/
namespace CommandBridge.EnvFile

/-! ### One line -/

/-- Does reading stand in a name that will be looked up? -/
def Mode.refers : Mode → Bool
  | .name .. | .braced .. => true
  | _ => false

theorem Mode.next_snd (lookup lookup' : List Char → List Char) (mode : Mode) (c : Char) :
    (mode.next lookup c).map Prod.snd = (mode.next lookup' c).map Prod.snd := by
  cases mode with
  | name weak met => simp only [Mode.next, Option.map_some, apply_ite Prod.snd]
  | braced weak met => simp only [Mode.next, Option.map_some, apply_ite Prod.snd]
  | _ => rfl

theorem Mode.close_isSome (lookup lookup' : List Char → List Char) (mode : Mode) :
    (mode.close lookup).isSome = (mode.close lookup').isSome := by
  cases mode with
  | text weak => cases weak <;> rfl
  | escape weak => cases weak <;> rfl
  | name weak met => cases weak <;> rfl
  | _ => rfl

theorem Mode.next_plain (lookup lookup' : List Char → List Char) {mode : Mode} {c : Char}
    (plain : mode.refers = false) (noDollar : c ≠ '$') :
    mode.next lookup c = mode.next lookup' c ∧
    ∀ step ∈ mode.next lookup c, step.2.refers = false := by
  cases mode with
  | name weak met => cases plain
  | braced weak met => cases plain
  | comment =>
      refine ⟨rfl, ?_⟩
      rintro _ ⟨⟩
      rfl
  | _ =>
      refine ⟨rfl, ?_⟩
      simp only [Mode.next, if_neg noDollar]
      repeat' split
      all_goals rintro _ ⟨⟩ <;> rfl

theorem Mode.close_plain (lookup lookup' : List Char → List Char) {mode : Mode}
    (plain : mode.refers = false) :
    mode.close lookup = mode.close lookup' := by
  cases mode with
  | name weak met => cases plain
  | text weak => cases weak <;> rfl
  | escape weak => cases weak <;> rfl
  | _ => rfl

theorem readValue_cons (lookup : List Char → List Char) (mode : Mode) (c : Char)
    (rest : List Char) :
    readValue lookup mode (c :: rest) =
      (mode.next lookup c).bind fun step => (readValue lookup step.2 rest).map (step.1 ++ ·) := by
  rw [readValue]
  cases mode.next lookup c with
  | none => rfl
  | some step =>
      simp only [Option.bind_eq_bind, Option.bind_some]
      cases readValue lookup step.2 rest <;> rfl

/-- Whether a value is well formed does not depend on what names stand for. -/
theorem readValue_isSome (lookup lookup' : List Char → List Char) (mode : Mode) (cs : List Char) :
    (readValue lookup mode cs).isSome = (readValue lookup' mode cs).isSome := by
  induction cs generalizing mode with
  | nil => exact mode.close_isSome lookup lookup'
  | cons c rest ih =>
      have same := mode.next_snd lookup lookup' c
      rw [readValue_cons, readValue_cons]
      cases next : mode.next lookup c with
      | none =>
          rw [next] at same
          rw [Option.map_eq_none_iff.mp same.symm]
          rfl
      | some step =>
          rw [next] at same
          obtain ⟨step', next', goesOn⟩ := Option.map_eq_some_iff.mp same.symm
          rw [next', Option.bind_some, Option.bind_some, Option.isSome_map,
            Option.isSome_map, goesOn]
          exact ih step.2

theorem readValue_plain (lookup lookup' : List Char → List Char) (mode : Mode) {cs : List Char}
    (plain : mode.refers = false) (noDollar : '$' ∉ cs) :
    readValue lookup mode cs = readValue lookup' mode cs := by
  induction cs generalizing mode with
  | nil => exact Mode.close_plain lookup lookup' plain
  | cons c rest ih =>
      obtain ⟨first, others⟩ := List.ne_and_not_mem_of_not_mem_cons noDollar
      obtain ⟨same, goesOn⟩ := Mode.next_plain lookup lookup' plain first.symm
      rw [readValue_cons, readValue_cons, ← same]
      cases next : mode.next lookup c with
      | none => rfl
      | some step => rw [Option.bind_some, Option.bind_some, ih step.2 (goesOn step next) others]

/-- What a line does, save for the value: nothing when it is malformed, else the name that it
assigns to if it does. -/
def Reading.target : Reading → Option (Option String)
  | .malformed => none
  | .nothing => some none
  | .assignment name _ => some (some name)

def Reading.value? : Reading → Option String
  | .assignment _ value => some value
  | _ => none

theorem readLine_target (lookup lookup' : List Char → List Char) (line : List Char) :
    (readLine lookup line).target = (readLine lookup' line).target := by
  unfold readLine
  dsimp only
  split
  · rfl
  split
  · rfl
  split
  · rfl
  · rename_i name rest found assigned
    have same := readValue_isSome lookup lookup' (.text false) (Text.trimStart rest)
    cases value : readValue lookup (.text false) (Text.trimStart rest) with
    | none =>
        rw [value] at same
        rw [Option.isNone_iff_eq_none.mp (Option.isSome_eq_false_iff.mp same.symm)]
    | some text =>
        rw [value] at same
        obtain ⟨text', value'⟩ := Option.isSome_iff_exists.mp same.symm
        rw [value']
        rfl

theorem trimStart_subset (cs : List Char) : Text.trimStart cs ⊆ cs :=
  (List.dropWhile_sublist _).subset

theorem trimEnd_subset (cs : List Char) : Text.trimEnd cs ⊆ cs := by
  intro c within
  exact List.mem_reverse.mp ((List.dropWhile_sublist _).subset (List.mem_reverse.mp within))

theorem readName?_subset {line rest : List Char} {name : String}
    (read : readName? line = some (name, rest)) :
    rest ⊆ line := by
  cases line with
  | nil => cases read
  | cons c cs =>
      rw [readName?] at read
      split at read
      · cases read
        have behind : Text.trimStart (cs.dropWhile isNamePart) ⊆ cs :=
          List.Subset.trans (trimStart_subset _) (List.dropWhile_sublist _).subset
        exact List.Subset.trans behind (List.subset_cons_self c cs)
      · cases read

theorem readTarget?_subset {line rest : List Char} {name : String}
    (read : readTarget? line = some (name, rest)) :
    rest ⊆ line := by
  obtain ⟨⟨first, behind⟩, readFirst, goesOn⟩ := Option.bind_eq_some_iff.mp read
  have within := readName?_subset readFirst
  dsimp only at goesOn
  split at goesOn
  · cases goesOn
    exact List.Subset.trans (List.subset_cons_self _ _) within
  · split at goesOn
    · obtain ⟨⟨second, behind'⟩, readSecond, goesOn⟩ := Option.bind_eq_some_iff.mp goesOn
      have within' := List.Subset.trans (readName?_subset readSecond) within
      dsimp only at goesOn
      split at goesOn
      · cases goesOn
        exact List.Subset.trans (List.subset_cons_self _ _) within'
      · cases goesOn
    · cases goesOn

theorem readLine_plain (lookup lookup' : List Char → List Char) {line : List Char}
    (noDollar : '$' ∉ line) :
    readLine lookup line = readLine lookup' line := by
  unfold readLine
  dsimp only
  split
  · rfl
  split
  · rfl
  · rename_i name rest found
    have inLine := List.Subset.trans (trimStart_subset _) (trimEnd_subset line)
    have within :=
      List.Subset.trans (trimStart_subset rest)
        (List.Subset.trans (readTarget?_subset found) inLine)
    rw [readValue_plain lookup lookup' (.text false) rfl fun dollar => noDollar (within dollar)]

/-! ### Names -/

theorem Names.get?_cons (n : String × String) (names : Names) (name : String) :
    Names.get? (n :: names) name = if n.1 = name then some n.2 else Names.get? names name := by
  by_cases named : n.1 = name
  · rw [if_pos named, Names.get?, List.find?_cons_of_pos (by simpa using named)]
    rfl
  · rw [if_neg named, Names.get?, List.find?_cons_of_neg (by simpa using named)]
    rfl

theorem Names.get?_append (names more : Names) (name : String) :
    Names.get? (names ++ more) name = (names.get? name).or (more.get? name) := by
  rw [Names.get?, List.find?_append, Option.map_or]
  rfl

/-- What is set in an environment keeps its value, and what is not gets that of its first
assignment. -/
theorem Names.get?_load {environment assigned loaded : Names}
    (load : environment.load? assigned = some loaded) (name : String) :
    loaded.get? name = (environment.get? name).or (assigned.get? name) := by
  induction assigned generalizing environment with
  | nil =>
      cases load
      exact (Option.or_none).symm
  | cons a rest ih =>
      rw [Names.load?] at load
      rw [Names.get?_cons]
      split at load
      · rename_i known
        rw [ih load]
        split
        · rename_i named
          rw [← named, Option.or_of_isSome known, Option.or_of_isSome known]
        · rfl
      · split at load
        · cases load
        · rw [ih load, Names.get?_append, Names.get?_cons, Option.or_assoc]
          split <;> rfl

/-- Loading ends without a result exactly where the value of a first assignment that counts holds a
NUL. -/
theorem Names.load?_eq_none_iff {environment assigned : Names} : environment.load? assigned = none ↔
    ∃ name value, environment.get? name = none ∧ assigned.get? name = some value ∧
      '\x00' ∈ value.toList := by
  induction assigned generalizing environment with
  | nil =>
      refine iff_of_false nofun ?_
      rintro ⟨name, value, -, unassigned, -⟩
      cases unassigned
  | cons a rest ih =>
      rw [Names.load?]
      split
      · rename_i known
        rw [ih]
        refine exists_congr fun name => exists_congr fun value => and_congr_right fun unset => ?_
        have other : a.1 ≠ name := by
          rintro rfl
          rw [unset] at known
          cases known
        rw [Names.get?_cons, if_neg other]
      · rename_i unknown
        split
        · rename_i nul
          refine iff_of_true rfl ⟨a.1, a.2, ?_, ?_, List.contains_iff_mem.mp nul⟩
          · exact Option.not_isSome_iff_eq_none.mp unknown
          · rw [Names.get?_cons, if_pos rfl]
        · rename_i noNul
          rw [ih]
          refine exists_congr fun name => exists_congr fun value => ?_
          rw [Names.get?_append, Names.get?_cons, Names.get?_cons]
          by_cases named : a.1 = name
          -- The name has been set by this assignment, whose value can be set.
          · rw [if_pos named, if_pos named]
            constructor
            · rintro ⟨unset, -⟩
              rw [Option.or_eq_none_iff] at unset
              cases unset.2
            · rintro ⟨-, same, within⟩
              cases same
              exact absurd (List.contains_iff_mem.mpr within) noNul
          · rw [if_neg named, if_neg named, show Names.get? [] name = none from rfl, Option.or_none]

/-! ### Files -/

/-- The first line that assigns to a name, among the lines before the first malformed one. -/
def assigning? (name : String) : List (List Char) → Option (List Char)
  | [] => none
  | line :: rest =>
    match (readLine (fun _ => []) line).target with
    | none => none
    | some target => if target = some name then some line else assigning? name rest

/-- Where the first line that assigns to a name has no dollar sign, the name's first value is what
this line alone tells. -/
theorem get?_readLines {name : String} {environment latest : Names} {lines : List (List Char)}
    (plain : ∀ line ∈ assigning? name lines, '$' ∉ line) :
    (readLines environment latest lines).get? name =
      (assigning? name lines).bind fun line => (readLine (fun _ => []) line).value? := by
  induction lines generalizing environment latest with
  | nil => rfl
  | cons line rest ih =>
      have same := readLine_target (environment.meaning latest) (fun _ => []) line
      rw [assigning?] at plain ⊢
      rw [readLines]
      cases read : readLine (environment.meaning latest) line with
      | malformed =>
          rw [read] at same
          rw [← same]
          rfl
      | nothing =>
          rw [read] at same
          rw [← same] at plain ⊢
          exact ih plain
      | assignment target value =>
          rw [read] at same
          rw [← same] at plain ⊢
          dsimp only [Reading.target] at plain ⊢
          rw [Names.get?_cons]
          by_cases named : target = name
          · rw [if_pos (congrArg some named)] at plain ⊢
            rw [if_pos named, Option.bind_some, ← readLine_plain (environment.meaning latest)
              _ (plain line rfl), read]
            rfl
          · rw [if_neg (mt Option.some.inj named)] at plain ⊢
            rw [if_neg named]
            exact ih plain

theorem readLines_mono {lines more : List (List Char)} (prefixed : lines <+: more)
    (environment latest : Names) :
    readLines environment latest lines <+: readLines environment latest more := by
  obtain ⟨behind, rfl⟩ := prefixed
  induction lines generalizing environment latest with
  | nil => exact List.nil_prefix
  | cons line rest ih =>
      rw [List.cons_append, readLines, readLines]
      split
      · exact List.prefix_rfl
      · exact ih _ _
      · exact List.prefix_cons_iff.mpr (.inr ⟨_, rfl, ih _ _⟩)

theorem Names.get?_mono {names more : Names} (prefixed : names <+: more) {name : String}
    (found : (names.get? name).isSome = true) : more.get? name = names.get? name := by
  obtain ⟨behind, rfl⟩ := prefixed
  rw [Names.get?_append, Option.or_of_isSome found]

theorem takeLine_append {parts rest more : List Bytes} {buffer text : List Char} {scan : Scan}
    (taken : takeLine buffer scan parts = .line text rest) :
    takeLine buffer scan (parts ++ more) = .line text (rest ++ more) := by
  induction parts generalizing buffer scan with
  | nil =>
      rw [takeLine] at taken
      split at taken <;> cases taken
  | cons bytes parts ih =>
      rw [takeLine] at taken
      rw [List.cons_append, takeLine]
      split at taken
      · cases taken
      · split at taken
        · rename_i comment
          rw [if_pos comment]
          cases taken
          rfl
        · rename_i noComment
          rw [if_neg noComment]
          split at taken
          · cases taken
            rfl
          · cases taken
            rfl
          · exact ih taken

theorem linesFrom_mono {bound bound' : Nat} (le : bound ≤ bound') (parts more : List Bytes) :
    linesFrom bound parts <+: linesFrom bound' (parts ++ more) := by
  induction bound generalizing bound' parts with
  | zero => exact List.nil_prefix
  | succ bound ih =>
      obtain ⟨bound', rfl⟩ := Nat.exists_eq_add_one_of_ne_zero (Nat.ne_zero_of_lt le)
      rw [linesFrom]
      split
      · exact List.nil_prefix
      · exact List.nil_prefix
      · rename_i text rest taken
        rw [linesFrom, takeLine_append taken]
        exact List.prefix_cons_iff.mpr (.inr ⟨_, rfl, ih (Nat.le_of_succ_le_succ le) rest⟩)

/-- A line end ends a part of the file. -/
theorem fileLines_append (line head tail : Bytes) :
    fileLines line (head ++ Octet.newline :: tail) =
      fileLines line (head ++ [Octet.newline]) ++ fileLines [] tail := by
  induction head generalizing line with
  | nil => simp [fileLines]
  | cons b head ih =>
      rw [List.cons_append, List.cons_append, fileLines, fileLines]
      split
      · rw [ih, List.cons_append]
      · exact ih _

theorem withoutMark_append (head tail : Bytes) :
    withoutMark (head ++ Octet.newline :: tail) = withoutMark head ++ Octet.newline :: tail := by
  rcases head with _ | ⟨a, _ | ⟨b, _ | ⟨c, head⟩⟩⟩
  · simp [withoutMark, Octet.newline]
  · simp [withoutMark, Octet.newline]
  · simp [withoutMark, Octet.newline]
  · simp only [withoutMark, List.cons_append, List.take_succ_cons, List.take_zero,
      List.drop_succ_cons, List.drop_zero]
    split <;> rfl

/-- What stands behind a line end changes none of the lines before it. -/
theorem lines_mono (head tail : Bytes) :
    lines (head ++ [Octet.newline]) <+: lines (head ++ Octet.newline :: tail) := by
  rw [lines, lines, withoutMark_append, withoutMark_append, fileLines_append _ _ tail]
  refine linesFrom_mono ?_ _ _
  rw [List.length_append]
  omega

theorem get?_assignments_append {environment : Names} {head : Bytes} {name : String}
    (assigned : ((assignments environment (head ++ [Octet.newline])).get? name).isSome = true)
    (tail : Bytes) :
    (assignments environment (head ++ Octet.newline :: tail)).get? name =
      (assignments environment (head ++ [Octet.newline])).get? name :=
  Names.get?_mono (readLines_mono (lines_mono head tail) environment []) assigned

end CommandBridge.EnvFile
