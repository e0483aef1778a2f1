import CommandBridge.Http.MediaType
import Mathlib.Data.List.Basic
import Mathlib.Data.List.TakeWhile

/-! The grammar of the parameters of a media type, said without reading, and the media types of
JSON: the reader accepts what is of the grammar and nothing else. Blanks may stand in front of a
parameter and behind a value in quotes only. -/
namespace CommandBridge.Http.MediaType

def IsWord (cs : List Char) : Prop := cs ≠ [] ∧ ∀ c ∈ cs, isToken c = true

def Spaces (cs : List Char) : Prop := ∀ c ∈ cs, c = ' '

/-- The text of a value: a word, or at least one sign between quotes, of which only the first may be
a quote, with spaces behind them. -/
inductive ValueText : List Char → Prop
  | word {value} : IsWord value → ValueText value
  | quoted {first inner after} : isQuotable first = true →
      (∀ c ∈ inner, isQuotable c = true ∧ c ≠ '"') →
      Spaces after → ValueText ('"' :: first :: (inner ++ '"' :: after))

/-- The text of parameters from behind a semicolon. The last one may be empty, or there may be none
behind the last semicolon. -/
inductive Parameters : List Char → Prop
  | none {gap} : Spaces gap → Parameters gap
  | empty {gap name} : Spaces gap → IsWord name → Parameters (gap ++ (name ++ ['=']))
  | last {gap name value} : Spaces gap → IsWord name → ValueText value →
      Parameters (gap ++ (name ++ '=' :: value))
  | more {gap name value later} : Spaces gap → IsWord name → ValueText value → Parameters later →
      Parameters (gap ++ (name ++ '=' :: (value ++ ';' :: later)))

section Reading
variable {cs rest name value gap later : List Char} {bound : Nat}

theorem Spaces.dropWhile_eq (spaces : Spaces gap) (ends : ∀ c ∈ rest.head?, c ≠ ' ') :
    (gap ++ rest).dropWhile (· == ' ') = rest := by
  rw [List.dropWhile_append_of_pos fun c within => by simp [spaces c within]]
  cases rest with
  | nil => rfl
  | cons c rest => exact List.dropWhile_cons_of_neg (by simp [ends c rfl])

theorem span_token (word : ∀ c ∈ name, isToken c = true)
    (ends : ∀ c ∈ rest.head?, isToken c = false) :
    (name ++ rest).takeWhile isToken = name ∧ (name ++ rest).dropWhile isToken = rest := by
  rw [List.takeWhile_append_of_pos word, List.dropWhile_append_of_pos word]
  cases rest with
  | nil => exact ⟨List.append_nil _, rfl⟩
  | cons c rest =>
      have stops : ¬ isToken c = true := by simp [ends c rfl]
      rw [List.takeWhile_cons_of_neg stops, List.dropWhile_cons_of_neg stops, List.append_nil]
      exact ⟨rfl, rfl⟩

theorem quotedValue?_eq {first : Char} {inner after behind : List Char}
    (quotable : isQuotable first = true)
    (sound : ∀ c ∈ inner, isQuotable c = true ∧ c ≠ '"') (spaces : Spaces after)
    (ends : ∀ c ∈ behind.head?, c ≠ ' ') :
    quotedValue? (first :: (inner ++ '"' :: (after ++ behind))) =
      some (first :: inner, behind) := by
  have kept : ∀ c ∈ inner, (isQuotable c && decide (c ≠ '"')) = true :=
    fun c within => by simp [sound c within]
  have left : (inner ++ '"' :: (after ++ behind)).dropWhile (fun c => isQuotable c &&
    decide (c ≠ '"')) =
      '"' :: (after ++ behind) := by
    rw [List.dropWhile_append_of_pos kept, List.dropWhile_cons_of_neg (by decide)]
  have taken : (inner ++ '"' :: (after ++ behind)).takeWhile (fun c => isQuotable c &&
      decide (c ≠ '"')) = inner := by
    rw [List.takeWhile_append_of_pos kept, List.takeWhile_cons_of_neg (by decide), List.append_nil]
  simp only [quotedValue?, quotable, left, taken, spaces.dropWhile_eq ends]

theorem quotedValue?_sound {value behind : List Char}
    (read : quotedValue? cs = some (value, behind)) :
    ∃ first inner after, cs = first :: (inner ++ '"' :: (after ++ behind)) ∧
      isQuotable first = true ∧
      (∀ c ∈ inner, isQuotable c = true ∧ c ≠ '"') ∧ Spaces after := by
  cases cs with
  | nil => cases read
  | cons first rest =>
      rw [quotedValue?] at read
      split at read
      · rename_i tail quotable left
        obtain ⟨-, rfl⟩ := Prod.mk.inj (Option.some.inj read)
        refine ⟨first, rest.takeWhile fun c => isQuotable c && decide (c ≠ '"'),
          tail.takeWhile (· == ' '), ?_, quotable, fun c within => ?_, fun c within => ?_⟩
        · rw [List.takeWhile_append_dropWhile, ← left, List.takeWhile_append_dropWhile]
        · simpa using List.mem_takeWhile_imp within
        · simpa using List.mem_takeWhile_imp within
      · cases read

/-- What is behind the equals sign of a parameter: nothing, or a value with what its semicolon leads
to. -/
def Assigns (bound : Nat) (rest : List Char) : Prop :=
  rest = [] ∨ ValueText rest ∨
    ∃ value later, rest = value ++ ';' :: later ∧ ValueText value ∧ (parameters? bound later).isSome

theorem IsWord.head_ne {c : Char} (word : IsWord value) (noToken : isToken c = false) :
    value ≠ c :: rest := by
  rintro rfl
  rw [word.2 c (.head _)] at noToken
  cases noToken

theorem quoted_assigns_iff {inner : List Char} (name : List Char) :
    (match quotedValue? inner with
      | some (value, []) => some [(name.map Char.toLower, value)]
      | some (value, ';' :: behind) =>
          (parameters? bound behind).map ((name.map Char.toLower, value) :: ·)
      | _ => .none).isSome ↔ Assigns bound ('"' :: inner) := by
  constructor
  · intro read
    split at read
    · rename_i value found
      obtain ⟨first, between, after, rfl, quotable, sound, spaces⟩ := quotedValue?_sound found
      rw [List.append_nil]
      exact .inr (.inl (.quoted quotable sound spaces))
    · rename_i value behind found
      obtain ⟨first, between, after, rfl, quotable, sound, spaces⟩ := quotedValue?_sound found
      rw [Option.isSome_map] at read
      exact .inr (.inr ⟨_, behind, by simp, .quoted quotable sound spaces, read⟩)
    · cases read
  · have noToken : isToken '"' = false := by decide
    rintro (none | text | ⟨value, later, parts, text, read⟩)
    · cases none
    · cases text with
      | word word => exact (word.head_ne noToken rfl).elim
      | @quoted first between after quotable sound spaces =>
          have ends : ∀ c ∈ ([] : List Char).head?, c ≠ ' ' := nofun
          have found := quotedValue?_eq quotable sound spaces ends
          rw [List.append_nil] at found
          rw [found]
          rfl
    · cases text with
      | word word =>
          obtain ⟨c, rest, rfl⟩ := List.exists_cons_of_ne_nil word.1
          obtain ⟨rfl, -⟩ := List.cons.inj parts
          exact (word.head_ne noToken rfl).elim
      | @quoted first between after quotable sound spaces =>
          have ends : ∀ c ∈ (';' :: later).head?, c ≠ ' ' := by
            rintro _ ⟨⟩
            decide
          have found := quotedValue?_eq quotable sound spaces ends
          have same : inner = first :: (between ++ '"' :: (after ++ ';' :: later)) := by
            simpa using (List.cons.inj parts).2
          rw [same, found]
          simpa using read

theorem word_assigns_iff (name : List Char) (plain : ∀ inner, rest ≠ '"' :: inner) :
    (match rest.takeWhile isToken, rest.dropWhile isToken with
      | value, [] => some [(name.map Char.toLower, value)]
      | _ :: _, ';' :: behind =>
        (parameters? bound behind).map ((name.map Char.toLower, rest.takeWhile isToken) :: ·)
      | _, _ => .none).isSome ↔ Assigns bound rest := by
  have parts : rest.takeWhile isToken ++ rest.dropWhile isToken = rest :=
    List.takeWhile_append_dropWhile
  have token : ∀ c ∈ rest.takeWhile isToken, isToken c = true :=
    fun c within => List.mem_takeWhile_imp within
  constructor
  · intro read
    split at read
    · rename_i left
      rw [left, List.append_nil] at parts
      by_cases none : rest = []
      · exact .inl none
      · rw [parts] at token
        exact .inr (.inl (.word ⟨none, token⟩))
    · rename_i head tail behind taken left
      rw [Option.isSome_map] at read
      refine .inr (.inr ⟨rest.takeWhile isToken, behind, ?_, .word ⟨?_, token⟩, read⟩)
      · rw [← left, parts]
      · rw [taken]
        exact List.cons_ne_nil _ _
    · cases read
  · rintro (rfl | text | ⟨value, later, rfl, text, read⟩)
    · rfl
    · cases text with
      | word word =>
          have ends : ∀ c ∈ ([] : List Char).head?, isToken c = false := nofun
          obtain ⟨taken, left⟩ := span_token word.2 ends
          rw [List.append_nil] at taken left
          rw [taken, left]
          rfl
      | quoted => exact (plain _ rfl).elim
    · cases text with
      | word word =>
          have ends : ∀ c ∈ (';' :: later).head?, isToken c = false := by
            rintro _ ⟨⟩
            decide
          obtain ⟨taken, left⟩ := span_token word.2 ends
          obtain ⟨c, value, rfl⟩ := List.exists_cons_of_ne_nil word.1
          rw [taken, left]
          simpa using read
      | quoted => exact (plain _ rfl).elim

theorem parameters?_name_iff (spaces : Spaces gap) (word : IsWord name) :
    (parameters? (bound + 1) (gap ++ (name ++ '=' :: rest))).isSome ↔ Assigns bound rest := by
  obtain ⟨c, name, rfl⟩ := List.exists_cons_of_ne_nil word.1
  have blunt : ∀ d ∈ (c :: name ++ '=' :: rest).head?, d ≠ ' ' := by
    rintro _ ⟨⟩ rfl
    exact word.head_ne (by decide) rfl
  have ends : ∀ d ∈ ('=' :: rest).head?, isToken d = false := by
    rintro _ ⟨⟩
    decide
  obtain ⟨taken, dropped⟩ := span_token word.2 ends
  rw [parameters?]
  simp only [spaces.dropWhile_eq blunt, taken, dropped]
  rw [List.cons_append, List.isEmpty_cons]
  simp only [Bool.false_eq_true, if_false]
  split
  · rename_i inner _ same
    cases same
    exact quoted_assigns_iff _
  · rename_i plain _ same
    cases same
    exact word_assigns_iff _ plain
  · rename_i other
    exact (other _ _ _ rfl rfl).elim

/-- Parameters that are read are none, or begin with a name and an equals sign. -/
theorem parameters?_begins (read : (parameters? (bound + 1) cs).isSome) :
    Spaces cs ∨ ∃ gap name rest, cs = gap ++ (name ++ '=' :: rest) ∧ Spaces gap ∧ IsWord name := by
  have spaces : Spaces (cs.takeWhile (· == ' ')) :=
    fun c within => by simpa using List.mem_takeWhile_imp within
  have parts : cs.takeWhile (· == ' ') ++ cs.dropWhile (· == ' ') = cs :=
    List.takeWhile_append_dropWhile
  rw [parameters?] at read
  dsimp only at read
  split at read
  · rename_i none
    rw [List.isEmpty_iff.mp none, List.append_nil] at parts
    exact .inl (parts ▸ spaces)
  · obtain ⟨name, rest, named, word⟩ : ∃ name rest, cs.dropWhile (· == ' ') = name ++ '=' :: rest ∧
        IsWord name := by
      have front : (cs.dropWhile (· == ' ')).takeWhile isToken ++
        (cs.dropWhile (· == ' ')).dropWhile isToken =
          cs.dropWhile (· == ' ') := List.takeWhile_append_dropWhile
      have token : ∀ c ∈ (cs.dropWhile (· == ' ')).takeWhile isToken, isToken c = true :=
        fun c within => List.mem_takeWhile_imp within
      split at read
      · rename_i taken left
        exact ⟨_, _, (left ▸ front).symm, by rw [taken]; exact List.cons_ne_nil _ _, token⟩
      · rename_i taken left
        exact ⟨_, _, (left ▸ front).symm, by rw [taken]; exact List.cons_ne_nil _ _, token⟩
      · cases read
    exact .inr ⟨_, name, rest, (named ▸ parts).symm, spaces, word⟩

/-- The text behind a semicolon that is read as parameters is that of parameters. -/
theorem parameters?_isSome_iff (enough : cs.length < bound) :
    (parameters? bound cs).isSome ↔ Parameters cs := by
  obtain ⟨bound, rfl⟩ : ∃ n, bound = n + 1 := ⟨bound - 1, by omega⟩
  constructor
  · intro read
    induction bound generalizing cs with
    | zero =>
        obtain rfl : cs = [] := List.length_eq_zero_iff.mp (by omega)
        exact .none nofun
    | succ bound ih =>
        rcases parameters?_begins read with spaces | ⟨gap, name, rest, rfl, spaces, word⟩
        · exact .none spaces
        · rcases (parameters?_name_iff spaces word).mp read with rfl | text |
            ⟨value, later, rfl, text, goesOn⟩
          · exact .empty spaces word
          · exact .last spaces word text
          · have short : later.length < bound + 1 := by
              simp only [List.length_append, List.length_cons] at enough
              omega
            exact .more spaces word text (ih short goesOn)
  · intro text
    induction text generalizing bound with
    | @none gap spaces =>
        have ends : ∀ c ∈ ([] : List Char).head?, c ≠ ' ' := nofun
        have left := spaces.dropWhile_eq ends
        rw [List.append_nil] at left
        simp [parameters?, left]
    | empty spaces word => exact (parameters?_name_iff spaces word).mpr (.inl rfl)
    | last spaces word value => exact (parameters?_name_iff spaces word).mpr (.inr (.inl value))
    | @more gap name value later spaces word text _ ih =>
        simp only [List.length_append, List.length_cons] at enough
        obtain ⟨bound, rfl⟩ : ∃ n, bound = n + 1 := ⟨bound - 1, by omega⟩
        exact (parameters?_name_iff spaces word).mpr
          (.inr (.inr ⟨value, later, rfl, text, ih bound (by omega)⟩))

end Reading

theorem ofText?_append {type subtype tail name : List Char} {suffix : Option (List Char)}
    (word : IsWord type) (token : ∀ c ∈ subtype, isToken c = true)
    (split : splitSuffix (subtype.map Char.toLower) = (name, suffix)) (named : name.isEmpty = false)
    (ends : ∀ c ∈ tail.head?, isToken c = false) :
    (tail = [] → ofText? (type ++ '/' :: (subtype ++ tail)) =
      some ⟨type.map Char.toLower, name, suffix, []⟩) ∧
    (∀ rest, tail = ';' :: rest → ofText? (type ++ '/' :: (subtype ++ tail)) =
      (parameters? (rest.length + 1) rest).map (⟨type.map Char.toLower, name, suffix, ·⟩)) ∧
    (tail ≠ [] → (∀ rest, tail ≠ ';' :: rest) →
      ofText? (type ++ '/' :: (subtype ++ tail)) = none) := by
  obtain ⟨c, type, rfl⟩ := List.exists_cons_of_ne_nil word.1
  have slash : ∀ c ∈ ('/' :: (subtype ++ tail)).head?, isToken c = false := by
    rintro _ ⟨⟩
    decide
  obtain ⟨taken, behind⟩ := span_token word.2 slash
  obtain ⟨taken', rest⟩ := span_token token ends
  rw [ofText?]
  simp only [taken, behind, taken', rest, split, named, Bool.false_eq_true, if_false]
  refine ⟨?_, ?_, fun some other => ?_⟩
  · rintro rfl
    rfl
  · rintro more rfl
    rfl
  · split
    · exact (some rfl).elim
    · exact (other _ rfl).elim
    · rfl

/-- A text that begins with the name of JSON, which goes no further, is its media type just where
nothing follows or parameters do behind a semicolon. -/
theorem isJson_iff {tail : List Char} (ends : ∀ c ∈ tail.head?, isToken c = false) :
    ((ofText? ("application/json".toList ++ tail)).map (·.isJson)).getD false = true ↔
      tail = [] ∨ ∃ more, tail = ';' :: more ∧ Parameters more := by
  have isJson :
    ∀ parameters, (MediaType.mk ("application".toList.map Char.toLower) "json".toList none
      parameters).isJson = true := by
    intro parameters
    have type : ("application".toList.map Char.toLower == "application".toList) = true := by decide
    rw [MediaType.isJson, Bool.and_eq_true, Bool.or_eq_true]
    exact ⟨type, .inl (beq_self_eq_true "json".toList)⟩
  have parts : "application/json".toList ++ tail = "application".toList ++
      '/' :: ("json".toList ++ tail) := by
    have split : "application/json".toList = "application".toList ++
      '/' :: "json".toList := by decide
    rw [split, List.append_assoc]
    rfl
  have type : IsWord "application".toList := ⟨by decide, List.all_eq_true.mp (by decide)⟩
  have subtype : ∀ c ∈ "json".toList, isToken c = true := List.all_eq_true.mp (by decide)
  have whole : splitSuffix ("json".toList.map Char.toLower) = ("json".toList, none) := by decide
  obtain ⟨alone, followed, otherwise⟩ := ofText?_append type subtype whole (by decide) ends
  rw [parts]
  by_cases none : tail = []
  · rw [alone none, Option.map_some, Option.getD_some, isJson]
    exact iff_of_true rfl (.inl none)
  · by_cases begins : ∃ more, tail = ';' :: more
    · obtain ⟨more, rfl⟩ := begins
      have read : (∃ more', ';' :: more = ';' :: more' ∧ Parameters more') ↔
        Parameters more := by simp
      rw [followed more rfl, read, ← parameters?_isSome_iff (Nat.lt_succ_self more.length)]
      cases parameters? (more.length + 1) more with
      | none => simp
      | some parameters =>
          simp only [Option.map_some, Option.getD_some, isJson, Option.isSome_some, or_true]
    · rw [not_exists] at begins
      rw [otherwise none begins]
      refine iff_of_false Bool.false_ne_true ?_
      rintro (empty | ⟨more, same, -⟩)
      · exact none empty
      · exact begins more same

end CommandBridge.Http.MediaType
