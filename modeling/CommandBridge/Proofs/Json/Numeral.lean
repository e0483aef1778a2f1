import CommandBridge.Proofs.Json.Quoted
import Mathlib.Data.List.TakeDrop

/-! Numbers within a text. What comes behind a number does not change what is read of it, as long as
it does not go on the number, so a number that reads back by itself reads back within any text. -/
namespace CommandBridge.Json

def goesOn (b : UInt8) : Bool :=
  Octet.isDigit b || b == Octet.dot || b == Octet.smallE || b == Octet.bigE

/-- A text that does not go on a number that it stands behind. -/
def EndsNumber (bytes : Bytes) : Prop := ∀ b ∈ bytes.head?, goesOn b = false

theorem endsNumber_nil : EndsNumber [] := nofun

theorem endsNumber_cons {b : UInt8} (other : goesOn b = false) (rest : Bytes) :
    EndsNumber (b :: rest) := by
  rintro b' ⟨⟩
  exact other

/-- A reader whose reading stays the same whatever comes behind the text, unless that goes on a
number. -/
def Undisturbed {α : Type} (reader : Bytes → Except ReadError (α × Bytes)) : Prop :=
  ∀ bytes a rest, reader bytes = .ok (a, rest) →
    rest <:+ bytes ∧ ∀ more, EndsNumber more → reader (bytes ++ more) = .ok (a, rest ++ more)

theorem undisturbed_bind {α β : Type} {reader : Bytes → Except ReadError (α × Bytes)}
    {next : α × Bytes → Except ReadError (β × Bytes)} (first : Undisturbed reader)
    (second : ∀ a, Undisturbed fun bytes => next (a, bytes)) :
    Undisturbed fun bytes => reader bytes >>= next := by
  intro bytes b rest reading
  dsimp only at reading ⊢
  cases read : reader bytes with
  | error e => rw [read] at reading; cases reading
  | ok found =>
      obtain ⟨a, between⟩ := found
      rw [read] at reading
      obtain ⟨leaves, goes⟩ := first bytes a between read
      obtain ⟨leaves', goes'⟩ := second a between b rest reading
      refine ⟨leaves'.trans leaves, fun more ends => ?_⟩
      rw [goes more ends]
      exact goes' more ends

theorem undisturbed_ok {α : Type} (a : α) : Undisturbed fun bytes => .ok (a, bytes) := by
  rintro bytes _ _ ⟨⟩
  exact ⟨List.suffix_rfl, fun _ _ => rfl⟩

theorem undisturbed_fail {α : Type} (fault : Fault) (behind : Bytes → Bytes) :
    Undisturbed fun bytes => (fail fault (behind bytes) : Except ReadError (α × Bytes)) := nofun

theorem readDigits_append {more : Bytes} (ends : EndsNumber more) (bytes : Bytes) :
    readDigits (bytes ++ more) = ((readDigits bytes).1, (readDigits bytes).2 ++ more) := by
  simp only [readDigits, List.span_eq_takeWhile_dropWhile]
  induction bytes with
  | nil =>
      cases more with
      | nil => rfl
      | cons b rest =>
          have stops := ends b rfl
          simp only [goesOn, Bool.or_eq_false_iff] at stops
          simp [stops.1.1.1]
  | cons b bytes ih =>
      cases digit : Octet.isDigit b with
      | true => simpa [digit] using ih
      | false => simp [digit]

def readSomeDigits (bytes : Bytes) : Except ReadError (Bytes × Bytes) :=
  match readDigits bytes with
  | ([], []) => fail .endInValue []
  | ([], _ :: rest) => fail .badNumber rest
  | read => .ok read

theorem undisturbed_readSomeDigits : Undisturbed readSomeDigits := by
  intro bytes digits rest reading
  have read : readDigits bytes = (digits, rest) ∧ digits ≠ [] := by
    unfold readSomeDigits at reading
    split at reading
    · cases reading
    · cases reading
    · rename_i noneLeft noneFound
      rw [Except.ok.inj reading] at noneLeft noneFound
      refine ⟨Except.ok.inj reading, ?_⟩
      rintro rfl
      cases rest with
      | nil => exact noneLeft rfl
      | cons b rest => exact noneFound b rest rfl
  constructor
  · rw [readDigits, List.span_eq_takeWhile_dropWhile] at read
    cases read.1
    exact List.dropWhile_suffix _
  · intro more ends
    have longer := readDigits_append ends bytes
    rw [read.1] at longer
    rw [readSomeDigits, longer]
    cases digits with
    | nil => exact absurd rfl read.2
    | cons digit digits => rfl

def readFraction : Bytes → Except ReadError (Bytes × Bytes)
  | b :: behind => if b = Octet.dot then readSomeDigits behind else .ok ([], b :: behind)
  | [] => .ok ([], [])

theorem undisturbed_readFraction : Undisturbed readFraction := by
  rintro (_ | ⟨b, behind⟩) fraction rest reading
  · cases reading
    refine ⟨List.suffix_rfl, fun more ends => ?_⟩
    cases more with
    | nil => rfl
    | cons b more =>
        have stops := ends b rfl
        have notDot : b ≠ Octet.dot := by
          rintro rfl
          cases stops
        exact if_neg notDot
  · rw [readFraction] at reading
    split at reading
    · obtain ⟨leaves, goes⟩ := undisturbed_readSomeDigits _ _ _ reading
      refine ⟨leaves.trans (List.suffix_cons b behind), fun more ends => ?_⟩
      rw [List.cons_append, readFraction, if_pos ‹_›, goes more ends]
    · cases reading
      refine ⟨List.suffix_rfl, fun more _ => ?_⟩
      rw [List.cons_append, readFraction, if_neg ‹_›]

def readSigned (negative isZero : Bool) (bytes : Bytes) : Except ReadError (Int × Bytes) :=
  readSomeDigits bytes >>= fun read =>
    let value := Octet.numeral read.1
    if !negative && !isZero && 2147483647 < value then
      let short := (List.range read.1.length).find? fun n => 2147483647 <
        Octet.numeral (read.1.take (n + 1))
      fail .numberOutOfRange (bytes.drop (short.getD 0 + 1))
    else .ok (if negative then -(value : Int) else value, read.2)

theorem undisturbed_readSigned (negative isZero : Bool) :
    Undisturbed (readSigned negative isZero) := by
  intro bytes exponent rest reading
  unfold readSigned at reading
  cases read : readSomeDigits bytes with
  | error e => rw [read] at reading; cases reading
  | ok found =>
      rw [read] at reading
      obtain ⟨leaves, goes⟩ := undisturbed_readSomeDigits _ _ _ read
      dsimp only [bind, Except.bind] at reading
      split at reading
      · cases reading
      · cases reading
        refine ⟨leaves, fun more ends => ?_⟩
        rw [readSigned, goes more ends]
        exact if_neg ‹_›

theorem readExponent_cons (isZero : Bool) (b : UInt8) (rest : Bytes) :
    readExponent isZero (b :: rest) =
      if b = Octet.minus then readSigned true isZero rest
      else if b = Octet.plus then readSigned false isZero rest
      else readSigned false isZero (b :: rest) := by
  unfold readExponent readSigned readSomeDigits
  by_cases minus : b = Octet.minus
  · simp only [minus, if_true]
    rcases readDigits rest with ⟨_ | ⟨digit, digits⟩, _ | ⟨c, behind⟩⟩ <;> rfl
  · by_cases plus : b = Octet.plus
    · subst plus
      simp only [minus, if_true, if_false]
      rcases readDigits rest with ⟨_ | ⟨digit, digits⟩, _ | ⟨c, behind⟩⟩ <;> rfl
    · simp only [minus, plus, if_false]
      rcases readDigits (b :: rest) with ⟨_ | ⟨digit, digits⟩, _ | ⟨c, behind⟩⟩ <;> rfl

theorem undisturbed_readExponent (isZero : Bool) : Undisturbed (readExponent isZero) := by
  rintro (_ | ⟨b, behind⟩) exponent rest reading
  · cases reading
  · rw [readExponent_cons] at reading
    by_cases minus : b = Octet.minus
    · rw [if_pos minus] at reading
      obtain ⟨leaves, goes⟩ := undisturbed_readSigned _ _ _ _ _ reading
      refine ⟨leaves.trans (List.suffix_cons b behind), fun more ends => ?_⟩
      rw [List.cons_append, readExponent_cons, if_pos minus, goes more ends]
    · by_cases plus : b = Octet.plus
      · rw [if_neg minus, if_pos plus] at reading
        obtain ⟨leaves, goes⟩ := undisturbed_readSigned _ _ _ _ _ reading
        refine ⟨leaves.trans (List.suffix_cons b behind), fun more ends => ?_⟩
        rw [List.cons_append, readExponent_cons, if_neg minus, if_pos plus, goes more ends]
      · rw [if_neg minus, if_neg plus] at reading
        obtain ⟨leaves, goes⟩ := undisturbed_readSigned _ _ _ _ _ reading
        refine ⟨leaves, fun more ends => ?_⟩
        rw [List.cons_append, readExponent_cons, if_neg minus, if_neg plus, ← List.cons_append,
          goes more ends]

/-- What a numeral comes to when its digits are read and only an exponent may follow. -/
def readBehind (negative : Bool) (whole fraction : Bytes) :
    Bytes → Except ReadError (Numeral × Bytes)
  | b :: behind =>
    if b = Octet.smallE || b = Octet.bigE then
      readExponent (Octet.numeral (whole ++ fraction) == 0) behind >>= fun read =>
        .ok (⟨negative, whole, fraction, some read.1⟩, read.2)
    else .ok (⟨negative, whole, fraction, none⟩, b :: behind)
  | [] => .ok (⟨negative, whole, fraction, none⟩, [])

theorem undisturbed_readBehind (negative : Bool) (whole fraction : Bytes) :
    Undisturbed (readBehind negative whole fraction) := by
  rintro (_ | ⟨b, behind⟩) numeral rest reading
  · cases reading
    refine ⟨List.suffix_rfl, fun more ends => ?_⟩
    cases more with
    | nil => rfl
    | cons b more =>
        have stops := ends b rfl
        have notLetter : ¬ (b = Octet.smallE || b = Octet.bigE) = true := by
          simp only [goesOn, Bool.or_eq_false_iff] at stops
          simpa using And.intro (beq_eq_false_iff_ne.mp stops.1.2) (beq_eq_false_iff_ne.mp stops.2)
        exact if_neg notLetter
  · rw [readBehind] at reading
    split at reading
    · have undisturbed : Undisturbed fun bytes =>
          readExponent (Octet.numeral (whole ++ fraction) == 0) bytes >>= fun read =>
            .ok (Numeral.mk negative whole fraction (some read.1), read.2) :=
        undisturbed_bind (undisturbed_readExponent _) fun exponent =>
          undisturbed_ok (Numeral.mk negative whole fraction (some exponent))
      obtain ⟨leaves, goes⟩ := undisturbed _ _ _ reading
      refine ⟨leaves.trans (List.suffix_cons b behind), fun more ends => ?_⟩
      rw [List.cons_append, readBehind, if_pos ‹_›]
      exact goes more ends
    · cases reading
      refine ⟨List.suffix_rfl, fun more _ => ?_⟩
      rw [List.cons_append, readBehind, if_neg ‹_›]

def isPadded (whole : Bytes) : Bool := whole.head? = some Octet.zero && !whole.tail.isEmpty

theorem readNumeral_eq (negative : Bool) (bytes : Bytes) : readNumeral negative bytes =
    readSomeDigits bytes >>= fun read =>
      if isPadded read.1 then fail .badNumber (read.1.drop 2 ++ read.2)
      else readFraction read.2 >>= fun behind => readBehind negative read.1 behind.1 behind.2 := by
  unfold readNumeral readSomeDigits
  rcases readDigits bytes with ⟨_ | ⟨first, more⟩, rest⟩
  · cases rest <;> rfl
  · simp only [bind, Except.bind, isPadded, List.head?_cons, Option.some.injEq, List.tail_cons]
    split
    · rfl
    · cases rest with
      | nil => rfl
      | cons b behind =>
          simp only [readFraction]
          split
          · unfold readSomeDigits
            rcases readDigits behind with ⟨_ | ⟨digit, digits⟩, _ | ⟨c, behind⟩⟩ <;> rfl
          · rfl

theorem undisturbed_readNumeral (negative : Bool) : Undisturbed (readNumeral negative) := by
  rw [funext (readNumeral_eq negative)]
  refine undisturbed_bind undisturbed_readSomeDigits fun whole => ?_
  by_cases padded : isPadded whole = true
  · simp only [if_pos padded]
    exact undisturbed_fail _ _
  · simp only [if_neg padded]
    exact undisturbed_bind undisturbed_readFraction fun fraction =>
      undisturbed_readBehind negative whole fraction

theorem undisturbed_readNumber (negative : Bool) : Undisturbed (readNumber negative) := by
  refine undisturbed_bind (undisturbed_readNumeral negative) fun numeral => ?_
  dsimp only
  cases numeral.number? with
  | some n => exact undisturbed_ok n
  | none => exact undisturbed_fail _ _

end CommandBridge.Json
