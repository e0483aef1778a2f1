import CommandBridge.Json.Skipper
import CommandBridge.Proofs.Json.Numeral

/-! The grammar of JSON texts over octets, said without reading: which texts spell a string, a
number and a value that may be so many levels deep, and which texts are of the form of a value at
all. The second kind asks for less. -/
namespace CommandBridge.Json

def Blanks (text : Bytes) : Prop := ∀ b ∈ text, isBlank b = true

def SpellsUnit (digits : Bytes) (unit : Nat) : Prop :=
  ∃ a b c d, digits.map Octet.hexValue? = [some a, some b, some c, some d] ∧
    unit = ((a * 16 + b) * 16 + c) * 16 + d

def IsLeading (unit : Nat) : Prop := 0xD800 ≤ unit ∧ unit ≤ 0xDBFF

def IsTrailing (unit : Nat) : Prop := 0xDC00 ≤ unit ∧ unit ≤ 0xDFFF

/-- What stands behind a backslash for a character: a sign of its own, its unit, or the two units of
a pair. -/
inductive Escape : Bytes → Char → Prop
  | sign {b c} : plainEscape? b = some c → Escape [b] c
  | unit {digits unit} : SpellsUnit digits unit → ¬ IsLeading unit → ¬ IsTrailing unit →
      Escape (Octet.smallU :: digits) (Char.ofNat unit)
  | pair {first second leading trailing} : SpellsUnit first leading → IsLeading leading →
      SpellsUnit second trailing → IsTrailing trailing →
      Escape (Octet.smallU :: (first ++ Octet.backslash :: Octet.smallU :: second))
        (Char.ofNat (0x10000 + (leading - 0xD800) * 0x400 + (trailing - 0xDC00)))

/-- The octets that stand between the quotes of a string, and those of the string, escapes
undone. -/
inductive Undone : Bytes → Bytes → Prop
  | nil : Undone [] []
  | plain {b body out} : IsPlain b → Undone body out → Undone (b :: body) (b :: out)
  | escape {esc c body out} : Escape esc c → Undone body out →
      Undone (Octet.backslash :: (esc ++ body)) (String.utf8EncodeChar c ++ out)

def SpellsString (text : Bytes) (s : String) : Prop :=
  ∃ body, text = Octet.quote :: (body ++ [Octet.quote]) ∧ Undone body (octets s)

def Digits (digits : Bytes) : Prop := digits ≠ [] ∧ ∀ b ∈ digits, Octet.isDigit b = true

inductive SpellsFraction : Bytes → Bytes → Prop
  | none : SpellsFraction [] []
  | digits {digits} : Digits digits → SpellsFraction (Octet.dot :: digits) digits

inductive SpellsSign : Bytes → Bool → Prop
  | none : SpellsSign [] false
  | plus : SpellsSign [Octet.plus] false
  | minus : SpellsSign [Octet.minus] true

inductive SpellsExponent : Bytes → Option Int → Prop
  | none : SpellsExponent [] none
  | letter {letter sign negative digits} : letter = Octet.smallE ∨ letter = Octet.bigE →
      SpellsSign sign negative → Digits digits →
      SpellsExponent (letter :: (sign ++ digits))
        (some (if negative then -(Octet.numeral digits : Int) else Octet.numeral digits))

/-- The parts of a number's text behind its sign: digits of which none is a zero in front of others,
a fraction and an exponent if they are there. -/
inductive SpellsNumeral (negative : Bool) : Bytes → Numeral → Prop
  | parts {whole point fraction power exponent} : Digits whole → isPadded whole = false →
      SpellsFraction point fraction → SpellsExponent power exponent →
      SpellsNumeral negative (whole ++ (point ++ power)) ⟨negative, whole, fraction, exponent⟩

/-- Only zero may have an exponent past the greatest 32-bit integer. -/
def Numeral.IsBounded (n : Numeral) : Prop :=
  ∀ e ∈ n.exponent, e ≤ 2147483647 ∨ Octet.numeral (n.whole ++ n.fraction) = 0

def SpellsNumber (text : Bytes) (n : Number) : Prop :=
  ∃ negative unsigned numeral, text = (if negative then [Octet.minus] else []) ++ unsigned ∧
    SpellsNumeral negative unsigned numeral ∧ numeral.IsBounded ∧ numeral.number? = some n

inductive SpellsScalar : Bytes → Json → Prop
  | null : SpellsScalar (Octet.smallN :: nullTail) .null
  | true : SpellsScalar (Octet.smallT :: trueTail) (.bool true)
  | false : SpellsScalar (Octet.smallF :: falseTail) (.bool false)
  | string {text s} : SpellsString text s → SpellsScalar text (.string s)
  | number {text n} : SpellsNumber text n → SpellsScalar text (.number n)

section Enclosed
variable {α : Type} (closer : UInt8) (piece : α → Bytes → Prop)

/-- What follows a piece up to and with what closes them: the other pieces, each behind a comma. -/
inductive Following : List α → Bytes → Prop
  | close {before} : Blanks before → Following [] (before ++ [closer])
  | more {before between text later a rest} : Blanks before → Blanks between → piece a text →
      Following rest later →
        Following (a :: rest) (before ++ Octet.comma :: (between ++ (text ++ later)))

/-- Pieces with commas between them, from behind what opens them up to and with what closes them. -/
inductive Enclosed : List α → Bytes → Prop
  | empty {before} : Blanks before → Enclosed [] (before ++ [closer])
  | full {before text later a rest} : Blanks before → piece a text →
      Following closer piece rest later → Enclosed (a :: rest) (before ++ (text ++ later))

end Enclosed

inductive Assigned (text : Bytes) : Bytes → Prop
  | colon {before between} : Blanks before → Blanks between →
      Assigned text (before ++ Octet.colon :: (between ++ text))

def MemberText (member : String × Bytes) (text : Bytes) : Prop :=
  ∃ key value, SpellsString key member.1 ∧ Assigned member.2 value ∧ text = key ++ value

/-- A text spells a value, with so many arrays and objects open at once at most. Of two members with
one key the later counts. -/
def Spells : Nat → Bytes → Json → Prop
  | 0, text, v => SpellsScalar text v
  | depth + 1, text, v =>
    SpellsScalar text v ∨
    (∃ items inside, v = .array items ∧ text = Octet.openBracket :: inside ∧
      Enclosed Octet.closeBracket (fun item text => Spells depth text item) items inside) ∨
    ∃ texts members inside, v = ofMembers members ∧ text = Octet.openBrace :: inside ∧
      Enclosed Octet.closeBrace MemberText texts inside ∧
      List.Forall₂ (fun text member => text.1 = member.1 ∧
        Spells depth text.2 member.2) texts members

/-- The octets between the quotes of what has the form of a string. Its escapes need not stand for
characters. -/
inductive PassesInner : Bytes → Prop
  | nil : PassesInner []
  | plain {b body} : IsPlain b → PassesInner body → PassesInner (b :: body)
  | sign {b body} : (plainEscape? b).isSome = true → PassesInner body →
      PassesInner (Octet.backslash :: b :: body)
  | unit {digits unit body} : SpellsUnit digits unit → PassesInner body →
      PassesInner (Octet.backslash :: Octet.smallU :: (digits ++ body))

def PassesString (text : Bytes) : Prop :=
  ∃ body, text = Octet.quote :: (body ++ [Octet.quote]) ∧ PassesInner body

inductive PassesScalar : Bytes → Prop
  | null : PassesScalar (Octet.smallN :: nullTail)
  | true : PassesScalar (Octet.smallT :: trueTail)
  | false : PassesScalar (Octet.smallF :: falseTail)
  | string {text} : PassesString text → PassesScalar text
  | number {negative unsigned numeral} : SpellsNumeral negative unsigned numeral →
      PassesScalar ((if negative then [Octet.minus] else []) ++ unsigned)

def Open.opener : Open → UInt8
  | .array => Octet.openBracket
  | .object => Octet.openBrace

/-- What stands in front of a value within an array or an object: nothing, or a key and a colon. -/
inductive PassesKey : Open → Bytes → Prop
  | array : PassesKey .array []
  | object {key before} : PassesString key → Blanks before →
      PassesKey .object (key ++ (before ++ [Octet.colon]))

/-- A text is of the form of a value, to whatever depth; or it is of the form of what follows a
value within an array or an object, up to and with what closes it. -/
inductive Passes : Option Open → Bytes → Prop
  | scalar {text} : PassesScalar text → Passes none text
  | empty {opened : Open} {before} : Blanks before →
      Passes none (opened.opener :: (before ++ [opened.closer]))
  | full {opened : Open} {before key between text later} : Blanks before → PassesKey opened key →
      Blanks between → Passes none text → Passes (some opened) later →
      Passes none (opened.opener :: (before ++ (key ++ (between ++ (text ++ later)))))
  | close {opened : Open} {before} : Blanks before →
      Passes (some opened) (before ++ [opened.closer])
  | more {opened before behind key between text later} : Blanks before → Blanks behind →
      PassesKey opened key →
      Blanks between → Passes none text → Passes (some opened) later →
      Passes (some opened)
        (before ++ Octet.comma :: (behind ++ (key ++ (between ++ (text ++ later)))))

end CommandBridge.Json
