import CommandBridge.Bridge.Step
import Mathlib.Data.List.Forall2

/-! What a dashboard is shown of a command's end. A result carries one value, whatever shape it has
been sorted into. The manager channel shows it with the times of its records read, every other
channel as it is, and this is said of values alone. -/
namespace CommandBridge

/-- The value that a result carries. -/
inductive Carries : Payload → Json → Prop
  | records (rs : List Members) : Carries (.records rs) (.array (rs.map .object))
  | record (members : Members) : Carries (.record members) (.object members)
  | scalar (v : Json) : Carries (.scalar v) v
  | read {text v} : Json.read (octets text) = .ok v → Carries (.raw text) v
  | unread {text e} : Json.read (octets text) = .error e → Carries (.raw text) (.string text)

/-- A member of a record and what is shown of it. -/
inductive MemberShown : String × Json → String × Json → Prop
  | time {key v} : key ∈ ["lastStarted", "lastStopped", "startTime", "endTime"] →
      MemberShown (key, v) (key, leadingInteger (plainText v))
  | other {key v} : key ∉ ["lastStarted", "lastStopped", "startTime", "endTime"] →
      MemberShown (key, v) (key, v)

inductive ItemShown : Json → Json → Prop
  | record {members shown} : List.Forall₂ MemberShown members shown →
      ItemShown (.object members) (.object shown)
  | other {v} : (∀ members, v ≠ .object members) → ItemShown v v

/-- A value and what a channel shows of it. -/
inductive Shown : Channel → Json → Json → Prop
  | same {channel v} : channel ≠ .manager → Shown channel v v
  | sequence {items shown} : List.Forall₂ ItemShown items shown →
      Shown .manager (.array items) (.array shown)
  | single {v} : (∀ items, v ≠ .array items) → Shown .manager v v

theorem Carries.unique {p : Payload} {v w : Json} (hv : Carries p v) (hw : Carries p w) :
    v = w := by
  cases hv with
  | records rs => cases hw; rfl
  | record members => cases hw; rfl
  | scalar v => cases hw; rfl
  | read h =>
      cases hw with
      | read h' => exact Except.ok.inj (h.symm.trans h')
      | unread h' => cases h.symm.trans h'
  | unread h =>
      cases hw with
      | read h' => cases h.symm.trans h'
      | unread h' => rfl

theorem memberShown_unique : Relator.RightUnique MemberShown := by
  intro m x y hx hy
  cases hx with
  | time isTime =>
      cases hy with
      | time _ => rfl
      | other notTime => exact absurd isTime notTime
  | other notTime =>
      cases hy with
      | time isTime => exact absurd isTime notTime
      | other _ => rfl

theorem itemShown_unique : Relator.RightUnique ItemShown := by
  intro item x y hx hy
  cases hx with
  | record shown =>
      cases hy with
      | record shown' => rw [List.right_unique_forall₂' memberShown_unique shown shown']
      | other none => exact absurd rfl (none _)
  | other none =>
      cases hy with
      | record shown => exact absurd rfl (none _)
      | other _ => rfl

theorem Shown.unique {channel : Channel} {v x y : Json} (hx : Shown channel v x)
    (hy : Shown channel v y) : x = y := by
  cases hx with
  | same ne =>
      cases hy with
      | same _ => rfl
      | sequence _ => exact absurd rfl ne
      | single _ => rfl
  | sequence shown =>
      cases hy with
      | same ne => exact absurd rfl ne
      | sequence shown' => rw [List.right_unique_forall₂' itemShown_unique shown shown']
      | single none => exact absurd rfl (none _)
  | single none =>
      cases hy with
      | same _ => rfl
      | sequence _ => exact absurd rfl (none _)
      | single _ => rfl

namespace Payload

theorem toJson_raw_of_some {text : String} {v : Json} (h : parse? text = some v) :
    (raw text).toJson = v := by
  simp only [toJson, h, Option.getD_some]

theorem toJson_raw_of_none {text : String} (h : parse? text = none) :
    (raw text).toJson = .string text := by
  simp only [toJson, h, Option.getD_none]

theorem decoded_raw_of_some {text : String} {v : Json} (h : parse? text = some v) :
    (raw text).decoded = ofJson v := by
  simp only [decoded, h]

theorem decoded_raw_of_none {text : String} (h : parse? text = none) :
    (raw text).decoded = .raw text := by
  simp only [decoded, h]

theorem carries_toJson (p : Payload) : Carries p p.toJson := by
  cases p with
  | records rs => exact .records rs
  | record members => exact .record members
  | scalar v => exact .scalar v
  | raw text =>
      cases h : Json.read (octets text) with
      | ok v =>
          rw [toJson_raw_of_some (v := v) (by rw [parse?, h]; rfl)]
          exact .read h
      | error e =>
          rw [toJson_raw_of_none (by rw [parse?, h]; rfl)]
          exact .unread h

theorem map_object_filterMap {items : List Json}
    (all : ∀ item ∈ items, (object? item).isSome = true) :
    (items.filterMap object?).map Json.object = items := by
  induction items with
  | nil => rfl
  | cons item rest ih =>
      have head := all item List.mem_cons_self
      have tail := ih fun item member => all item (List.mem_cons_of_mem _ member)
      cases item with
      | object members => simpa [object?] using tail
      | _ => cases head

theorem toJson_ofJson (v : Json) : (ofJson v).toJson = v := by
  cases v with
  | array items =>
      simp only [ofJson]
      split
      · rename_i sequence
        have all := List.all_eq_true.mp (Bool.and_eq_true_iff.mp sequence).2
        exact congrArg Json.array (map_object_filterMap all)
      · rfl
  | _ => rfl

/-- The items of an array with their times read; any other value as it is. -/
def timed : Json → Json
  | .array items => .array (items.map normalizeItem)
  | v => v

theorem toJson_normalize {p : Payload} (notRaw : ∀ text, p ≠ .raw text) :
    p.normalize.toJson = timed p.toJson := by
  cases p with
  | records rs => simp [normalize, toJson, timed, Function.comp_def, normalizeItem]
  | record members => rfl
  | scalar v => cases v <;> rfl
  | raw text => exact absurd rfl (notRaw text)

theorem normalize_raw (text : String) : (raw text).normalize = .raw text := rfl

theorem ofJson_ne_raw (v : Json) (text : String) : ofJson v ≠ .raw text := by
  cases v with
  | array items =>
      simp only [ofJson]
      split <;> nofun
  | _ => nofun

/-- Reading a result, sorting it and reading the times in it comes to reading the times in its
value. -/
theorem toJson_normalize_decoded (p : Payload) : p.decoded.normalize.toJson = timed p.toJson := by
  cases p with
  | raw text =>
      cases h : parse? text with
      | some v =>
          rw [decoded_raw_of_some h, toJson_normalize (ofJson_ne_raw v), toJson_ofJson,
            toJson_raw_of_some h]
      | none =>
          rw [decoded_raw_of_none h, normalize_raw, toJson_raw_of_none h]
          rfl
  | records rs => exact toJson_normalize nofun
  | record members => exact toJson_normalize nofun
  | scalar v => exact toJson_normalize nofun

theorem memberShown_normalize (m : String × Json) :
    MemberShown m (if timeFields.contains m.1 then (m.1, leadingInteger (plainText m.2))
      else m) := by
  split
  · exact .time (List.contains_iff_mem.mp ‹_›)
  · exact .other fun member => absurd (List.contains_iff_mem.mpr member) ‹_›

theorem itemShown_normalizeItem (item : Json) : ItemShown item (normalizeItem item) := by
  cases item with
  | object members =>
      exact .record (List.forall₂_map_right_iff.mpr
        (List.forall₂_same.mpr fun m _ => memberShown_normalize m))
  | _ => exact .other nofun

theorem shown_timed (v : Json) : Shown .manager v (timed v) := by
  cases v with
  | array items =>
      exact .sequence (List.forall₂_map_right_iff.mpr
        (List.forall₂_same.mpr fun item _ => itemShown_normalizeItem item))
  | _ => exact .single nofun

theorem shown_toJson (channel : Channel) (p : Payload) :
    Shown channel p.toJson (if channel.normalizes then p.decoded.normalize else p).toJson := by
  cases channel with
  | manager =>
      simp only [Channel.normalizes, if_true, toJson_normalize_decoded]
      exact shown_timed p.toJson
  | _ => exact .same nofun

end Payload

/-- A failure is told without a result on every channel. -/
theorem toJson_null (channel : Channel) :
    (if channel.normalizes then (Payload.scalar .null).decoded.normalize
      else .scalar .null).toJson = .null := by
  cases channel <;> rfl

namespace Bridge

/-- The answer to a command whose call has just been made and ends. A result is shown as its channel
shows the value that it carries, with no error; a failure is told as it is, a call that broke off in
words, and either with no result. -/
theorem settled_shown (b : Bridge) (link : Nat) (channel : Channel) (command : Command)
    (outcome : Outcome) :
    ∃ error params,
      ((b.dispatch link channel command).1.step (.endCall b.tasks.length outcome)).2 =
        [.emitted b.tasks.length link (.exec error ⟨command.method, params, command.id⟩)
          (b.isOpen link)] ∧
      match outcome with
      | .done result => error = none ∧
          ∀ shown, (∃ v, Carries result v ∧ Shown channel v shown) ↔ shown = params
      | .failed failure => error = some failure ∧ params = .null
      | .aborted _ _ =>
          (∃ words, error = some (.message ("backend call aborted: " ++ words))) ∧
              params = .null := by
  have pending : (b.dispatch link channel command).1.tasks[b.tasks.length]? =
      some (.commanding link channel command) := by
    simp [dispatch, addTask]
  simp only [step, endCall, pending]
  cases outcome with
  | done result =>
      refine ⟨none, _, rfl, rfl, ?_⟩
      intro shown
      constructor
      · rintro ⟨v, carried, seen⟩
        rw [carried.unique result.carries_toJson] at seen
        exact seen.unique (result.shown_toJson channel)
      · rintro rfl
        exact ⟨_, result.carries_toJson, result.shown_toJson channel⟩
  | failed failure => exact ⟨some failure, _, rfl, rfl, toJson_null channel⟩
  | aborted task words => exact ⟨some (.ofAbort task words), _, rfl, ⟨_, rfl⟩, toJson_null channel⟩

end Bridge

end CommandBridge
