import RobotWeb.Json.Codec
import RobotWeb.Proofs.Json.Text

/-!
# Stored values are read back

A value is stored faithfully if the JSON value that is written for it is read as the value, both as
it is and from its text. For plain values, lists, names and durations this is shown here; records
and variants are put together from them.

* `Restores`, `Faithful` — a value is read back, and all values of a type are.
* `LawfulCodec`          — what a type needs for that.
* `LawfulCodec.ofNames`  — variants without contents.
* `Value.without`        — an object without some of its members.
-/

namespace RobotWeb.Json

/-- The value that a text stands for. -/
def Codec.ofText? {α : Type} [Codec α] (text : String) : Option α :=
  (Json.read? text).bind Codec.read?

/-- The JSON value is read as `a`, and so is its text. -/
def Restores {α : Type} [Codec α] (v : Value) (a : α) : Prop :=
  Codec.read? v = some a ∧ Codec.ofText? v.text = some a

/-- All values of the type are read back from what is written for them. -/
def Faithful (α : Type) [Codec α] : Prop :=
  ∀ a : α, Restores (Codec.write a) a

/-- A value without fractions is restored from its text as well, since the text tells the value. -/
theorem restores_of_integral {α : Type} [Codec α] {v : Value} {a : α}
    (hread : Codec.read? v = some a)
    (h : v.Integral) : Restores v a := by
  refine ⟨hread, ?_⟩
  rw [Codec.ofText?, read?_text h, Option.bind_some, hread]

-- ---------------------------------------------------------------------------
-- Integral values
-- ---------------------------------------------------------------------------

namespace Value

attribute [simp] Integral.null Integral.bool Integral.integer Integral.string

@[simp] theorem integral_array {items : List Value} :
    (array items).Integral ↔ ∀ v ∈ items, v.Integral :=
  ⟨fun h => by cases h with | array items_integral => exact items_integral, .array⟩

@[simp] theorem integral_object {members : List (String × Value)} :
    (object members).Integral ↔ ∀ m ∈ members, m.2.Integral :=
  ⟨fun h => by cases h with | object members_integral => exact members_integral, .object⟩

end Value

-- ---------------------------------------------------------------------------
-- Laws
-- ---------------------------------------------------------------------------

/-- A type whose values are read back from what is written for them. -/
class LawfulCodec (α : Type) [Codec α] : Prop where
  read_write (a : α) : Codec.read? (Codec.write a) = some a
  integral_write (a : α) : (Codec.write a).Integral

attribute [simp] LawfulCodec.read_write LawfulCodec.integral_write

/-- What is written without fractions is read back from the value and from the text. -/
theorem LawfulCodec.faithful {α : Type} [Codec α] [LawfulCodec α] : Faithful α :=
  fun a => restores_of_integral (LawfulCodec.read_write a) (LawfulCodec.integral_write a)

instance : LawfulCodec String where
  read_write _ := rfl
  integral_write := .string

instance : LawfulCodec Bool where
  read_write _ := rfl
  integral_write := .bool

/-- Numbers within the bound are read back. -/
theorem natural?_natCast {bound n : Nat} (h : n < bound) :
    natural? bound (.integer n) = some n := by
  rw [natural?, if_pos ⟨Int.natCast_nonneg n, by exact_mod_cast h⟩, Int.toNat_natCast]

instance : LawfulCodec UInt32 where
  read_write n := by
    change (natural? UInt32.size (.integer n.toNat)).map UInt32.ofNat = some n
    rw [natural?_natCast n.toNat_lt_size, Option.map_some, UInt32.ofNat_toNat]
  integral_write n := .integer n.toNat

instance : LawfulCodec Int32 where
  read_write n := by
    have hfits : Text.fitsInt32 n.toInt = true := by
      simp only [Text.fitsInt32, Bool.and_eq_true, decide_eq_true_eq]
      exact ⟨n.minValue_le_toInt, n.toInt_le⟩
    change (if Text.fitsInt32 n.toInt then some (Int32.ofInt n.toInt) else none) = some n
    rw [if_pos hfits, Int32.ofInt_toInt]
  integral_write n := .integer n.toInt

/-- A text that may be missing: what is written for a missing one is written for no text. -/
instance : LawfulCodec (Option String) where
  read_write
    | none => rfl
    | some _ => rfl
  integral_write
    | none => .null
    | some s => .string s

/-- Lists are read back item by item. -/
theorem mapM_read?_write {α : Type} [Codec α] [LawfulCodec α] (as : List α) :
    (as.map Codec.write).mapM Codec.read? = some as := by
  induction as with
  | nil => rfl
  | cons a as ih => simp [ih]

instance {α : Type} [Codec α] [LawfulCodec α] : LawfulCodec (List α) where
  read_write := mapM_read?_write
  integral_write as := by
    change (Value.array (as.map Codec.write)).Integral
    simp

instance : LawfulCodec Duration where
  read_write d := by
    have hsecs := natural?_natCast d.seconds_lt
    have hnanos : natural? UInt32.size (.integer d.nanoseconds) = some d.nanoseconds :=
      natural?_natCast (Nat.lt_trans d.nanoseconds_lt (by decide))
    have hparts : durationParts? (Codec.write d) =
        some (.integer d.seconds, .integer d.nanoseconds) := rfl
    change ((durationParts? (Codec.write d)).bind fun parts =>
      (natural? UInt64.size parts.1).bind fun secs =>
        (natural? UInt32.size parts.2).bind fun nanos => Duration.carrying? secs nanos) = some d
    rw [hparts, Option.bind_some, hsecs, Option.bind_some, hnanos, Option.bind_some,
      Duration.carrying?_eq_some]
  integral_write d := by
    change (Value.object [("secs", .integer d.seconds), ("nanos", .integer d.nanoseconds)]).Integral
    simp

/-- Variants without contents are read back if no two of them have one name. -/
theorem LawfulCodec.ofNames {α : Type} {all : List α} {name : α → String}
    (h : ∀ a, all.find? (name · == name a) = some a) :
    @LawfulCodec α (Codec.ofNames all name) :=
  letI := Codec.ofNames all name
  { read_write := fun a => by
      change readName? all name (.string (name a)) = some a
      simpa [readName?, variant?, holdsNothing] using h a
    integral_write := fun a => .string (name a) }

-- ---------------------------------------------------------------------------
-- Fields
-- ---------------------------------------------------------------------------

@[simp] theorem member?_nil (name : String) : member? [] name = none :=
  rfl

@[simp] theorem member?_cons_self (name : String) (v : Value) (members : List (String × Value)) :
    member? ((name, v) :: members) name = some v := by
  simp [member?]

/-- A member of another name is passed over. -/
@[simp] theorem member?_cons_of_ne {other name : String} (h : other ≠ name) (v : Value)
    (members : List (String × Value)) :
    member? ((other, v) :: members) name = member? members name := by
  simp [member?, h]

namespace Fields

variable {α : Type} [Codec α] {other name : String} (place : Nat)
  (members : List (String × Value))

@[simp] theorem required_cons_self (v : Value) :
    (named ((name, v) :: members)).required place name = (Codec.read? v : Option α) := by
  simp [required, find?]

@[simp] theorem required_cons_of_ne (h : other ≠ name) (v : Value) :
    (named ((other, v) :: members)).required place name =
      ((named members).required place name : Option α) := by
  simp [required, find?, h]

@[simp] theorem nullable_cons_self (v : Value) :
    (named ((name, v) :: members)).nullable place name = (Codec.read? v : Option (Option α)) := by
  simp [nullable, find?]

@[simp] theorem nullable_cons_of_ne (h : other ≠ name) (v : Value) :
    (named ((other, v) :: members)).nullable place name =
      ((named members).nullable place name : Option (Option α)) := by
  simp only [nullable, find?, member?_cons_of_ne h]
  cases member? members name <;> rfl

end Fields

-- ---------------------------------------------------------------------------
-- Missing members
-- ---------------------------------------------------------------------------

/-- The members whose names are not among `names`. -/
def without (names : List String) (members : List (String × Value)) : List (String × Value) :=
  members.filter fun m => m.1 ∉ names

/-- An object without the members that have the given names. -/
def Value.without (names : List String) : Value → Value
  | .object members => .object (Json.without names members)
  | v => v

theorem Value.without_nil (v : Value) : v.without [] = v := by
  cases v <;> simp [Value.without, Json.without]

/-- Without some of its members an object holds no other numbers. -/
theorem Value.Integral.without {v : Value} (h : v.Integral) (names : List String) :
    (v.without names).Integral := by
  cases v with
  | object members =>
    exact .object fun m hm => Value.integral_object.mp h m (List.mem_filter.mp hm).1
  | null | bool | integer | real | string | array => exact h

/-- Taking out some members leaves those of other names. -/
theorem member?_without (names : List String) (members : List (String × Value)) (name : String) :
    member? (without names members) name =
      if name ∈ names then none else member? members name := by
  induction members with
  | nil => simp [without]
  | cons m members ih =>
    obtain ⟨other, v⟩ := m
    -- the first member is taken out or stays, and it is the one in question or not
    by_cases hother : other ∈ names
    · have hcut : without names ((other, v) :: members) = without names members := by
        simp [without, hother]
      rw [hcut, ih]
      split
      · rfl
      · rename_i hname
        rw [member?_cons_of_ne (ne_of_mem_of_not_mem hother hname)]
    · have hkept : without names ((other, v) :: members) =
          (other, v) :: without names members := by
        simp [without, hother]
      rw [hkept]
      by_cases heq : other = name
      · subst heq
        simp [hother]
      · rw [member?_cons_of_ne heq, member?_cons_of_ne heq, ih]

namespace Fields

variable {α : Type} [Codec α] {names : List String} {members : List (String × Value)}
  {name : String} {v : Value} {a : α}

/-- A field that is not left out is read as if none were. -/
theorem required_without (place : Nat) (hmember : member? members name = some v)
    (hread : Codec.read? v = some a) (hname : name ∉ names) :
    (named (without names members)).required place name = some a := by
  rw [required, find?, member?_without, if_neg hname, hmember, Option.bind_some, hread]

/-- A field that is left out only where it has its default is read as if none were. -/
theorem defaulted_without (place : Nat) {default : α} (hmember : member? members name = some v)
    (hread : Codec.read? v = some a) (hdefault : name ∈ names → a = default) :
    (named (without names members)).defaulted place name default = some a := by
  rw [defaulted, find?, member?_without]
  by_cases hname : name ∈ names
  · rw [if_pos hname, hdefault hname]
  · rw [if_neg hname, hmember]
    exact hread

end Fields

end RobotWeb.Json
