import Mathlib
import Giskard.Foundation.Json

/-!
# Values as text

Text forms with their reader (`TextCodec`), which carry the law that the reader undoes the
printer, and the fixed-width base 32 that identifiers are written in.
-/

set_option autoImplicit false

namespace Foundation

/-- A printer and a reader of a type's text form; what is printed is read back. -/
structure TextCodec (α : Type) where
  print : α → String
  parse : String → Option α
  parse_print : ∀ a, parse (print a) = some a

open Classical in
/-- The reader of an injective printer. -/
noncomputable def TextCodec.ofInjective {α : Type} (print : α → String)
    (injective : Function.Injective print) : TextCodec α where
  print := print
  parse text := if found : ∃ a, print a = text then some found.choose else none
  parse_print a := by
    have found : ∃ b, print b = print a := ⟨a, rfl⟩
    rw [dif_pos found]
    exact congrArg some (injective found.choose_spec)

/-! ## Base 32 -/

/-- The digit of a number below 32, in the alphabet without `I`, `L`, `O` and `U`. -/
def base32Digit (n : Fin 32) : Char :=
  "0123456789ABCDEFGHJKMNPQRSTVWXYZ".toList[n]?.getD '0'

theorem base32Digit_injective : Function.Injective base32Digit := by
  intro m n
  revert m n
  decide

/-- The `width` last digits of a number, highest first. -/
def base32 : ℕ → ℕ → List Char
  | 0, _ => []
  | width + 1, n => base32 width (n / 32) ++ [base32Digit (Fin.ofNat 32 n)]

@[simp] theorem length_base32 (width n : ℕ) : (base32 width n).length = width := by
  induction width generalizing n with
  | zero => rfl
  | succ width ih => simp [base32, ih]

theorem base32_inj {width m n : ℕ} (hm : m < 32 ^ width) (hn : n < 32 ^ width)
    (same : base32 width m = base32 width n) : m = n := by
  induction width generalizing m n with
  | zero => omega
  | succ width ih =>
    obtain ⟨high, low⟩ := List.append_inj' same rfl
    rw [pow_succ] at hm hn
    have quotient := ih (Nat.div_lt_of_lt_mul (by omega)) (Nat.div_lt_of_lt_mul (by omega)) high
    have remainder : m % 32 = n % 32 :=
      congrArg Fin.val (base32Digit_injective (List.singleton_inj.1 low))
    omega

/-! ## Numbers -/

theorem isNumber_digits {first : Char} {digits : List Char} (positive : first ≠ '0')
    (all : ∀ c ∈ first :: digits, c.isDigit = true) : isNumber (first :: digits) = true := by
  have head : first.isDigit = true := all first List.mem_cons_self
  have unsigned : first ≠ '-' := by
    rintro rfl
    exact absurd head (by decide)
  have rest : digits.dropWhile Char.isDigit = [] := by
    rw [List.dropWhile_eq_nil_iff]
    exact fun c member => all c (List.mem_cons_of_mem _ member)
  rw [isNumber]
  · rw [numberUnsigned]
    · simp [head, rest, numberFraction, numberExponent]
    · exact positive
  · rintro other ⟨⟩
    exact unsigned rfl

theorem toDigits_head {n : ℕ} (positive : 0 < n) :
    ∃ first digits, Nat.toDigits 10 n = first :: digits ∧ first ≠ '0' := by
  induction n using Nat.strongRecOn with
  | ind n ih =>
    by_cases small : n < 10
    · rw [Nat.toDigits_of_lt_base small]
      refine ⟨_, _, rfl, ?_⟩
      revert positive
      interval_cases n <;> decide
    · rw [Nat.toDigits_of_base_le (by decide) (by omega)]
      obtain ⟨first, digits, eq, nonzero⟩ := ih (n / 10) (by omega) (by omega)
      exact ⟨first, digits ++ [(n % 10).digitChar], by rw [eq, List.cons_append], nonzero⟩

theorem isNumber_toDigits (n : ℕ) : isNumber (Nat.toDigits 10 n) = true := by
  obtain rfl | positive := Nat.eq_zero_or_pos n
  · decide
  · have all : ∀ c ∈ Nat.toDigits 10 n, c.isDigit = true := fun c member =>
      Nat.isDigit_of_mem_toDigits (by decide) (by decide) member
    obtain ⟨first, digits, eq, nonzero⟩ := toDigits_head positive
    rw [eq] at all ⊢
    exact isNumber_digits nonzero all

theorem toDigits_unsigned {n : ℕ} (rest : List Char) : Nat.toDigits 10 n ≠ '-' :: rest := by
  intro eq
  have digit : '-'.isDigit = true := by
    apply Nat.isDigit_of_mem_toDigits (b := 10) (n := n) (by decide) (by decide)
    rw [eq]
    exact List.mem_cons_self
  exact absurd digit (by decide)

theorem isNumber_neg {text : List Char} (valid : isNumber text = true)
    (unsigned : ∀ rest, text ≠ '-' :: rest) : isNumber ('-' :: text) = true := by
  rw [isNumber] at valid
  · exact valid
  · exact unsigned

namespace Json

/-- A natural number as a JSON number. -/
def ofNat (n : ℕ) : Json := .num ⟨Nat.toDigits 10 n, isNumber_toDigits n⟩

/-- The natural number a JSON number denotes when it is written without sign, fraction and
exponent. -/
def asNat : Json → Option ℕ
  | .num n => if n.text.all Char.isDigit then some (Nat.ofDigitChars 10 n.text 0) else none
  | _ => none

@[simp] theorem asNat_ofNat (n : ℕ) : (ofNat n).asNat = some n := by
  have all : (Nat.toDigits 10 n).all Char.isDigit = true := by
    rw [List.all_eq_true]
    exact fun c member => Nat.isDigit_of_mem_toDigits (by decide) (by decide) member
  rw [ofNat, asNat]
  dsimp only
  rw [if_pos all, Nat.ofDigitChars_ten_toDigits]

/-- A negative number, one below `-n`, as a JSON number. -/
def ofNegSucc (n : ℕ) : Json :=
  .num ⟨'-' :: Nat.toDigits 10 (n + 1), isNumber_neg (isNumber_toDigits (n + 1)) toDigits_unsigned⟩

/-- An integer as a JSON number. -/
def ofInt : ℤ → Json
  | .ofNat n => ofNat n
  | .negSucc n => ofNegSucc n

/-- The integer a JSON number denotes when it is written without fraction and exponent; a
negative zero is not an integer. -/
def asInt : Json → Option ℤ
  | .num ⟨'-' :: digits, _⟩ =>
    if digits.all Char.isDigit && Nat.ofDigitChars 10 digits 0 ≠ 0 then
      some (-(Nat.ofDigitChars 10 digits 0 : ℤ))
    else none
  | v => v.asNat.map Int.ofNat

@[simp] theorem asInt_ofInt (n : ℤ) : (ofInt n).asInt = some n := by
  cases n with
  | ofNat n =>
    rw [ofInt, asInt]
    · rw [asNat_ofNat, Option.map_some]
    · rintro digits valid eq
      rw [ofNat, Json.num.injEq, Number.mk.injEq] at eq
      exact toDigits_unsigned digits eq
  | negSucc n =>
    have all : (Nat.toDigits 10 (n + 1)).all Char.isDigit = true := by
      rw [List.all_eq_true]
      exact fun c member => Nat.isDigit_of_mem_toDigits (by decide) (by decide) member
    rw [ofInt, ofNegSucc, asInt, all, Nat.ofDigitChars_ten_toDigits]
    simp [Int.negSucc_eq]

def ofUInt64 (n : UInt64) : Json := ofNat n.toNat

def asUInt64 (v : Json) : Option UInt64 :=
  v.asNat.bind fun n => if n < 2 ^ 64 then some (UInt64.ofNat n) else none

@[simp] theorem asUInt64_ofUInt64 (n : UInt64) : (ofUInt64 n).asUInt64 = some n := by
  rw [ofUInt64, asUInt64, asNat_ofNat, Option.bind_some, if_pos n.toNat_lt, UInt64.ofNat_toNat]

def ofUInt32 (n : UInt32) : Json := ofNat n.toNat

def asUInt32 (v : Json) : Option UInt32 :=
  v.asNat.bind fun n => if n < 2 ^ 32 then some (UInt32.ofNat n) else none

@[simp] theorem asUInt32_ofUInt32 (n : UInt32) : (ofUInt32 n).asUInt32 = some n := by
  rw [ofUInt32, asUInt32, asNat_ofNat, Option.bind_some, if_pos n.toNat_lt, UInt32.ofNat_toNat]

def ofInt64 (n : Int64) : Json := ofInt n.toInt

def asInt64 (v : Json) : Option Int64 :=
  v.asInt.bind fun n => if -2 ^ 63 ≤ n ∧ n < 2 ^ 63 then some (Int64.ofInt n) else none

@[simp] theorem asInt64_ofInt64 (n : Int64) : (ofInt64 n).asInt64 = some n := by
  rw [ofInt64, asInt64, asInt_ofInt, Option.bind_some, if_pos ⟨n.le_toInt, n.toInt_lt⟩,
    Int64.ofInt_toInt]

def ofInt32 (n : Int32) : Json := ofInt n.toInt

def asInt32 (v : Json) : Option Int32 :=
  v.asInt.bind fun n => if -2 ^ 31 ≤ n ∧ n < 2 ^ 31 then some (Int32.ofInt n) else none

@[simp] theorem asInt32_ofInt32 (n : Int32) : (ofInt32 n).asInt32 = some n := by
  rw [ofInt32, asInt32, asInt_ofInt, Option.bind_some, if_pos ⟨n.le_toInt, n.toInt_lt⟩,
    Int32.ofInt_toInt]

/-! ## Other scalars and lists -/

def asString : Json → Option String
  | .str text => some text
  | _ => none

@[simp] theorem asString_str (text : String) : (Json.str text).asString = some text := rfl

def asBool : Json → Option Bool
  | .bool value => some value
  | _ => none

@[simp] theorem asBool_bool (value : Bool) : (Json.bool value).asBool = some value := rfl

/-- The elements of an array, each read. -/
def asList {α : Type} (read : Json → Option α) : Json → Option (List α)
  | .arr elems => elems.mapM read
  | _ => none

/-- The name of a variant without fields: a string, or an object that has it as its only
member. -/
def asVariant : Json → Option String
  | .str name => some name
  | .obj [(name, .null)] => some name
  | _ => none

theorem asList_map {α β : Type} {read : Json → Option β} {write : α → Json} {f : α → β}
    (elems : List α) (readBack : ∀ a ∈ elems, read (write a) = some (f a)) :
    asList read (.arr (elems.map write)) = some (elems.map f) := by
  rw [asList]
  induction elems with
  | nil => rfl
  | cons a elems ih =>
    rw [List.map_cons, List.mapM_cons, readBack a List.mem_cons_self,
      ih fun b member => readBack b (List.mem_cons_of_mem _ member)]
    rfl

/-! ## Objects -/

/-- The value of a key; the last member counts when a key is repeated. -/
def lookup (key : String) : List (String × Json) → Option Json
  | [] => none
  | (k, v) :: members => (lookup key members).or (if k = key then some v else none)

def get? (key : String) : Json → Option Json
  | .obj members => lookup key members
  | _ => none

/-- A member that is left out when there is no value. -/
def optional (key : String) (value : Option Json) : List (String × Json) :=
  value.toList.map (key, ·)

@[simp] theorem lookup_nil (key : String) : lookup key [] = none := rfl

@[simp] theorem lookup_cons (key k : String) (v : Json) (members : List (String × Json)) :
    lookup key ((k, v) :: members) =
      (lookup key members).or (if k = key then some v else none) := rfl

@[simp] theorem lookup_append (key : String) (left right : List (String × Json)) :
    lookup key (left ++ right) = (lookup key right).or (lookup key left) := by
  induction left with
  | nil => simp
  | cons member left ih =>
    obtain ⟨k, v⟩ := member
    simp [ih, Option.or_assoc]

@[simp] theorem lookup_optional (key k : String) (value : Option Json) :
    lookup key (optional k value) = if k = key then value else none := by
  cases value with
  | none => simp [optional]
  | some v => simp [optional]

@[simp] theorem get?_obj (key : String) (members : List (String × Json)) :
    get? key (.obj members) = lookup key members := rfl

section

variable {α : Type}

/-- A field that has to be there. -/
def required (key : String) (read : Json → Option α) (v : Json) : Option α := (v.get? key).bind read

/-- An optional field: absent and null are the same. -/
def readOption (read : Json → Option α) : Option Json → Option (Option α)
  | none | some .null => some none
  | some v => (read v).map some

def optionalField (key : String) (read : Json → Option α) (v : Json) : Option (Option α) :=
  readOption read (v.get? key)

/-- A value with a default for when it is absent. -/
def readDefault (default : α) (read : Json → Option α) : Option Json → Option α
  | none => some default
  | some v => read v

def defaulted (key : String) (default : α) (read : Json → Option α) (v : Json) : Option α :=
  readDefault default read (v.get? key)

/-- A flag that is written when it is set. -/
def flagValue (flag : Bool) : Option Json := if flag then some (.bool true) else none

/-- A list that is written when it has elements. -/
def listValue (write : α → Json) (elems : List α) : Option Json :=
  if elems.isEmpty then none else some (.arr (elems.map write))

@[simp] theorem readDefault_some (default : α) (read : Json → Option α) (v : Json) :
    readDefault default read (some v) = read v := rfl

@[simp] theorem readDefault_flagValue (flag : Bool) :
    readDefault false asBool (flagValue flag) = some flag := by
  cases flag <;> rfl

theorem readDefault_listValue {β : Type} {read : Json → Option β} {write : α → Json} {f : α → β}
    (elems : List α) (readBack : ∀ a ∈ elems, read (write a) = some (f a)) :
    readDefault [] (asList read) (listValue write elems) = some (elems.map f) := by
  cases elems with
  | nil => rfl
  | cons a elems => exact asList_map (a :: elems) readBack

theorem readOption_map {β : Type} {read : Json → Option β} {write : α → Json} {f : α → β}
    (value : Option α) (readBack : ∀ a ∈ value, read (write a) = some (f a) ∧ write a ≠ .null) :
    readOption read (value.map write) = some (value.map f) := by
  cases value with
  | none => rfl
  | some a =>
    obtain ⟨back, present⟩ := readBack a rfl
    rw [Option.map_some, readOption, back, Option.map_some, Option.map_some]
    exact present

theorem readOption_write {read : Json → Option α} {write : α → Json}
    (readBack : ∀ a, read (write a) = some a) (present : ∀ a, write a ≠ .null) (value : Option α) :
    readOption read (value.map write) = some value := by
  rw [readOption_map value fun a _ => ⟨readBack a, present a⟩, Option.map_id']

theorem readDefault_write {read : Json → Option α} {write : α → Json}
    (readBack : ∀ a, read (write a) = some a) (elems : List α) :
    readDefault [] (asList read) (listValue write elems) = some elems := by
  rw [readDefault_listValue elems fun a _ => readBack a, List.map_id']

theorem asList_write {read : Json → Option α} {write : α → Json}
    (readBack : ∀ a, read (write a) = some a) (elems : List α) :
    asList read (.arr (elems.map write)) = some elems := by
  rw [asList_map elems fun a _ => readBack a, List.map_id']

theorem readOption_json (value : Option Json) :
    readOption some value = some (value.filter (· ≠ .null)) := by
  cases value with
  | none => rfl
  | some v => cases v <;> rfl

@[simp] theorem readOption_string (value : Option String) :
    readOption asString (value.map .str) = some value :=
  readOption_write asString_str (fun _ => Json.noConfusion) value

@[simp] theorem readOption_uInt64 (value : Option UInt64) :
    readOption asUInt64 (value.map ofUInt64) = some value :=
  readOption_write asUInt64_ofUInt64 (fun _ => Json.noConfusion) value

theorem ofInt_ne_null (n : ℤ) : ofInt n ≠ .null := by
  cases n <;> exact Json.noConfusion

@[simp] theorem readOption_int64 (value : Option Int64) :
    readOption asInt64 (value.map ofInt64) = some value :=
  readOption_write asInt64_ofInt64 (fun n => ofInt_ne_null n.toInt) value

@[simp] theorem readOption_int32 (value : Option Int32) :
    readOption asInt32 (value.map ofInt32) = some value :=
  readOption_write asInt32_ofInt32 (fun n => ofInt_ne_null n.toInt) value

end

/-! ## Nesting -/

section Depth

variable (key : String) (v : Json) (members : List (String × Json))

@[simp] theorem depth_str (text : String) : (Json.str text).depth = 0 := rfl

@[simp] theorem depth_bool (value : Bool) : (Json.bool value).depth = 0 := rfl

@[simp] theorem depth_ofNat (n : ℕ) : (ofNat n).depth = 0 := rfl

@[simp] theorem depth_ofUInt64 (n : UInt64) : (ofUInt64 n).depth = 0 := rfl

@[simp] theorem depth_ofUInt32 (n : UInt32) : (ofUInt32 n).depth = 0 := rfl

@[simp] theorem depth_obj : (Json.obj members).depth = depthMembers members + 1 := rfl

@[simp] theorem depth_arr (elems : List Json) : (Json.arr elems).depth = depthElems elems + 1 := rfl

@[simp] theorem depthMembers_nil : depthMembers [] = 0 := rfl

@[simp] theorem depthMembers_cons :
    depthMembers ((key, v) :: members) = max v.depth (depthMembers members) := rfl

@[simp] theorem depthMembers_append (more : List (String × Json)) :
    depthMembers (members ++ more) = max (depthMembers members) (depthMembers more) := by
  induction members with
  | nil => simp
  | cons member members ih => rw [List.cons_append, depthMembers, ih, depthMembers, max_assoc]

@[simp] theorem depth_flagValue (flag : Bool) : ((flagValue flag).map Json.depth).getD 0 = 0 := by
  cases flag <;> rfl

@[simp] theorem depthMembers_optional (value : Option Json) :
    depthMembers (optional key value) = (value.map Json.depth).getD 0 := by
  cases value with
  | none => rfl
  | some v => exact max_eq_left (Nat.zero_le _)

theorem depthElems_le {elems : List Json} {bound : ℕ} (all : ∀ v ∈ elems, v.depth ≤ bound) :
    depthElems elems ≤ bound := by
  induction elems with
  | nil => exact Nat.zero_le _
  | cons v elems ih =>
    rw [List.forall_mem_cons] at all
    exact max_le all.1 (ih all.2)

theorem depth_listValue_le {α : Type} {write : α → Json} {elems : List α} {bound : ℕ}
    (all : ∀ a, (write a).depth ≤ bound) :
    ((listValue write elems).map Json.depth).getD 0 ≤ bound + 1 := by
  unfold listValue
  split
  · exact Nat.zero_le _
  · rw [Option.map_some, Option.getD_some, depth_arr]
    apply Nat.succ_le_succ
    apply depthElems_le
    intro v member
    obtain ⟨a, -, rfl⟩ := List.mem_map.1 member
    exact all a

end Depth

end Json

end Foundation
