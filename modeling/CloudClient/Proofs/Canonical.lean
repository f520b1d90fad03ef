import CloudClient.Value.Equality
import Mathlib.Algebra.Order.Field.Power
import Mathlib.Data.Rat.Cast.Order
import Mathlib.Tactic.Linarith

namespace CloudClient

namespace Number

/-- The exact value of the finite double `± mantissa * 2 ^ exponent`. -/
def exactValue (negative : Bool) (mantissa : Nat) (exponent : Int) : ℚ :=
  (if negative then -(mantissa : ℚ) else mantissa) * 2 ^ exponent

/-- A power of two with an exponent at least another is that one shifted by the difference. -/
theorem two_zpow_shift {e₁ e₂ : Int} (le : e₁ ≤ e₂) :
    (2 : ℚ) ^ e₂ = 2 ^ e₁ * 2 ^ (e₂ - e₁).toNat := by
  rw [← zpow_natCast, Int.toNat_of_nonneg (by omega), ← zpow_add₀ two_ne_zero]
  congr 1
  omega

/-- Scaled mantissas agree exactly when one is the other shifted by the exponents' difference. -/
theorem scaled_eq_iff (m₁ m₂ : Nat) (e₁ e₂ : Int) :
    (m₁ : ℚ) * 2 ^ e₁ = m₂ * 2 ^ e₂ ↔
      if e₁ ≤ e₂ then m₁ = m₂ * 2 ^ (e₂ - e₁).toNat else m₁ * 2 ^ (e₁ - e₂).toNat = m₂ := by
  by_cases le : e₁ ≤ e₂
  · rw [if_pos le, two_zpow_shift le, mul_comm (m₁ : ℚ), mul_left_comm,
      mul_right_inj' (zpow_ne_zero _ two_ne_zero)]
    norm_cast
  · rw [if_neg le, two_zpow_shift (le_of_lt (not_le.mp le)), mul_comm (m₂ : ℚ), mul_left_comm,
      mul_right_inj' (zpow_ne_zero _ two_ne_zero)]
    norm_cast

/-- A scaled mantissa is a natural number exactly as the integer comparison of the model finds. -/
theorem scaled_eq_nat (m k : Nat) (e : Int) :
    (m : ℚ) * 2 ^ e = k ↔ if 0 ≤ e then m * 2 ^ e.toNat = k else m = k * 2 ^ (-e).toNat := by
  have scaled := scaled_eq_iff m k e 0
  rw [zpow_zero, mul_one] at scaled
  rw [scaled]
  by_cases nonneg : 0 ≤ e
  · by_cases zero : e = 0
    · subst zero
      simp
    · rw [if_neg (by omega), if_pos nonneg, Int.sub_zero]
  · rw [if_pos (by omega), if_neg nonneg, Int.zero_sub]

/-- The scaled mantissa of a double with a mantissa that is not zero is positive. -/
theorem scaled_pos {mantissa : Nat} (nonzero : mantissa ≠ 0) (exponent : Int) :
    (0 : ℚ) < mantissa * 2 ^ exponent :=
  mul_pos (by exact_mod_cast Nat.pos_of_ne_zero nonzero) (zpow_pos two_pos _)

/-- Comparing a finite double with an integer is the equality of its exact value with it. -/
theorem finiteEqualsInt_iff (negative : Bool) (mantissa : Nat) (exponent n : Int) :
    finiteEqualsInt negative mantissa exponent n = true ↔ exactValue negative mantissa exponent = n := by
  unfold finiteEqualsInt exactValue
  by_cases zero : mantissa = 0
  · subst zero
    simp only [beq_self_eq_true, if_true, Nat.cast_zero, neg_zero, ite_self, zero_mul, beq_iff_eq]
    constructor
    · rintro rfl
      simp
    · intro h
      exact_mod_cast h.symm
  · have positive := scaled_pos zero exponent
    have magnitude := scaled_eq_nat mantissa n.natAbs exponent
    have notZero : (mantissa == 0) = false := by simpa using zero
    rw [if_neg (by simp [notZero])]
    by_cases sign : n < 0
    · have below : (n : ℚ) < 0 := by exact_mod_cast sign
      cases negative
      · simp only [Bool.false_eq_true, if_false, sign, decide_true, bne_iff_ne, ne_eq,
          not_false_eq_true, if_true]
        constructor
        · intro h
          cases h
        · intro h
          linarith
      · have whole : (n : ℚ) = -(n.natAbs : ℚ) := by
          rw [Nat.cast_natAbs, Int.cast_abs, abs_of_neg below, neg_neg]
        simp only [if_true, sign, decide_true, bne_self_eq_false, Bool.false_eq_true, if_false,
          whole, neg_mul, neg_inj, magnitude]
        split <;> simp
    · have whole : (n : ℚ) = (n.natAbs : ℚ) := by
        rw [Nat.cast_natAbs, Int.cast_abs, abs_of_nonneg (by exact_mod_cast not_lt.mp sign)]
      cases negative
      · simp only [Bool.false_eq_true, if_false, sign, decide_false, bne_self_eq_false, whole,
          magnitude]
        split <;> simp
      · simp only [if_true, sign, decide_false, bne_iff_ne, ne_eq, Bool.true_eq_false,
          not_false_eq_true]
        constructor
        · intro h
          cases h
        · intro h
          have : (0 : ℚ) ≤ n := by exact_mod_cast not_lt.mp sign
          linarith

/-- Doubles with nonzero mantissas are equal exactly when their signs and scaled mantissas are. -/
theorem exactValue_eq_iff {n₁ n₂ : Bool} {m₁ m₂ : Nat} (nonzero₁ : m₁ ≠ 0) (nonzero₂ : m₂ ≠ 0)
    (e₁ e₂ : Int) :
    exactValue n₁ m₁ e₁ = exactValue n₂ m₂ e₂ ↔ n₁ = n₂ ∧ (m₁ : ℚ) * 2 ^ e₁ = m₂ * 2 ^ e₂ := by
  have positive₁ := scaled_pos nonzero₁ e₁
  have positive₂ := scaled_pos nonzero₂ e₂
  unfold exactValue
  cases n₁ <;> cases n₂ <;> simp only [Bool.false_eq_true, if_false, if_true, neg_mul, neg_inj,
    true_and, Bool.true_eq_false, false_and, iff_false]
  · intro h
    linarith
  · intro h
    linarith

/-- The model's comparison of two finite doubles is the equality of their exact values. -/
theorem finiteEquals_iff (n₁ : Bool) (m₁ : Nat) (e₁ : Int) (n₂ : Bool) (m₂ : Nat) (e₂ : Int) :
    (if (m₁ == 0 && m₂ == 0) = true then true
      else n₁ == n₂ && (if e₁ ≤ e₂ then m₁ == m₂ * 2 ^ (e₂ - e₁).toNat
        else m₁ * 2 ^ (e₁ - e₂).toNat == m₂)) = true ↔
      exactValue n₁ m₁ e₁ = exactValue n₂ m₂ e₂ := by
  by_cases zero₁ : m₁ = 0 <;> by_cases zero₂ : m₂ = 0
  · subst zero₁ zero₂
    simp [exactValue]
  · subst zero₁
    have two : (2 : ℚ) ^ e₂ ≠ 0 := zpow_ne_zero _ two_ne_zero
    cases n₂ <;> simp [exactValue, zero₂, Ne.symm zero₂, two]
  · subst zero₂
    have two : (2 : ℚ) ^ e₁ ≠ 0 := zpow_ne_zero _ two_ne_zero
    cases n₁ <;> simp [exactValue, zero₁, two]
  · rw [exactValue_eq_iff zero₁ zero₂, scaled_eq_iff, if_neg (by simp [zero₁, zero₂])]
    simp only [Bool.and_eq_true, beq_iff_eq]
    split <;> simp

/-- What a double stands for: an exact value, or an infinity of a sign. -/
inductive Magnitude where
  | exact (value : ℚ)
  | infinite (negative : Bool)
  deriving DecidableEq

/-- What a double stands for; not-a-number stands for nothing. -/
def magnitude? (x : Float) : Option Magnitude :=
  match shape x with
  | .finite negative mantissa exponent => some (.exact (exactValue negative mantissa exponent))
  | .infinite negative => some (.infinite negative)
  | .nan => none

/-- Two doubles are equal exactly when they stand for one magnitude. -/
theorem floatEquals_iff (x y : Float) :
    floatEquals x y = true ↔ ∃ m, magnitude? x = some m ∧ magnitude? y = some m := by
  unfold floatEquals magnitude?
  cases shape x with
  | finite n₁ m₁ e₁ =>
    cases shape y with
    | finite n₂ m₂ e₂ =>
      dsimp only
      rw [finiteEquals_iff]
      simpa using eq_comm
    | _ => simp
  | infinite n₁ =>
    cases shape y with
    | infinite n₂ => simpa using eq_comm
    | _ => simp
  | nan => simp

/-- A double equals an integer exactly when it stands for that integer's value. -/
theorem floatEqualsInt_iff (x : Float) (n : Int) :
    floatEqualsInt x n = true ↔ magnitude? x = some (.exact n) := by
  unfold floatEqualsInt magnitude?
  cases shape x <;> simp [finiteEqualsInt_iff]

end Number

/-- Handles compare by the equality of their constructors and names. -/
instance : LawfulBEq Handle where
  eq_of_beq {a b} same := by
    cases a <;> cases b <;> simp_all [BEq.beq, instBEqHandle.beq]
  rfl {a} := by
    cases a <;> simp [BEq.beq, instBEqHandle.beq]

namespace Timestamp

/-- The moment a timestamp denotes: its clock without an offset, its UTC instant with one. -/
inductive Moment where
  | naive (micros : Int)
  | aware (utcMicros : Int)
  deriving DecidableEq

/-- The moment a timestamp denotes. -/
def moment (t : Timestamp) : Moment :=
  match t.offset with
  | none => .naive t.localMicros
  | some offset => .aware (t.localMicros - offset)

/-- Two timestamps are the same moment exactly when they denote one. -/
theorem sameMoment_iff (a b : Timestamp) : a.sameMoment b = true ↔ a.moment = b.moment := by
  unfold sameMoment moment
  cases a.offset <;> cases b.offset <;> simp

end Timestamp

namespace Value

mutual

/-- The canonical form of a value that can key a mapping. -/
inductive Canon where
  | none
  | number (magnitude : Number.Magnitude)
  | str (text : String)
  | bytes (data : List UInt8)
  | tuple (items : Canons)
  | recordClass (kind : RecordKind)
  | time (moment : Timestamp.Moment)
  | handle (h : Handle)

/-- The canonical forms of the members of a tuple. -/
inductive Canons where
  | nil
  | cons (head : Canon) (tail : Canons)

end

deriving instance DecidableEq for Canon, Canons

/-- The canonical form of a value; none for an unhashable one and one holding not-a-number. -/
def canon : Value → Option Canon
  | .none => some .none
  | .bool b => some (.number (.exact (boolNumber b)))
  | .int n => some (.number (.exact n))
  | .float x => (Number.magnitude? x).map .number
  | .str text => some (.str text)
  | .bytes data => some (.bytes data)
  | .tuple items => (canonAll items).map .tuple
  | .recordClass kind => some (.recordClass kind)
  | .time t => some (.time t.moment)
  | .handle h => some (.handle h)
  | .list _ | .dict _ | .set _ | .record _ _ => Option.none
where
  /-- The canonical forms of the members of a tuple, when each has one. -/
  canonAll : List Value → Option Canons
    | [] => some .nil
    | item :: rest =>
      match canon item, canonAll rest with
      | some c, some cs => some (.cons c cs)
      | _, _ => Option.none

@[simp] theorem boolNumber_inj {a b : Bool} : boolNumber a = boolNumber b ↔ a = b := by
  cases a <;> cases b <;> decide

theorem canonAll_nil : canon.canonAll [] = some .nil := rfl

theorem canonAll_cons_eq_some {item : Value} {rest : List Value} {cs : Canons} :
    canon.canonAll (item :: rest) = some cs ↔
      ∃ c tail, canon item = some c ∧ canon.canonAll rest = some tail ∧ cs = .cons c tail := by
  simp only [canon.canonAll]
  cases canon item <;> cases canon.canonAll rest <;> simp [eq_comm]

theorem firstUnhashable_cons_eq_none {item : Value} {rest : List Value} :
    unhashablePart?.firstUnhashable (item :: rest) = Option.none ↔
      item.unhashablePart? = Option.none ∧ unhashablePart?.firstUnhashable rest = Option.none := by
  simp only [unhashablePart?.firstUnhashable]
  cases item.unhashablePart? <;> simp

/-- A hashable value that is no tuple equals another exactly when they have one canonical form. -/
theorem equals_iff_canon_of_atom {a : Value} (b : Value) (atom : ∀ items, a ≠ .tuple items)
    (keyable : a.unhashablePart? = Option.none) :
    a.equals b = true ↔ ∃ c, a.canon = some c ∧ b.canon = some c := by
  cases a <;> cases b <;> simp_all [equals, canon, unhashablePart?, Number.floatEquals_iff,
    Number.floatEqualsInt_iff, Timestamp.sameMoment_iff] <;> exact eq_comm

mutual

/-- Two values that can key a mapping are equal exactly when they have one canonical form. -/
theorem equals_iff_canon (a b : Value) (ka : a.unhashablePart? = Option.none)
    (kb : b.unhashablePart? = Option.none) :
    a.equals b = true ↔ ∃ c, a.canon = some c ∧ b.canon = some c := by
  cases a with
  | tuple xs =>
    cases b with
    | tuple ys =>
      have items := sameItems_iff_canon xs ys ka kb
      simp only [equals, canon] at items ⊢
      rw [items]
      constructor
      · rintro ⟨cs, hxs, hys⟩
        exact ⟨.tuple cs, by simp [hxs], by simp [hys]⟩
      · rintro ⟨c, hxs, hys⟩
        obtain ⟨cs, left, rfl⟩ := Option.map_eq_some_iff.mp hxs
        obtain ⟨cs', right, same⟩ := Option.map_eq_some_iff.mp hys
        cases same
        exact ⟨cs, left, right⟩
    | _ => simp [equals, canon]
  | _ => exact equals_iff_canon_of_atom b (by simp) ka

/-- Hashable lists are equal member by member exactly when their canonical forms are. -/
theorem sameItems_iff_canon (xs ys : List Value)
    (kxs : unhashablePart?.firstUnhashable xs = Option.none)
    (kys : unhashablePart?.firstUnhashable ys = Option.none) :
    equals.sameItems xs ys = true ↔ ∃ cs, canon.canonAll xs = some cs ∧ canon.canonAll ys = some cs := by
  cases xs with
  | nil =>
    cases ys with
    | nil => simp [equals.sameItems, canonAll_nil]
    | cons y ys => simp [equals.sameItems, canonAll_nil, canonAll_cons_eq_some]
  | cons x xs =>
    cases ys with
    | nil => simp [equals.sameItems, canonAll_nil, canonAll_cons_eq_some]
    | cons y ys =>
      obtain ⟨kx, kxs⟩ := firstUnhashable_cons_eq_none.mp kxs
      obtain ⟨ky, kys⟩ := firstUnhashable_cons_eq_none.mp kys
      rw [equals.sameItems, Bool.and_eq_true, equals_iff_canon x y kx ky,
        sameItems_iff_canon xs ys kxs kys]
      simp only [canonAll_cons_eq_some]
      constructor
      · rintro ⟨⟨c, hx, hy⟩, ⟨cs, hxs, hys⟩⟩
        exact ⟨.cons c cs, ⟨c, cs, hx, hxs, rfl⟩, ⟨c, cs, hy, hys, rfl⟩⟩
      · rintro ⟨_, ⟨c, cs, hx, hxs, rfl⟩, ⟨c', cs', hy, hys, same⟩⟩
        cases same
        exact ⟨⟨c, hx, hy⟩, ⟨cs, hxs, hys⟩⟩

end

mutual

/-- A value with a canonical form can key a mapping. -/
theorem unhashablePart?_of_canon {v : Value} {c : Canon} (formed : v.canon = some c) :
    v.unhashablePart? = Option.none := by
  cases v with
  | tuple items =>
    obtain ⟨cs, all, -⟩ := Option.map_eq_some_iff.mp formed
    exact firstUnhashable_of_canonAll all
  | _ => simp_all [canon, unhashablePart?]

theorem firstUnhashable_of_canonAll {items : List Value} {cs : Canons}
    (formed : canon.canonAll items = some cs) : unhashablePart?.firstUnhashable items = Option.none := by
  cases items with
  | nil => rfl
  | cons item rest =>
    obtain ⟨c, tail, head, formedTail, -⟩ := canonAll_cons_eq_some.mp formed
    exact firstUnhashable_cons_eq_none.mpr
      ⟨unhashablePart?_of_canon head, firstUnhashable_of_canonAll formedTail⟩

end

/-- Equality is symmetric on the values that can key a mapping. -/
theorem equals_symm {a b : Value} (ka : a.unhashablePart? = Option.none)
    (kb : b.unhashablePart? = Option.none) (same : a.equals b = true) : b.equals a = true := by
  obtain ⟨c, ha, hb⟩ := (equals_iff_canon a b ka kb).mp same
  exact (equals_iff_canon b a kb ka).mpr ⟨c, hb, ha⟩

/-- Equality is transitive on the values that can key a mapping. -/
theorem equals_trans {a b c : Value} (ka : a.unhashablePart? = Option.none)
    (kb : b.unhashablePart? = Option.none) (kc : c.unhashablePart? = Option.none)
    (ab : a.equals b = true) (bc : b.equals c = true) : a.equals c = true := by
  obtain ⟨x, ha, hb⟩ := (equals_iff_canon a b ka kb).mp ab
  obtain ⟨y, hb', hc⟩ := (equals_iff_canon b c kb kc).mp bc
  have same : x = y := Option.some_injective _ (hb.symm.trans hb')
  exact (equals_iff_canon a c ka kc).mpr ⟨x, ha, same ▸ hc⟩

/-- A value with a canonical form: hashable, and neither not-a-number nor holding one. -/
abbrev Keyed := { v : Value // v.canon.isSome }

/-- The canonical form of a keyed value. -/
def Keyed.form (v : Keyed) : Canon := v.val.canon.get v.property

theorem Keyed.canon_eq (v : Keyed) : v.val.canon = some v.form := by
  simp [Keyed.form]

/-- Keyed values are equal exactly when their canonical forms are. -/
theorem Keyed.equals_iff (a b : Keyed) : a.val.equals b.val = true ↔ a.form = b.form := by
  rw [equals_iff_canon a.val b.val (unhashablePart?_of_canon a.canon_eq)
    (unhashablePart?_of_canon b.canon_eq), a.canon_eq, b.canon_eq]
  simpa using eq_comm

end Value

end CloudClient
